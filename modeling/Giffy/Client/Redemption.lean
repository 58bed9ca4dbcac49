import Giffy.Client.SealedClaim
import Giffy.Pool.Custody

/-! How many denominations the depositors of a pool can still withdraw. -/

namespace Giffy.Client

open Pool hiding depth
open Circuit TokenLedger

structure Redemption where
  secret : Fr
  siblings : Vector Fr depth
  indexBits : Vector Bool depth

section Definitions

variable {Address : Type} [DecidableEq Address] (d : Deployment Address)
  (prover : WithdrawCircuit → Proof) (env : Env Address) (payee : Fr → Address)
  (signal : Fr → Fr)

def redeem (redemption : Redemption) : Action Address (Call Address) :=
  let assigned := assign d.hash2 redemption.secret redemption.siblings redemption.indexBits
    (signal redemption.secret)
  .invoke env (.withdraw (Fr.toBytes assigned.2.1) (Fr.toBytes assigned.2.2)
    (payee redemption.secret) (Fr.toBytes (signal redemption.secret)) (prover assigned.1))

def nullifierOf (secret : Fr) : BytesN 32 := Fr.toBytes (d.hash2 secret 1)

def payoutReceipt (pool : Instance Address) (secret : Fr) : Receipt Address :=
  ⟨none, [⟨pool.config.token, d.self, payee secret, pool.config.denom.value⟩],
    [.withdraw (nullifierOf d secret)]⟩

/-- Some `count` withdrawals with honest proofs for these secrets all pay, one after another. -/
def Redeemable (pool : Instance Address) (s : State Address) (secrets : List Fr) (count : Nat) :
    Prop :=
  ∃ redemptions : List Redemption, redemptions.length = count ∧
    (∀ redemption ∈ redemptions, redemption.secret ∈ secrets) ∧
    ((machine d).trace s (redemptions.map (redeem d prover env payee signal))).map
        Runs.Record.outcome =
      redemptions.map fun redemption => .ok (payoutReceipt d payee pool redemption.secret)

/-- A complete prover: the pool's verifier accepts the proof of every assigned circuit. -/
def Complete (pool : Instance Address) : Prop :=
  ∀ secret siblings indexBits recipient,
    let assigned := assign d.hash2 secret siblings indexBits recipient
    callVerifier d pool.config.verifier pool.vk (prover assigned.1)
      [Fr.toBytes assigned.2.1, Fr.toBytes assigned.2.2, Fr.toBytes recipient] = .ok true

def RefusesNegative {Address : Type} : Action Address (Call Address) → Prop
  | .invoke env _ => ∀ t, t.amount < 0 → env.refuses t = true
  | .outside _ _ _ => True

structure Backed (past : List (Entry Address)) (s : State Address) : Prop where
  unset : s.storage = none → commitments past = [] ∧ spent past = []
  solvent : ∀ token, 0 ≤ s.balances token d.self
  sign : ∀ pool, s.storage = some pool → commitments past ≠ [] → 0 ≤ pool.config.denom.value
  covered : ∀ pool, s.storage = some pool →
    pool.config.denom.value * ((commitments past).length - (spent past).length) ≤
      s.balances pool.config.token d.self

end Definitions

section Backing

variable {Address : Type} [DecidableEq Address] {d : Deployment Address}
  {past : List (Entry Address)} {s after : State Address} {receipt : Receipt Address}
  {action : Action Address (Call Address)}

omit [DecidableEq Address] in
theorem Backed.failed (backed : Backed d past s) (trap : Trap PoolError) :
    Backed d (past ++ [⟨s, action, .error trap⟩]) s := by
  have noDeposit : commitments (past ++ [⟨s, action, .error trap⟩]) = commitments past := by
    rw [commitments_append]
    cases action with
    | outside => simp [depositOf]
    | invoke env call => cases call <;> simp [depositOf]
  have noSpend : spent (past ++ [⟨s, action, .error trap⟩]) = spent past := by
    rw [spent_append, failed_spentBy]
    simp
  constructor
  · simpa [noDeposit, noSpend] using backed.unset
  · exact backed.solvent
  · simpa [noDeposit] using backed.sign
  · simpa [noDeposit, noSpend] using backed.covered

omit [DecidableEq Address] in
theorem moved_nonneg {env : Env Address} {call : Call Address}
    (ordinary : RefusesNegative (.invoke env call)) {t : Transfer Address}
    (unrefused : env.refuses t = false) : 0 ≤ t.amount := by
  by_contra negative
  rw [ordinary t (not_le.mp negative)] at unrefused
  cases unrefused

theorem step_solvent (solvent : ∀ token, 0 ≤ s.balances token d.self)
    (ordinary : RefusesNegative action) (ran : exec d s action = .ok (after, receipt)) :
    ∀ token, 0 ≤ after.balances token d.self := by
  cases exec_step ran with
  | initialized => exact solvent
  | @deposited _ _ _ pool _ payment _ stored paid funded =>
      apply move_solvent _ funded solvent
      rw [paid]
      exact moved_nonneg ordinary (deposit_unrefused ran stored)
  | withdrawn _ _ _ _ _ funded unrefused =>
      exact move_solvent (moved_nonneg ordinary unrefused) funded solvent
  | outside kept =>
      intro other
      exact le_trans (solvent other) (add_ge kept s.balances other)

theorem step_sign (backed : Backed d past s) (ordinary : RefusesNegative action)
    (ran : exec d s action = .ok (after, receipt)) :
    ∀ pool, after.storage = some pool → commitments (past ++ [⟨s, action, .ok receipt⟩]) ≠ [] →
      0 ≤ pool.config.denom.value := by
  intro pool stored deposits
  rw [commitments_append] at deposits
  cases exec_step ran with
  | initialized unset =>
      rw [(backed.unset unset).1] at deposits
      simp [depositOf] at deposits
  | deposited _ before =>
      cases stored
      exact moved_nonneg ordinary (deposit_unrefused ran before)
  | withdrawn => exact backed.sign pool stored (by simpa [depositOf] using deposits)
  | outside => exact backed.sign pool stored (by simpa [depositOf] using deposits)

theorem step_covered (backed : Backed d past s) (foreign : NotSelfPaid Call.payer d.self action)
    (ordinary : RefusesNegative action) (ran : exec d s action = .ok (after, receipt)) :
    ∀ pool, after.storage = some pool →
      pool.config.denom.value * ((commitments (past ++ [⟨s, action, .ok receipt⟩])).length -
          (spent (past ++ [⟨s, action, .ok receipt⟩])).length) ≤
        after.balances pool.config.token d.self := by
  intro pool stored
  rw [commitments_append, spent_append]
  cases exec_step ran with
  | initialized unset =>
      cases stored
      have fresh := backed.unset unset
      rw [fresh.1, fresh.2]
      simpa [depositOf, spentBy] using backed.solvent _
  | @deposited _ _ _ previous _ payment authorized before paid =>
      cases stored
      have covered := backed.covered previous before
      change _ ≤ move s.balances payment previous.config.token d.self
      rw [paid, move_apply, net_deposit (deposit_foreign foreign authorized)]
      simp only [depositOf, spentBy, Option.toList_some, Option.toList_none, List.append_nil,
        List.length_append, List.length_singleton, Nat.cast_add, Nat.cast_one]
      calc
        _ = previous.config.denom.value * ((commitments past).length - (spent past).length) +
            previous.config.denom.value := by ring
        _ ≤ _ := by omega
  | @withdrawn _ _ _ _ _ _ _ payment before _ _ _ paid _ unrefused =>
      cases before.symm.trans stored
      have covered := backed.covered pool before
      have nonneg := moved_nonneg ordinary unrefused
      rw [paid] at nonneg
      have least : -pool.config.denom.value ≤ net pool.config.token d.self payment := by
        rw [paid, net_payout]
        split
        next => exact neg_nonpos.mpr nonneg
        next => exact le_rfl
      change _ ≤ move s.balances payment pool.config.token d.self
      rw [move_apply]
      simp only [depositOf, spentBy, Option.toList_some, Option.toList_none, List.append_nil,
        List.length_append, List.length_singleton, Nat.cast_add, Nat.cast_one]
      calc
        _ = pool.config.denom.value * ((commitments past).length - (spent past).length) -
            pool.config.denom.value := by ring
        _ ≤ _ := by omega
  | @outside token holder change kept =>
      have more : s.balances pool.config.token d.self ≤
          add s.balances token holder change pool.config.token d.self :=
        add_ge kept s.balances pool.config.token
      simp only [depositOf, spentBy, Option.toList_none, List.append_nil]
      exact le_trans (backed.covered pool stored) more

theorem step_backed (backed : Backed d past s) (foreign : NotSelfPaid Call.payer d.self action)
    (ordinary : RefusesNegative action) (ran : exec d s action = .ok (after, receipt)) :
    Backed d (past ++ [⟨s, action, .ok receipt⟩]) after := by
  refine ⟨?_, step_solvent backed.solvent ordinary ran, step_sign backed ordinary ran,
    step_covered backed foreign ordinary ran⟩
  intro unset
  rw [commitments_append, spent_append]
  cases exec_step ran with
  | initialized | deposited => cases unset
  | withdrawn stored =>
      rw [stored] at unset
      cases unset
  | outside => simpa [depositOf, spentBy] using backed.unset unset

theorem next_backed (backed : Backed d past s) (foreign : NotSelfPaid Call.payer d.self action)
    (ordinary : RefusesNegative action) :
    Backed d (past ++ [(machine d).record s action]) ((machine d).next s action) := by
  cases ran : exec d s action with
  | ok result =>
      rw [Runs.Machine.record_of_ok (m := machine d) ran,
        Runs.Machine.next_of_ok (m := machine d) ran]
      exact step_backed backed foreign ordinary ran
  | error trap =>
      rw [Runs.Machine.record_of_error (m := machine d) ran,
        Runs.Machine.next_of_error (m := machine d) ran]
      exact backed.failed trap

theorem run_backed (d : Deployment Address) {actions : List (Action Address (Call Address))}
    (foreign : ∀ action ∈ actions, NotSelfPaid Call.payer d.self action)
    (ordinary : ∀ action ∈ actions, RefusesNegative action) :
    Backed d ((machine d).trace State.empty actions) ((machine d).final State.empty actions) := by
  apply Runs.Machine.run_invariant (Backed d)
    (fun _ action => NotSelfPaid Call.payer d.self action ∧ RefusesNegative action)
  · constructor
    · intro _
      exact ⟨rfl, rfl⟩
    · intro token
      exact le_rfl
    · intro pool stored
      cases stored
    · intro pool stored
      cases stored
  · intro past s action backed conditions
    exact next_backed backed conditions.1 conditions.2
  · intro entry member
    have called := Runs.Machine.call_mem_of_trace member
    exact ⟨foreign _ called, ordinary _ called⟩

end Backing

section Redeeming

variable {Address : Type} [DecidableEq Address] {d : Deployment Address}
  {prover : WithdrawCircuit → Proof} {env : Env Address} {payee : Fr → Address}
  {signal : Fr → Fr} {pool : Instance Address} {leaves : List (BytesN 32)}

omit [DecidableEq Address] in
theorem redemption_exists (d : Deployment Address) (signal : Fr → Fr)
    (room : leaves.length ≤ 2 ^ depth) {secret : Fr}
    (deposited : note d.hash2 secret ∈ leaves.map toFr) :
    ∃ redemption : Redemption, redemption.secret = secret ∧
      Fr.toBytes (assignedRoot d.hash2 secret redemption.siblings redemption.indexBits
        (signal secret)) = treeRoot d.hash2 leaves := by
  rcases List.mem_iff_getElem.mp deposited with ⟨index, within, placed⟩
  rw [List.length_map] at within
  have leaf : toFr (MerkleTree.padded zeroBytes leaves index) = note d.hash2 secret := by
    rw [MerkleTree.padded, List.getD_eq_getElem _ _ within, ← placed, List.getElem_map]
  have reduced : toFr (Fr.toBytes (signal secret)) = signal secret := Fr.fromBytes_toBytes _
  obtain ⟨siblings, indexBits, climbed, _⟩ :=
    proveWithdraw_path (fun _ => ⟨scalarPoint 64 0, scalarPoint 160 0, scalarPoint 64 0⟩) leaves
      (Nat.lt_of_lt_of_le within room) (frFromHex_frToHex secret) leaf
      (Fr.toBytes (signal secret))
  rw [reduced] at climbed
  refine ⟨⟨secret, siblings, indexBits⟩, rfl, ?_⟩
  rw [climbed, treeRoot_eq]
  rfl

theorem redeem_succeeds {s : State Address} {redemption : Redemption}
    (stored : s.storage = some pool) (complete : Complete d prover pool)
    (known : Fr.toBytes (assignedRoot d.hash2 redemption.secret redemption.siblings
      redemption.indexBits (signal redemption.secret)) ∈ pool.roots)
    (unused : nullifierOf d redemption.secret ∉ s.nullifiers)
    (funded : pool.config.denom.value ≤ s.balances pool.config.token d.self)
    (unrefused : env.refuses ⟨pool.config.token, d.self, payee redemption.secret,
      pool.config.denom.value⟩ = false) :
    exec d s (redeem d prover env payee signal redemption) =
      .ok (⟨s.storage, insert (nullifierOf d redemption.secret) s.nullifiers, move s.balances
          ⟨pool.config.token, d.self, payee redemption.secret, pool.config.denom.value⟩⟩,
        payoutReceipt d payee pool redemption.secret) :=
  withdraw_eq_ok stored known unused (complete _ _ _ _) funded unrefused

/-- Distinct unspent notes are paid one after another while the funds last. -/
theorem redeem_all (grown : Grown d leaves pool) (complete : Complete d prover pool)
    (nonneg : 0 ≤ pool.config.denom.value)
    (unrefused : ∀ recipient, env.refuses ⟨pool.config.token, d.self, recipient,
      pool.config.denom.value⟩ = false)
    {unspent : List Fr} {s : State Address} (stored : s.storage = some pool)
    (deposited : ∀ secret ∈ unspent, note d.hash2 secret ∈ leaves.map toFr)
    (separate : (unspent.map (nullifierOf d)).Nodup)
    (unused : ∀ secret ∈ unspent, nullifierOf d secret ∉ s.nullifiers)
    (funded : pool.config.denom.value * unspent.length ≤ s.balances pool.config.token d.self) :
    ∃ redemptions : List Redemption, redemptions.map Redemption.secret = unspent ∧
      ((machine d).trace s (redemptions.map (redeem d prover env payee signal))).map
          Runs.Record.outcome =
        redemptions.map fun redemption => .ok (payoutReceipt d payee pool redemption.secret) := by
  induction unspent generalizing s with
  | nil => exact ⟨[], rfl, rfl⟩
  | cons secret rest ih =>
      obtain ⟨redemption, rfl, climbed⟩ := redemption_exists d signal grown.room
        (deposited secret List.mem_cons_self)
      have known : Fr.toBytes (assignedRoot d.hash2 redemption.secret redemption.siblings
          redemption.indexBits (signal redemption.secret)) ∈ pool.roots := by
        have kept := recent_root_mem d.hash2 (le_refl leaves.length) (by simp)
        rw [List.take_length] at kept
        rw [climbed, grown.roots]
        exact kept
      rw [List.length_cons, Nat.cast_add, Nat.cast_one, mul_add, mul_one] at funded
      have others : 0 ≤ pool.config.denom.value * rest.length :=
        mul_nonneg nonneg (Int.natCast_nonneg _)
      have ran : exec d s (redeem d prover env payee signal redemption) = _ :=
        redeem_succeeds stored complete known (unused _ List.mem_cons_self) (by omega)
          (unrefused _)
      rw [List.map_cons, List.nodup_cons] at separate
      have next : (machine d).next s (redeem d prover env payee signal redemption) = _ :=
        Runs.Machine.next_of_ok ran
      have kept : ((machine d).next s (redeem d prover env payee signal redemption)).storage =
          some pool := by
        rw [next]
        exact stored
      have fresh : ∀ other ∈ rest, nullifierOf d other ∉
          ((machine d).next s (redeem d prover env payee signal redemption)).nullifiers := by
        intro other member
        rw [next, Finset.mem_insert, not_or]
        constructor
        · intro same
          exact separate.1 (same ▸ List.mem_map_of_mem member)
        · exact unused other (List.mem_cons_of_mem _ member)
      have left : pool.config.denom.value * rest.length ≤
          ((machine d).next s (redeem d prover env payee signal redemption)).balances
            pool.config.token d.self := by
        have least := net_payout (d := d) pool.config.token (payee redemption.secret)
          pool.config.denom.value
        rw [next]
        change _ ≤ move s.balances _ pool.config.token d.self
        rw [move_apply, least]
        split <;> omega
      obtain ⟨later, named, paid⟩ := ih kept
        (fun other member => deposited other (List.mem_cons_of_mem _ member)) separate.2 fresh left
      refine ⟨redemption :: later, ?_, ?_⟩
      · rw [List.map_cons, named]
      · rw [List.map_cons, Runs.Machine.trace_cons, List.map_cons, List.map_cons, paid,
          Runs.Machine.record_of_ok (m := machine d) ran]

theorem redeemed_fresh {s : State Address} {redemptions : List Redemption}
    (paid : ((machine d).trace s (redemptions.map (redeem d prover env payee signal))).map
        Runs.Record.outcome =
      redemptions.map fun redemption => .ok (payoutReceipt d payee pool redemption.secret)) :
    (redemptions.map fun redemption => nullifierOf d redemption.secret).Nodup ∧
      ∀ redemption ∈ redemptions, nullifierOf d redemption.secret ∉ s.nullifiers := by
  induction redemptions generalizing s with
  | nil => simp
  | cons redemption rest ih =>
      rw [List.map_cons, Runs.Machine.trace_cons, List.map_cons, List.map_cons,
        List.cons.injEq] at paid
      have spends : spentBy ((machine d).record s (redeem d prover env payee signal redemption)) =
          some (nullifierOf d redemption.secret) := by
        have outcome : (machine d).outcome s (redeem d prover env payee signal redemption) = _ :=
          paid.1
        rw [Runs.Machine.record, outcome]
        rfl
      rcases ih paid.2 with ⟨distinct, later⟩
      rcases next_nullifiers d s (redeem d prover env payee signal redemption) with
        ⟨unspent, _⟩ | ⟨nullifier, one_spent, unused, grown⟩
      · rw [spends] at unspent
        cases unspent
      · have named := Option.some.inj (spends.symm.trans one_spent)
        rw [← named] at unused grown
        rw [grown] at later
        constructor
        · rw [List.map_cons, List.nodup_cons]
          refine ⟨?_, distinct⟩
          intro member
          rcases List.mem_map.mp member with ⟨other, inside, same⟩
          apply later other inside
          rw [show nullifierOf d other.secret = _ from same]
          exact Finset.mem_insert_self _ _
        · intro other member
          rcases List.mem_cons.mp member with rfl | inside
          · exact unused
          · exact fun used => later other inside (Finset.mem_insert_of_mem used)

theorem redeemable_le {s : State Address} {secrets : List Fr} {count : Nat}
    (redeemable : Redeemable d prover env payee signal pool s secrets count) :
    count ≤ secrets.dedup.length := by
  rcases redeemable with ⟨redemptions, rfl, known, paid⟩
  have distinct : (redemptions.map Redemption.secret).Nodup := by
    apply List.Nodup.of_map (nullifierOf d)
    rw [List.map_map]
    exact (redeemed_fresh paid).1
  have inside : redemptions.map Redemption.secret ⊆ secrets.dedup := by
    intro secret member
    rcases List.mem_map.mp member with ⟨redemption, listed, rfl⟩
    exact List.mem_dedup.mpr (known redemption listed)
  simpa using (distinct.subperm inside).length_le

omit [DecidableEq Address] in
theorem unspent_length {s : State Address} {past : List (Entry Address)} {secrets : List Fr}
    (nullifiers : ∀ nullifier, nullifier ∈ s.nullifiers ↔ nullifier ∈ spent past)
    (separate : (secrets.map (nullifierOf d)).Nodup) :
    secrets.length - (spent past).length ≤
      (secrets.filter fun secret => nullifierOf d secret ∉ s.nullifiers).length := by
  have used : (secrets.filter fun secret => nullifierOf d secret ∈ s.nullifiers).length ≤
      (spent past).length := by
    have distinct := separate.sublist ((List.filter_sublist
      (p := fun secret => decide (nullifierOf d secret ∈ s.nullifiers)) (l := secrets)).map
        (nullifierOf d))
    have inside : (secrets.filter fun secret => nullifierOf d secret ∈ s.nullifiers).map
        (nullifierOf d) ⊆ spent past := by
      intro nullifier member
      rcases List.mem_map.mp member with ⟨secret, listed, rfl⟩
      exact (nullifiers _).mp (by simpa using (List.mem_filter.mp listed).2)
    simpa using (distinct.subperm inside).length_le
  have parts := List.length_eq_length_filter_add (l := secrets)
    fun secret => decide (nullifierOf d secret ∈ s.nullifiers)
  simp only [decide_not]
  omega

omit [DecidableEq Address] in
/-- Some secrets no withdrawal has used, as many as there are distinct ones less the payments. -/
theorem unspent_chosen {s : State Address} {past : List (Entry Address)} {secrets : List Fr}
    (nullifiers : ∀ nullifier, nullifier ∈ s.nullifiers ↔ nullifier ∈ spent past)
    (separate : ∀ a ∈ secrets, ∀ b ∈ secrets, d.hash2 a 1 = d.hash2 b 1 → a = b) :
    ∃ chosen : List Fr, chosen.length = secrets.dedup.length - (spent past).length ∧
      chosen ⊆ secrets ∧ (chosen.map (nullifierOf d)).Nodup ∧
      ∀ secret ∈ chosen, nullifierOf d secret ∉ s.nullifiers := by
  have distinct : (secrets.dedup.map (nullifierOf d)).Nodup := by
    apply List.Nodup.map_on _ secrets.nodup_dedup
    intro a inA b inB same
    exact separate a (List.mem_dedup.mp inA) b (List.mem_dedup.mp inB)
      (Fr.toBytes_injective same)
  have enough := unspent_length nullifiers distinct
  let unspent := secrets.dedup.filter fun secret => nullifierOf d secret ∉ s.nullifiers
  let chosen := unspent.take (secrets.dedup.length - (spent past).length)
  have picked : chosen.Sublist secrets.dedup :=
    (List.take_sublist _ _).trans List.filter_sublist
  refine ⟨chosen, ?_, ?_, distinct.sublist (picked.map _), ?_⟩
  · rw [List.length_take]
    exact min_eq_left enough
  · intro secret member
    exact List.mem_dedup.mp (picked.subset member)
  · intro secret member
    simpa using (List.mem_filter.mp (List.mem_of_mem_take member)).2

theorem redeemable_of_unspent (grown : Grown d leaves pool) (complete : Complete d prover pool)
    (nonneg : 0 ≤ pool.config.denom.value)
    (pays : ∀ t, t.source = d.self → 0 ≤ t.amount → env.refuses t = false)
    {secrets chosen : List Fr} {s : State Address} (stored : s.storage = some pool)
    (owned : leaves.map toFr = secrets.map (note d.hash2)) (listed : chosen ⊆ secrets)
    (separate : (chosen.map (nullifierOf d)).Nodup)
    (unused : ∀ secret ∈ chosen, nullifierOf d secret ∉ s.nullifiers)
    (funded : pool.config.denom.value * chosen.length ≤ s.balances pool.config.token d.self) :
    Redeemable d prover env payee signal pool s secrets chosen.length := by
  have deposited : ∀ secret ∈ chosen, note d.hash2 secret ∈ leaves.map toFr := by
    intro secret member
    rw [owned]
    exact List.mem_map_of_mem (listed member)
  obtain ⟨redemptions, named, paid⟩ := redeem_all grown complete nonneg
    (fun recipient => pays _ rfl nonneg) stored deposited separate unused funded
  refine ⟨redemptions, ?_, ?_, paid⟩
  · rw [← named, List.length_map]
  · intro redemption member
    apply listed
    rw [← named]
    exact List.mem_map_of_mem member

/-- Honest withdrawals can still pay one denomination for each distinct secret less one for
each past withdrawal, and never more than one for each distinct secret. -/
theorem distinct_notes_redeemable (d : Deployment Address) (prover : WithdrawCircuit → Proof)
    (actions : List (Action Address (Call Address))) (pool : Instance Address)
    (ready : ((machine d).final State.empty actions).storage = some pool)
    (foreign : ∀ action ∈ actions, NotSelfPaid Call.payer d.self action)
    (ordinary : ∀ action ∈ actions, RefusesNegative action)
    (complete : Complete d prover pool) (secrets : List Fr)
    (owned : (commitments ((machine d).trace State.empty actions)).map toFr =
      secrets.map (note d.hash2))
    (separate : ∀ a ∈ secrets, ∀ b ∈ secrets, d.hash2 a 1 = d.hash2 b 1 → a = b)
    (env : Env Address)
    (pays : ∀ t, t.source = d.self → 0 ≤ t.amount → env.refuses t = false)
    (payee : Fr → Address) (signal : Fr → Fr) :
    let past := (machine d).trace State.empty actions
    let s := (machine d).final State.empty actions
    Redeemable d prover env payee signal pool s secrets
      (secrets.dedup.length - (spent past).length) ∧
    (secrets.Nodup → Redeemable d prover env payee signal pool s secrets
      ((commitments past).length - (spent past).length)) ∧
    ∀ count, Redeemable d prover env payee signal pool s secrets count →
      count ≤ secrets.dedup.length := by
  intro past s
  have length : (commitments past).length = secrets.length := by
    simpa using congrArg List.length owned
  have most : Redeemable d prover env payee signal pool s secrets
      (secrets.dedup.length - (spent past).length) := by
    by_cases none_left : secrets.dedup.length - (spent past).length = 0
    · rw [none_left]
      exact ⟨[], rfl, by simp, rfl⟩
    · have backed : Backed d past s := run_backed d foreign ordinary
      have fewer : secrets.dedup.length ≤ secrets.length := secrets.dedup_sublist.length_le
      have nonneg : 0 ≤ pool.config.denom.value := by
        apply backed.sign pool ready
        intro empty
        rw [empty, List.length_nil] at length
        omega
      have tracked : ∀ nullifier, nullifier ∈ s.nullifiers ↔ nullifier ∈ spent past :=
        run_nullifiers d actions
      obtain ⟨chosen, counted, picked, separated, unused⟩ := unspent_chosen tracked separate
      have funded : pool.config.denom.value * chosen.length ≤
          s.balances pool.config.token d.self := by
        calc
          _ ≤ pool.config.denom.value * ((commitments past).length - (spent past).length) := by
            apply mul_le_mul_of_nonneg_left _ nonneg
            rw [counted, length]
            omega
          _ ≤ _ := backed.covered pool ready
      rw [← counted]
      exact redeemable_of_unspent ((run_follows d actions).grown pool ready) complete nonneg pays
        ready owned picked separated unused funded
  refine ⟨most, ?_, fun count => redeemable_le⟩
  intro distinct
  rw [length]
  rwa [distinct.dedup] at most

end Redeeming

section Samples

def tokenEnv : Env Nat := ⟨fun who => decide (who ≠ 0), 0, fun t => decide (t.amount < 0)⟩

def twoNotes (second : Nat) : List (Action Nat (Call Nat)) :=
  [.outside 9 1 100, .invoke tokenEnv (.initializePool sampleConfig sampleKey),
    .invoke tokenEnv (.deposit 1 (BytesN.ofNat 32 77)),
    .invoke tokenEnv (.deposit 1 (BytesN.ofNat 32 second))]

theorem sample_complete {s : State Nat}
    (set_up : s.storage.map (fun pool => (pool.vk, pool.config.verifier)) =
      some (sampleKey, sampleDeployment.verifier)) :
    ∃ pool, s.storage = some pool ∧ Complete sampleDeployment sampleProver pool := by
  rcases Option.map_eq_some_iff.mp set_up with ⟨pool, stored, same⟩
  rw [Prod.mk.injEq] at same
  refine ⟨pool, stored, ?_⟩
  intro secret siblings indexBits recipient assigned
  rw [callVerifier, if_pos same.2, required_eq_ok, same.1]
  exact sampleProver_complete secret siblings indexBits recipient

theorem distinct_notes_redeemable_sample :
    let s := (machine sampleDeployment).final State.empty (twoNotes 78)
    ∃ pool, s.storage = some pool ∧
      Redeemable sampleDeployment sampleProver tokenEnv (fun _ => 2) (fun _ => 3) pool s [77, 78]
        2 := by
  intro s
  rcases sample_complete (s := s) (by decide +kernel) with ⟨pool, stored, complete⟩
  have counts : (commitments ((machine sampleDeployment).trace State.empty (twoNotes 78))).length -
      (spent ((machine sampleDeployment).trace State.empty (twoNotes 78))).length = 2 := by
    decide +kernel
  have foreign : ∀ action ∈ twoNotes 78, NotSelfPaid Call.payer sampleDeployment.self action := by
    simp only [twoNotes, List.forall_mem_cons, NotSelfPaid, Call.payer, sampleDeployment]
    simp
  have ordinary : ∀ action ∈ twoNotes 78, RefusesNegative action := by
    simp only [twoNotes, List.forall_mem_cons, RefusesNegative, tokenEnv]
    simp
  have redeemable := (distinct_notes_redeemable sampleDeployment sampleProver (twoNotes 78) pool
    stored foreign ordinary complete [77, 78] (by decide +kernel)
    (fun a _ b _ same => add_right_cancel same) tokenEnv (by simp [tokenEnv]) (fun _ => 2)
    (fun _ => 3)).2.1 (by decide +kernel)
  rw [counts] at redeemable
  exact ⟨pool, stored, redeemable⟩

/-- Two deposits of one note: the pool holds two denominations, and no two honest withdrawals
for the secret both pay. -/
theorem twin_note_stuck :
    let past := (machine sampleDeployment).trace State.empty (twoNotes 77)
    let s := (machine sampleDeployment).final State.empty (twoNotes 77)
    (commitments past).map toFr = [77, 77].map (note sampleDeployment.hash2) ∧
    (commitments past).length - (spent past).length = 2 ∧ s.balances 9 0 = 10 ∧
    (∃ pool, s.storage = some pool ∧ Complete sampleDeployment sampleProver pool) ∧
    ∀ prover env payee signal pool,
      ¬Redeemable sampleDeployment prover env payee signal pool s [77, 77]
        ((commitments past).length - (spent past).length) := by
  intro past s
  have counts : (commitments past).length - (spent past).length = 2 := by decide +kernel
  refine ⟨by decide +kernel, counts, by decide +kernel, sample_complete (by decide +kernel), ?_⟩
  intro prover env payee signal pool redeemable
  rw [counts] at redeemable
  have least := redeemable_le redeemable
  have one : [(77 : Fr), 77].dedup.length = 1 := by decide +kernel
  omega

end Samples

end Giffy.Client
