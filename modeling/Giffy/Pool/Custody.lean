import Giffy.Pool.Nullifiers

/-! The pool's token balance, counter and spent set against its past calls. -/

namespace Giffy.Pool

open TokenLedger

variable {Address : Type}

def Call.payer : Call Address → Option Address
  | .deposit source _ => some source
  | _ => none

section Histories

variable [DecidableEq Address] (self token : Address)

def externalPayoutOf (entry : Entry Address) : Option Address :=
  match entry.call, entry.outcome with
  | .invoke _ (.withdraw _ _ recipient _ _), .ok _ => if recipient = self then none else some recipient
  | _, _ => none

def externalPayouts (past : List (Entry Address)) : List Address :=
  past.filterMap (externalPayoutOf self)

def gainOf (entry : Entry Address) : Int :=
  match entry.call, entry.outcome with
  | .outside inToken holder change, .ok _ => if token = inToken ∧ self = holder then change else 0
  | _, _ => 0

def outsideGains (past : List (Entry Address)) : Int := (past.map (gainOf self token)).sum

theorem externalPayouts_append (past : List (Entry Address)) (entry : Entry Address) :
    externalPayouts self (past ++ [entry]) =
      externalPayouts self past ++ (externalPayoutOf self entry).toList := by
  simp only [externalPayouts, List.filterMap_append]
  cases payout : externalPayoutOf self entry <;> simp [payout]

theorem outsideGains_append (past : List (Entry Address)) (entry : Entry Address) :
    outsideGains self token (past ++ [entry]) =
      outsideGains self token past + gainOf self token entry := by
  simp [outsideGains]

end Histories

variable [DecidableEq Address]

/-- The books of a pool set up with `config` and `vk`, when `opening` was its balance. -/
structure Custody (d : Deployment Address) (config : Config Address) (vk : VerifyingKey)
    (opening : Int) (past : List (Entry Address)) (s : State Address) : Prop where
  stored : ∃ pool, s.storage = some pool ∧ pool.config = config ∧ pool.vk = vk ∧
    pool.zeros = zeroHashes d.hash2 (depth + 1) ∧ pool.nextIndex = (commitments past).length
  nullifiers : ∀ nullifier, nullifier ∈ s.nullifiers ↔ nullifier ∈ spent past
  once : (spent past).Nodup
  balance : s.balances config.token d.self = opening +
    config.denom.value * ((commitments past).length - (externalPayouts d.self past).length) +
    outsideGains d.self config.token past
  nonneg : 0 ≤ opening → 0 ≤ s.balances config.token d.self

variable {d : Deployment Address} {config : Config Address} {vk : VerifyingKey} {opening : Int}
  {past : List (Entry Address)} {s after : State Address} {receipt : Receipt Address}
  {action : Action Address (Call Address)}

section Steps

theorem Custody.pool_eq (custody : Custody d config vk opening past s) {pool : Instance Address}
    (stored : s.storage = some pool) :
    pool.config = config ∧ pool.vk = vk ∧ pool.zeros = zeroHashes d.hash2 (depth + 1) ∧
      pool.nextIndex = (commitments past).length := by
  rcases custody.stored with ⟨present, found, settled⟩
  cases stored.symm.trans found
  exact settled

theorem net_deposit {token source : Address} (other : source ≠ d.self) (amount : Int) :
    net token d.self ⟨token, source, d.self, amount⟩ = amount := by
  simp [net, Ne.symm other]

theorem net_payout (token recipient : Address) (amount : Int) :
    net token d.self ⟨token, d.self, recipient, amount⟩ =
      if recipient = d.self then 0 else -amount := by
  by_cases kept : recipient = d.self
  · simp [net, kept]
  · simp [net, kept, Ne.symm kept]

theorem Custody.failed (custody : Custody d config vk opening past s) (trap : Trap PoolError) :
    Custody d config vk opening (past ++ [⟨s, action, .error trap⟩]) s := by
  have noDeposit : depositOf ⟨s, action, .error trap⟩ = none := by
    cases action with
    | outside => rfl
    | invoke env call => cases call <;> rfl
  have noPayout : externalPayoutOf d.self ⟨s, action, .error trap⟩ = none := by
    cases action with
    | outside => rfl
    | invoke env call => cases call <;> rfl
  have noGain : gainOf d.self config.token ⟨s, action, .error trap⟩ = 0 := by
    cases action with
    | outside => rfl
    | invoke env call => cases call <;> rfl
  constructor
  · simpa [commitments_append, noDeposit] using custody.stored
  · simpa [spent_append, failed_spentBy] using custody.nullifiers
  · simpa [spent_append, failed_spentBy] using custody.once
  · simpa [commitments_append, externalPayouts_append, outsideGains_append, noDeposit, noPayout,
      noGain] using custody.balance
  · exact custody.nonneg

omit [DecidableEq Address] in
theorem deposit_foreign {env : Env Address} {source : Address} {commitment : BytesN 32}
    (foreign : NotSelfPaid Call.payer d.self (.invoke env (.deposit source commitment)))
    (authorized : env.authorized source = true) : source ≠ d.self := by
  rintro rfl
  rw [foreign rfl] at authorized
  cases authorized

/-- A step moves the pool's balance by its deposit, its payout and what it was given. -/
theorem step_held (custody : Custody d config vk opening past s)
    (foreign : NotSelfPaid Call.payer d.self action) (step : Step d s action after receipt) :
    after.balances config.token d.self = s.balances config.token d.self +
      config.denom.value * ((depositOf ⟨s, action, .ok receipt⟩).toList.length -
        (externalPayoutOf d.self ⟨s, action, .ok receipt⟩).toList.length : Int) +
      gainOf d.self config.token ⟨s, action, .ok receipt⟩ := by
  cases step with
  | initialized => simp [depositOf, externalPayoutOf, gainOf]
  | @deposited env source commitment pool inserted payment authorized stored paid =>
      have settled := custody.pool_eq stored
      change move s.balances payment config.token d.self = _
      rw [paid, settled.1, move_apply, net_deposit (deposit_foreign foreign authorized)]
      simp [depositOf, externalPayoutOf, gainOf]
  | @withdrawn env root nullifier recipient recipientSignal proof pool payment stored _ _ _ paid =>
      have settled := custody.pool_eq stored
      change move s.balances payment config.token d.self = _
      rw [paid, settled.1, move_apply, net_payout]
      by_cases kept : recipient = d.self <;> simp [depositOf, externalPayoutOf, gainOf, kept]
  | outside =>
      simp only [depositOf, externalPayoutOf, gainOf, add]
      split <;> simp

theorem step_stored (custody : Custody d config vk opening past s)
    (step : Step d s action after receipt) :
    ∃ pool, after.storage = some pool ∧ pool.config = config ∧ pool.vk = vk ∧
      pool.zeros = zeroHashes d.hash2 (depth + 1) ∧
      pool.nextIndex = (commitments (past ++ [⟨s, action, .ok receipt⟩])).length := by
  rw [commitments_append]
  cases step with
  | initialized unset =>
      rcases custody.stored with ⟨pool, stored, _⟩
      rw [unset] at stored
      cases stored
  | deposited _ stored =>
      have settled := custody.pool_eq stored
      refine ⟨_, rfl, settled.1, settled.2.1, settled.2.2.1, ?_⟩
      simp [depositOf, settled.2.2.2]
  | withdrawn => simpa [depositOf] using custody.stored
  | outside => simpa [depositOf] using custody.stored

theorem step_spent (custody : Custody d config vk opening past s)
    (step : Step d s action after receipt) :
    (∀ nullifier, nullifier ∈ after.nullifiers ↔
      nullifier ∈ spent (past ++ [⟨s, action, .ok receipt⟩])) ∧
    (spent (past ++ [⟨s, action, .ok receipt⟩])).Nodup := by
  rw [spent_append]
  cases step with
  | initialized | deposited | outside =>
      exact ⟨by simpa [spentBy] using custody.nullifiers, by simpa [spentBy] using custody.once⟩
  | @withdrawn _ _ nullifier _ _ _ _ _ _ _ unused =>
      constructor
      · intro other
        simp [spentBy, custody.nullifiers, or_comm]
      · rw [List.nodup_append]
        refine ⟨custody.once, List.nodup_singleton _, ?_⟩
        intro used member again isNew same
        cases List.mem_singleton.mp isNew
        rw [← same] at unused
        exact unused ((custody.nullifiers used).mpr member)

theorem step_nonneg (positive : 0 < config.denom.value)
    (custody : Custody d config vk opening past s) (foreign : NotSelfPaid Call.payer d.self action)
    (step : Step d s action after receipt) (before : 0 ≤ s.balances config.token d.self) :
    0 ≤ after.balances config.token d.self := by
  rw [step_held custody foreign step]
  cases step with
  | initialized => simpa [depositOf, externalPayoutOf, gainOf] using before
  | deposited =>
      have grown := add_nonneg before positive.le
      simpa [depositOf, externalPayoutOf, gainOf] using grown
  | @withdrawn _ _ _ recipient _ _ _ _ stored _ _ _ paid funded =>
      rw [paid, (custody.pool_eq stored).1] at funded
      have enough : config.denom.value ≤ s.balances config.token d.self := funded
      by_cases kept : recipient = d.self
      · simpa [depositOf, externalPayoutOf, gainOf, kept] using before
      · simpa [depositOf, externalPayoutOf, gainOf, kept] using enough
  | outside kept =>
      simp only [depositOf, externalPayoutOf, gainOf, Option.toList_none, List.length_nil,
        Nat.cast_zero, sub_self, mul_zero, add_zero]
      split
      next toPool => exact add_nonneg before (kept toPool.2.symm)
      next => simpa using before

theorem step_custody (positive : 0 < config.denom.value)
    (custody : Custody d config vk opening past s) (foreign : NotSelfPaid Call.payer d.self action)
    (step : Step d s action after receipt) :
    Custody d config vk opening (past ++ [⟨s, action, .ok receipt⟩]) after where
  stored := step_stored custody step
  nullifiers := (step_spent custody step).1
  once := (step_spent custody step).2
  balance := by
    rw [step_held custody foreign step, custody.balance, commitments_append,
      externalPayouts_append, outsideGains_append, List.length_append, List.length_append]
    push_cast
    ring
  nonneg start := step_nonneg positive custody foreign step (custody.nonneg start)

theorem next_custody (positive : 0 < config.denom.value)
    (custody : Custody d config vk opening past s)
    (foreign : NotSelfPaid Call.payer d.self action) :
    Custody d config vk opening (past ++ [(machine d).record s action])
      ((machine d).next s action) := by
  rcases next_cases (d := d) s action with ⟨receipt, ran, step⟩ | ⟨⟨trap, failed⟩, same⟩
  · rw [Runs.Machine.record, ran]
    exact step_custody positive custody foreign step
  · rw [Runs.Machine.record, failed, same]
    exact custody.failed trap

end Steps

section Runs

theorem initialize_custody (d : Deployment Address) (env : Env Address) (config : Config Address)
    (vk : VerifyingKey) (balances : Balances Address) :
    ∃ after, exec d ⟨none, ∅, balances⟩ (.invoke env (.initializePool config vk)) =
        .ok (after, ⟨none, [], []⟩) ∧
      after.balances = balances ∧
      Custody d config vk (balances config.token d.self) [] after := by
  have top := zeroHashes_get d.hash2 (Nat.lt_succ_self depth)
  have frontier := take_zeroHashes d.hash2 depth (Nat.le_succ depth)
  refine ⟨⟨some ⟨config, vk, 0, zeroHashes d.hash2 depth, zeroHashes d.hash2 (depth + 1),
    [MerkleTree.zeros (h2 d.hash2) zeroBytes depth]⟩, ∅, balances⟩, ?_, rfl, ?_⟩
  · simp [exec, invoke, initializePool, panicIf, buildZeros_eq, frontier, top, required, bind,
      Except.bind, pure, Except.pure]
  · refine ⟨⟨_, rfl, rfl, rfl, rfl, rfl⟩, ?_, List.nodup_nil, ?_, fun start => start⟩
    · simp [spent]
    · simp [commitments, externalPayouts, outsideGains]

/-- Over any run of a pool set up with a positive denomination the counter, the spent set
and the balance are those of the successful calls, the setup is kept, and a failed call
changes nothing. -/
theorem custody_accounting (d : Deployment Address) (env : Env Address) (config : Config Address)
    (vk : VerifyingKey) (balances : Balances Address)
    (actions : List (Action Address (Call Address))) (positive : 0 < config.denom.value)
    (foreign : ∀ action ∈ actions, NotSelfPaid Call.payer d.self action) :
    ∃ start receipt,
      exec d ⟨none, ∅, balances⟩ (.invoke env (.initializePool config vk)) =
        .ok (start, receipt) ∧
      let past := (machine d).trace start actions
      let s := (machine d).final start actions
      let deposits := (commitments past).length
      let external := (externalPayouts d.self past).length
      nextIndex s = some deposits ∧
      (∀ nullifier, nullifier ∈ s.nullifiers ↔ nullifier ∈ spent past) ∧ (spent past).Nodup ∧
      s.balances config.token d.self = balances config.token d.self +
        config.denom.value * (deposits - external) + outsideGains d.self config.token past ∧
      (∃ pool opened, s.storage = some pool ∧ start.storage = some opened ∧
        pool.config = config ∧ pool.vk = vk ∧ pool.zeros = opened.zeros) ∧
      (∀ action trap, (machine d).outcome s action = .error trap →
        (machine d).next s action = s) ∧
      (outsideGains d.self config.token past = 0 → balances config.token d.self = 0 →
        external ≤ deposits) := by
  rcases initialize_custody d env config vk balances with ⟨start, ran, same, opened⟩
  refine ⟨start, _, ran, ?_⟩
  intro past s deposits external
  have custody : Custody d config vk (balances config.token d.self) past s :=
    Runs.Machine.run_invariant (Custody d config vk (balances config.token d.self))
      (fun _ action => NotSelfPaid Call.payer d.self action) opened
      (fun _ _ _ kept other => next_custody positive kept other) actions
      (Runs.Machine.met_of_calls foreign)
  rcases custody.stored with ⟨pool, stored, settled⟩
  refine ⟨?_, custody.nullifiers, custody.once, custody.balance, ?_, ?_, ?_⟩
  · rw [nextIndex, stored]
    exact congrArg some settled.2.2.2
  · rcases opened.stored with ⟨first, firstStored, firstSettled⟩
    exact ⟨pool, first, stored, firstStored, settled.1, settled.2.1,
      settled.2.2.1.trans firstSettled.2.2.1.symm⟩
  · intro action trap failed
    exact Runs.Machine.next_of_error (Runs.Machine.outcome_eq_error.mp failed)
  · intro noGain empty
    have balance := custody.balance
    have covered := custody.nonneg empty.ge
    rw [balance, empty, noGain, zero_add, add_zero] at covered
    have nonneg := nonneg_of_mul_nonneg_right covered positive
    change (0 : Int) ≤ (deposits : Int) - (external : Int) at nonneg
    omega

def sampleBalances : Balances Nat := fun token holder => if token = 9 ∧ holder = 1 then 100 else 0

def sampleCalls : List (Action Nat (Call Nat)) :=
  [.invoke sampleEnv (.deposit 1 (BytesN.ofNat 32 77)),
    .invoke sampleEnv (.deposit 1 (BytesN.ofNat 32 78)), sampleSpend sampleNullifier]

theorem sampleCalls_foreign :
    ∀ action ∈ sampleCalls, NotSelfPaid Call.payer sampleDeployment.self action := by
  simp [sampleCalls, sampleSpend, NotSelfPaid, Call.payer, sampleDeployment]

theorem custody_accounting_sample :
    ∃ start receipt,
      exec sampleDeployment ⟨none, ∅, sampleBalances⟩
        (.invoke sampleEnv (.initializePool sampleConfig sampleKey)) = .ok (start, receipt) ∧
      let past := (machine sampleDeployment).trace start sampleCalls
      let s := (machine sampleDeployment).final start sampleCalls
      nextIndex s = some (commitments past).length ∧
      s.balances 9 0 = 0 + 5 * ((commitments past).length - (externalPayouts 0 past).length) +
        outsideGains 0 9 past := by
  obtain ⟨start, receipt, ran, counted, _, _, balance, _⟩ :=
    custody_accounting sampleDeployment sampleEnv sampleConfig sampleKey sampleBalances sampleCalls
      (by decide) sampleCalls_foreign
  exact ⟨start, receipt, ran, counted, balance⟩

end Runs

end Giffy.Pool
