import Giffy.Escrow.Payouts

/-! What a refund pays back when the token turns some contributors down. -/

namespace Giffy.Escrow

open TokenLedger

variable {Address : Type} [LinearOrder Address]

section Definitions

variable (d : Deployment Address) (id : Nat) (who : Address)

/-- What one successful call about a gift pays an address out of the escrow. -/
def returned (entry : Entry Address) : Int :=
  match entry.outcome with
  | .ok receipt =>
      if concerns entry = some id then
        (receipt.transfers.map fun t =>
          if t.source = d.self ∧ t.recipient = who then t.amount else 0).sum
      else 0
  | .error _ => 0

def returnedTo (past : List (Entry Address)) : Int := (past.map (returned d id who)).sum

theorem returnedTo_append (past : List (Entry Address)) (entry : Entry Address) :
    returnedTo d id who (past ++ [entry]) = returnedTo d id who past + returned d id who entry := by
  simp [returnedTo]

/-- A call after the expiry of a gift, while its token turns down exactly the payouts to the
addresses in `blocked`. -/
def Later (gift : GiftRecord Address) (blocked : Finset Address) :
    Action Address (Call Address) → Prop
  | .invoke env _ => gift.expiresAt ≤ env.timestamp ∧
      ∀ t, t.token = gift.token → t.source = d.self →
        (env.refuses t = true ↔ t.recipient ∈ blocked)
  | .outside .. => True

structure Waiting (gift : GiftRecord Address) (s : State Address) : Prop where
  stored : ∃ held, s.gifts.get id = some held ∧ held.status = .open ∧ held.token = gift.token ∧
    held.expiresAt = gift.expiresAt ∧ held.contributions = gift.contributions

end Definitions

section Blocked

variable {d : Deployment Address} {id : Nat} {gift : GiftRecord Address}
  {blocked : Finset Address} {s after : State Address} {receipt : Receipt Address}
  {action : Action Address (Call Address)}

theorem Waiting.frame (waiting : Waiting id gift s) {other : Nat} (different : other ≠ id)
    (counter : Option Nat) (new : GiftRecord Address) (balances : Balances Address) :
    Waiting id gift ⟨counter, s.gifts.set other new, balances⟩ := by
  rcases waiting.stored with ⟨held, present, kept⟩
  exact ⟨held, (SortedMap.get_set_ne _ different _).trans present, kept⟩

theorem returned_other {entry : Entry Address} (who : Address)
    (other : concerns entry ≠ some id) : returned d id who entry = 0 := by
  unfold returned
  split
  · rw [if_neg other]
  · rfl

/-- While a contributor is blocked every call that needs the gift open fails. -/
theorem later_untargeted (waiting : Waiting id gift s) {who : Address}
    (contributed : gift.contributions.contains who = true) (isBlocked : who ∈ blocked)
    (later : Later d gift blocked action) (ran : exec d s action = .ok (after, receipt)) :
    targets id action ≠ true := by
  intro aimed
  rcases waiting.stored with ⟨held, present, _, token, expiry, contributions⟩
  have step := exec_step ran
  cases step <;> simp only [targets, decide_eq_true_eq, Bool.false_eq_true] at aimed
  case contributed stored _ unexpired _ _ _ =>
    subst aimed
    cases present.symm.trans stored
    rw [expiry] at unexpired
    exact absurd later.1 (not_le.mpr unexpired)
  case claimed stored _ _ unexpired _ _ =>
    subst aimed
    cases present.symm.trans stored
    rw [expiry] at unexpired
    exact absurd later.1 (not_le.mpr unexpired)
  case refunded stored _ _ _ =>
    subst aimed
    cases present.symm.trans stored
    rcases SortedMap.contains_iff.mp contributed with ⟨amount, share⟩
    rw [← contributions] at share
    have paid : (⟨held.token, d.self, who, amount.value⟩ : Transfer Address) ∈ refunds d held :=
      List.mem_map.mpr ⟨(who, amount), SortedMap.mem_entries.mpr share, rfl⟩
    have allowed := refund_unrefused ran stored _ paid
    rw [(later.2 _ token rfl).mpr isBlocked] at allowed
    cases allowed

theorem step_waiting (counted : Counted s) (waiting : Waiting id gift s) {who : Address}
    (contributed : gift.contributions.contains who = true) (isBlocked : who ∈ blocked)
    (later : Later d gift blocked action) (ran : exec d s action = .ok (after, receipt)) :
    Waiting id gift after ∧ ∀ payee, returned d id payee ⟨s, action, .ok receipt⟩ = 0 := by
  have untargeted := later_untargeted waiting contributed isBlocked later ran
  rcases waiting.stored with ⟨held, present, kept⟩
  have step := exec_step ran
  cases step with
  | @created _ _ _ _ _ _ _ _ _ new _ _ _ _ _ next =>
      have different : new ≠ id := by
        intro same
        subst same
        rw [counted.fresh next] at present
        cases present
      refine ⟨waiting.frame different .., fun payee => returned_other payee ?_⟩
      simpa [concerns] using different
  | @contributed _ _ giftId =>
      have different : giftId ≠ id := by simpa [targets] using untargeted
      refine ⟨waiting.frame different .., fun payee => returned_other payee ?_⟩
      simpa [concerns] using different
  | @unlocked _ _ giftId found _ _ stored =>
      constructor
      · by_cases same : giftId = id
        · subst same
          cases present.symm.trans stored
          exact ⟨_, SortedMap.get_set_self _ _ _, kept⟩
        · exact waiting.frame same ..
      · intro payee
        simp [returned]
  | @claimed _ giftId =>
      have different : giftId ≠ id := by simpa [targets] using untargeted
      refine ⟨waiting.frame different .., fun payee => returned_other payee ?_⟩
      simpa [concerns] using different
  | @refunded _ giftId =>
      have different : giftId ≠ id := by simpa [targets] using untargeted
      refine ⟨waiting.frame different .., fun payee => returned_other payee ?_⟩
      simpa [concerns] using different
  | outside => exact ⟨⟨held, present, kept⟩, fun payee => returned_other payee (by simp [concerns])⟩

theorem next_waiting (counted : Counted s) (waiting : Waiting id gift s) {who : Address}
    (contributed : gift.contributions.contains who = true) (isBlocked : who ∈ blocked)
    (later : Later d gift blocked action) :
    Waiting id gift ((machine d).next s action) ∧
      ∀ payee, returned d id payee ((machine d).record s action) = 0 := by
  cases ran : exec d s action with
  | ok result =>
      rw [Runs.Machine.record_of_ok (m := machine d) ran,
        Runs.Machine.next_of_ok (m := machine d) ran]
      exact step_waiting counted waiting contributed isBlocked later ran
  | error trap =>
      rw [Runs.Machine.record_of_error (m := machine d) ran,
        Runs.Machine.next_of_error (m := machine d) ran]
      exact ⟨waiting, fun payee => rfl⟩

theorem run_waiting (counted : Counted s) (waiting : Waiting id gift s) {who : Address}
    (contributed : gift.contributions.contains who = true) (isBlocked : who ∈ blocked)
    (calls : List (Action Address (Call Address)))
    (later : ∀ call ∈ calls, Later d gift blocked call) :
    Waiting id gift ((machine d).final s calls) ∧
      ∀ payee, returnedTo d id payee ((machine d).trace s calls) = 0 := by
  have kept := Runs.Machine.run_invariant (m := machine d)
    (fun past s => Counted s ∧ Waiting id gift s ∧ ∀ payee, returnedTo d id payee past = 0)
    (fun _ call => Later d gift blocked call) ⟨counted, waiting, fun _ => rfl⟩ ?_ calls
    (Runs.Machine.met_of_calls later)
  · exact kept.2
  · intro past s call holds allowed
    have stepped := next_waiting holds.1 holds.2.1 contributed isBlocked allowed
    refine ⟨next_counted d holds.1 call, stepped.1, ?_⟩
    intro payee
    rw [returnedTo_append, holds.2.2, stepped.2, add_zero]

end Blocked

section Results

variable {d : Deployment Address} {id : Nat} {gift : GiftRecord Address}
  {past : List (Entry Address)} {s : State Address}

theorem refunds_at (d : Deployment Address) (gift : GiftRecord Address) (who : Address) :
    ((refunds d gift).map fun t =>
      if t.source = d.self ∧ t.recipient = who then t.amount else 0).sum =
        ((gift.contributions.get who).map I128.value).getD 0 := by
  rw [← gift.contributions.total_at, refunds, List.map_map]
  simp only [Function.comp_def, true_and]
  rfl

structure Refundable (d : Deployment Address) (env : Env Address) (gift : GiftRecord Address) :
    Prop where
  isOpen : gift.status = .open
  expired : gift.expiresAt ≤ env.timestamp
  taken : ∀ transfer ∈ refunds d gift, env.refuses transfer = false

/-- A refund that one of the parties signs succeeds just when the gift can be refunded, and then
it pays everybody. -/
theorem refund_ok_iff (sound : Sound d s) (stored : s.gifts.get id = some gift) {env : Env Address}
    {caller : Address} (isParty : caller = gift.sender ∨ gift.contributions.contains caller = true) :
    (∃ after receipt, exec d s (.invoke env (.refund id caller)) = .ok (after, receipt) ∧
      receipt.transfers = refunds d gift) ↔
      env.authorized caller = true ∧ Refundable d env gift := by
  constructor
  · intro succeeds
    rcases succeeds with ⟨after, receipt, ran, _⟩
    cases exec_step ran with
    | refunded authorized found _ isOpen expired =>
        cases stored.symm.trans found
        exact ⟨authorized, isOpen, expired, refund_unrefused ran stored⟩
  · intro due
    rcases due with ⟨authorized, refundable⟩
    have recorded := sound.recorded id gift stored
    have enough := sound.covers stored refundable.isOpen
    rw [recorded.total, ← refunds_sum d gift] at enough
    rcases tokenPayAll_ok (refunds_out d recorded) enough refundable.taken with ⟨balances, paid⟩
    exact ⟨_, _, refund_eq_ok authorized stored isParty refundable.isOpen refundable.expired paid,
      rfl⟩

theorem refund_transfers (stored : s.gifts.get id = some gift) {env : Env Address}
    {caller : Address} {after : State Address} {receipt : Receipt Address}
    (ran : exec d s (.invoke env (.refund id caller)) = .ok (after, receipt)) :
    receipt.transfers = refunds d gift := by
  cases exec_step ran with
  | refunded _ found =>
      cases stored.symm.trans found
      rfl

/-- When no payout is turned down one refund pays everybody back. -/
theorem refund_pays (sound : Sound d s) (agrees : Matches id past gift)
    (stored : s.gifts.get id = some gift) (isOpen : gift.status = .open) {env : Env Address}
    {caller : Address} (authorized : env.authorized caller = true)
    (isParty : caller = gift.sender ∨ gift.contributions.contains caller = true)
    (later : Later d gift ∅ (.invoke env (.refund id caller))) (who : Address) :
    returnedTo d id who ((machine d).trace s [.invoke env (.refund id caller)]) =
      paidBy id who past := by
  have recorded := sound.recorded id gift stored
  have enough := sound.covers stored isOpen
  rw [recorded.total, ← refunds_sum d gift] at enough
  have allowed : ∀ t ∈ refunds d gift, env.refuses t = false := by
    intro t member
    have out := refunds_out d recorded t member
    rw [← Bool.not_eq_true, later.2 t out.1 out.2.1]
    exact Finset.notMem_empty _
  rcases tokenPayAll_ok (refunds_out d recorded) enough allowed with ⟨balances, paid⟩
  have ran : exec d s (.invoke env (.refund id caller)) = _ :=
    refund_eq_ok authorized stored isParty isOpen later.1 paid
  calc
    _ = returned d id who ⟨s, .invoke env (.refund id caller),
        .ok ⟨none, refunds d gift, [.giftRefunded id]⟩⟩ := by
      rw [Runs.Machine.trace_cons, Runs.Machine.record_of_ok (m := machine d) ran]
      simp [returnedTo]
    _ = ((gift.contributions.get who).map I128.value).getD 0 := by
      rw [← refunds_at d]
      simp [returned, concerns]
    _ = _ := agrees.shares who

/-- Some continuation pays every contributor outside `blocked` what they paid in. -/
def Recovers (d : Deployment Address) (id : Nat) (gift : GiftRecord Address)
    (blocked : Finset Address) (past : List (Entry Address)) (s : State Address) : Prop :=
  ∃ calls, (∀ call ∈ calls, Later d gift blocked call) ∧
    ∀ who, gift.contributions.contains who = true → who ∉ blocked →
      returnedTo d id who ((machine d).trace s calls) = paidBy id who past

/-- An expired open gift is paid back to all contributors at once or to none: one refund
pays everyone when the token turns nobody down, and while it turns down a contributor the gift
stays open and pays nobody. -/
theorem refund_all_or_nothing (d : Deployment Address)
    (actions : List (Action Address (Call Address)))
    (foreign : ∀ action ∈ actions, NotSelfPaid Call.payer d.self action) (id : Nat)
    (gift : GiftRecord Address)
    (stored : ((machine d).final State.empty actions).gifts.get id = some gift)
    (isOpen : gift.status = .open) (blocked : Finset Address)
    (parties : ∀ who ∈ blocked, gift.contributions.contains who = true)
    (proper : ∃ who, gift.contributions.contains who = true ∧ who ∉ blocked) :
    let past := (machine d).trace State.empty actions
    let s := (machine d).final State.empty actions
    (Recovers d id gift blocked past s ↔ blocked = ∅) ∧
    (blocked = ∅ → ∀ env caller, env.authorized caller = true →
      (caller = gift.sender ∨ gift.contributions.contains caller = true) →
      Later d gift blocked (.invoke env (.refund id caller)) → ∀ who,
        returnedTo d id who ((machine d).trace s [.invoke env (.refund id caller)]) =
          paidBy id who past) ∧
    (blocked ≠ ∅ → ∀ calls, (∀ call ∈ calls, Later d gift blocked call) →
      Waiting id gift ((machine d).final s calls) ∧
        ∀ who, returnedTo d id who ((machine d).trace s calls) = 0) := by
  intro past s
  have settled : Sound d s ∧ History past s := run_history d actions foreign
  have sound := settled.1
  have agrees : Matches id past gift := settled.2.stored id gift stored
  have nobody : blocked ≠ ∅ → ∀ calls, (∀ call ∈ calls, Later d gift blocked call) →
      Waiting id gift ((machine d).final s calls) ∧
        ∀ who, returnedTo d id who ((machine d).trace s calls) = 0 := by
    intro someone calls later
    rcases Finset.nonempty_iff_ne_empty.mpr someone with ⟨who, member⟩
    exact run_waiting sound.counted ⟨gift, stored, isOpen, rfl, rfl, rfl⟩ (parties who member)
      member calls later
  have everybody : blocked = ∅ → ∀ env caller, env.authorized caller = true →
      (caller = gift.sender ∨ gift.contributions.contains caller = true) →
      Later d gift blocked (.invoke env (.refund id caller)) → ∀ who,
        returnedTo d id who ((machine d).trace s [.invoke env (.refund id caller)]) =
          paidBy id who past := by
    rintro rfl env caller authorized isParty later who
    exact refund_pays sound agrees stored isOpen authorized isParty later who
  refine ⟨⟨?_, ?_⟩, everybody, nobody⟩
  · intro refunded
    rcases refunded with ⟨calls, later, paid⟩
    by_contra someone
    rcases proper with ⟨who, contributed, outside⟩
    have nothing := (nobody someone calls later).2 who
    rcases SortedMap.contains_iff.mp contributed with ⟨amount, share⟩
    have positive := (sound.recorded id gift stored).positive who amount share
    have due := agrees.shares who
    rw [share, Option.map_some, Option.getD_some] at due
    rw [paid who contributed outside, ← due] at nothing
    omega
  · intro nobodyBlocked
    let env : Env Address := ⟨fun who => decide (who = gift.sender), gift.expiresAt, fun _ => false⟩
    have later : Later d gift blocked (.invoke env (.refund id gift.sender)) := by
      rw [nobodyBlocked]
      exact ⟨le_rfl, fun t _ _ => by simp [env]⟩
    refine ⟨[.invoke env (.refund id gift.sender)], ?_, ?_⟩
    · intro call member
      cases List.mem_singleton.mp member
      exact later
    · intro who _ _
      exact everybody nobodyBlocked env gift.sender (by simp [env]) (Or.inl rfl) later who

theorem sampleFunding_gift :
    ∃ gift, ((machine sampleDeployment).final State.empty sampleFunding).gifts.get 1 = some gift ∧
      gift.status = .open ∧ gift.contributions.contains 1 = true ∧
      gift.contributions.contains 3 = true := by
  have shown : (((machine sampleDeployment).final State.empty sampleFunding).gifts.get 1).map
      (fun gift => (gift.status, gift.contributions.contains 1, gift.contributions.contains 3)) =
        some (.open, true, true) := by
    decide +kernel
  rcases Option.map_eq_some_iff.mp shown with ⟨gift, stored, fields⟩
  simp only [Prod.mk.injEq] at fields
  exact ⟨gift, stored, fields.1, fields.2.1, fields.2.2⟩

theorem refund_all_or_nothing_sample :
    let past := (machine sampleDeployment).trace State.empty sampleFunding
    let s := (machine sampleDeployment).final State.empty sampleFunding
    ∃ gift, s.gifts.get 1 = some gift ∧
      (Recovers sampleDeployment 1 gift {3} past s ↔ ({3} : Finset Nat) = ∅) := by
  intro past s
  rcases sampleFunding_gift with ⟨gift, stored, isOpen, first, third⟩
  refine ⟨gift, stored, ?_⟩
  exact (refund_all_or_nothing sampleDeployment sampleFunding sampleFunding_foreign 1 gift stored
    isOpen {3} (by simpa using third) ⟨1, first, by simp⟩).1

/-- Account 3 alone keeps account 1 from ever getting its 100 back. -/
theorem refund_blocked_by_one :
    let past := (machine sampleDeployment).trace State.empty sampleFunding
    let s := (machine sampleDeployment).final State.empty sampleFunding
    ∃ gift, s.gifts.get 1 = some gift ∧ gift.status = .open ∧
      gift.contributions.contains 1 = true ∧ gift.contributions.contains 3 = true ∧
      paidBy 1 1 past = 100 ∧
      (∀ calls, (∀ call ∈ calls, Later sampleDeployment gift {3} call) →
        returnedTo sampleDeployment 1 1 ((machine sampleDeployment).trace s calls) = 0) ∧
      ¬Recovers sampleDeployment 1 gift {3} past s := by
  intro past s
  rcases sampleFunding_gift with ⟨gift, stored, isOpen, first, third⟩
  have due : paidBy 1 1 past = 100 := by decide +kernel
  have nothing : ∀ calls, (∀ call ∈ calls, Later sampleDeployment gift {3} call) →
      returnedTo sampleDeployment 1 1 ((machine sampleDeployment).trace s calls) = 0 := by
    intro calls later
    exact (run_waiting (run_counted sampleDeployment sampleFunding)
      ⟨gift, stored, isOpen, rfl, rfl, rfl⟩ third (Finset.mem_singleton_self 3) calls later).2 1
  refine ⟨gift, stored, isOpen, first, third, due, nothing, ?_⟩
  intro refunded
  rcases refunded with ⟨calls, later, paid⟩
  have received := paid 1 first (by simp)
  rw [nothing calls later, due] at received
  omega

end Results

end Giffy.Escrow
