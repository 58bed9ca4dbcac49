import Giffy.Escrow.Finality

/-! Gifts share a counter and the escrow's balances, and nothing else. -/

namespace Giffy.Escrow

open TokenLedger

variable {Address : Type} [LinearOrder Address]

section Definitions

def created (entry : Entry Address) : Option Nat :=
  match entry.call, entry.outcome with
  | .invoke _ (.createGift ..), .ok receipt => receipt.giftId
  | _, _ => none

def names : Action Address (Call Address) → Option Nat
  | .invoke _ (.contribute _ giftId _) => some giftId
  | .invoke _ (.unlockStep _ giftId) => some giftId
  | .invoke _ (.claim giftId _ _) => some giftId
  | .invoke _ (.refund giftId _) => some giftId
  | _ => none

def outflow (d : Deployment Address) (token : Address) (transfers : List (Transfer Address)) : Int :=
  (transfers.map fun t =>
    if token = t.token ∧ t.source = d.self ∧ t.recipient ≠ d.self then t.amount else 0).sum

/-- What one call, made in the state the entry starts from, does to gifts it is not about. -/
structure Isolated (d : Deployment Address) (entry : Entry Address) : Prop where
  fresh : ∀ id, created entry = some id → entry.before.gifts.get id = none ∧
    ∀ other, other ≠ id → ((machine d).next entry.before entry.call).gifts.get other =
      entry.before.gifts.get other
  others : ∀ id, names entry.call = some id → ∀ other, other ≠ id →
    ((machine d).next entry.before entry.call).gifts.get other = entry.before.gifts.get other
  paid : ∀ id, names entry.call = some id → ∀ receipt, entry.outcome = .ok receipt →
    ((machine d).next entry.before entry.call).balances =
        receipt.transfers.foldl move entry.before.balances ∧
      ∃ gift, entry.before.gifts.get id = some gift ∧ ∀ token,
        outflow d token receipt.transfers ≤
          if token = gift.token then gift.totalAmount.value else 0
  failing : ∀ trap, entry.outcome = .error trap →
    (machine d).next entry.before entry.call = entry.before

end Definitions

section Outflow

variable {d : Deployment Address} {s after : State Address} {receipt : Receipt Address}
  {action : Action Address (Call Address)} {id : Nat} {gift : GiftRecord Address}

theorem outflow_le {token inToken : Address} {transfers : List (Transfer Address)}
    (out : ∀ t ∈ transfers, t.token = inToken ∧ t.source = d.self ∧ 0 ≤ t.amount) :
    outflow d token transfers ≤
      if token = inToken then (transfers.map Transfer.amount).sum else 0 := by
  induction transfers with
  | nil => simp [outflow]
  | cons t rest ih =>
      rcases out t List.mem_cons_self with ⟨same, source, nonneg⟩
      have tail := ih fun u member => out u (List.mem_cons_of_mem t member)
      simp only [outflow, List.map_cons, List.sum_cons, same, source] at tail ⊢
      by_cases here : token = inToken
      · simp only [here, true_and, if_true] at tail ⊢
        split <;> omega
      · simp only [here, false_and, if_false, zero_add] at tail ⊢
        exact tail

theorem outflow_inward {token inToken payer : Address} {amount : Int} :
    outflow d token [⟨inToken, payer, d.self, amount⟩] = 0 := by
  simp [outflow]

theorem outflow_payment {token inToken payee : Address} {amount : Int} (nonneg : 0 ≤ amount) :
    outflow d token [⟨inToken, d.self, payee, amount⟩] ≤ if token = inToken then amount else 0 := by
  simp only [outflow, List.map_cons, List.map_nil, List.sum_cons, List.sum_nil]
  by_cases here : token = inToken
  · simp only [here, true_and, if_true]
    split <;> omega
  · simp [here]

theorem step_outflow (recorded : ∀ id gift, s.gifts.get id = some gift → Recorded gift)
    (step : Step d s action after receipt) (named : names action = some id) :
    ∃ gift, s.gifts.get id = some gift ∧ ∀ token,
      outflow d token receipt.transfers ≤
        if token = gift.token then gift.totalAmount.value else 0 := by
  have covers : ∀ gift, s.gifts.get id = some gift → ∀ token : Address,
      0 ≤ if token = gift.token then gift.totalAmount.value else 0 := by
    intro gift stored token
    split
    · exact (recorded id gift stored).total_nonneg
    · exact le_rfl
  cases step with
  | created => cases named
  | contributed _ _ stored _ _ paid =>
      cases named
      refine ⟨_, stored, fun token => ?_⟩
      rw [paid, outflow_inward]
      exact covers _ stored token
  | unlocked _ stored =>
      cases named
      exact ⟨_, stored, covers _ stored⟩
  | claimed _ stored _ _ _ _ paid =>
      cases named
      refine ⟨_, stored, fun token => ?_⟩
      have nonneg := (recorded _ _ stored).total_nonneg
      rw [paid]
      exact outflow_payment nonneg
  | @refunded _ _ _ gift _ stored =>
      cases named
      refine ⟨gift, stored, fun token => ?_⟩
      have adds := recorded _ _ stored
      have bound : outflow d token (refunds d gift) ≤ _ := outflow_le (refunds_out d adds)
      rw [refunds_sum, ← adds.total] at bound
      exact bound
  | outside => cases named

end Outflow

section Runs

variable {d : Deployment Address} {s after : State Address} {receipt : Receipt Address}
  {action : Action Address (Call Address)}

theorem created_concerns {entry : Entry Address} {id : Nat} (returned : created entry = some id) :
    concerns entry = some id := by
  rcases entry with ⟨s, action, outcome⟩
  rcases action with ⟨env, call⟩ | _
  · cases outcome with
    | error trap => cases call <;> cases returned
    | ok receipt => cases call <;> first | exact returned | cases returned
  · cases returned

theorem failed_created {trap : Trap GiftEscrowError} :
    created (⟨s, action, .error trap⟩ : Entry Address) = none := by
  rcases action with ⟨env, call⟩ | _
  · cases call <;> rfl
  · rfl

theorem named_concerns {id : Nat} (named : names action = some id) :
    concerns ⟨s, action, .ok receipt⟩ = some id := by
  rcases action with ⟨env, call⟩ | _
  · cases call <;> first | exact named | cases named
  · cases named

theorem step_fresh (counted : Counted s) (step : Step d s action after receipt) {id : Nat}
    (returned : created ⟨s, action, .ok receipt⟩ = some id) : s.gifts.get id = none := by
  cases step with
  | created _ _ _ next =>
      cases returned
      exact counted.fresh next
  | contributed | unlocked | claimed | refunded | outside => cases returned

theorem step_isolated (recorded : ∀ id gift, s.gifts.get id = some gift → Recorded gift)
    (counted : Counted s) (action : Action Address (Call Address)) :
    Isolated d ((machine d).record s action) := by
  rcases next_cases (d := d) s action with ⟨receipt, ran, step⟩ | ⟨⟨trap, failed⟩, same⟩
  · rw [Runs.Machine.record, ran]
    have elsewhere : ∀ {id other : Nat}, concerns ⟨s, action, .ok receipt⟩ = some id →
        other ≠ id → ((machine d).next s action).gifts.get other = s.gifts.get other := by
      intro id other about different
      apply step_frame step
      rw [about]
      exact fun same => different (Option.some.inj same).symm
    constructor
    · intro id returned
      exact ⟨step_fresh counted step returned, fun _ => elsewhere (created_concerns returned)⟩
    · intro id named other
      exact elsewhere (named_concerns named)
    · intro id named found succeeded
      cases succeeded
      refine ⟨step_moves step ?_, step_outflow recorded step named⟩
      cases action with
      | invoke env call => exact ⟨env, call, rfl⟩
      | outside => cases named
    · intro trap failed
      cases failed
  · rw [Runs.Machine.record, failed]
    constructor
    · intro id returned
      rw [failed_created] at returned
      cases returned
    · intro id named other different
      exact congrArg (fun after => after.gifts.get other) same
    · intro id named receipt succeeded
      cases succeeded
    · intro _ _
      exact same

theorem step_counter (step : Step d s action after receipt) :
    (created ⟨s, action, .ok receipt⟩ = some (s.giftCounter.getD 0 + 1) ∧
      after.giftCounter.getD 0 = s.giftCounter.getD 0 + 1) ∨
    (created ⟨s, action, .ok receipt⟩ = none ∧ after.giftCounter = s.giftCounter) := by
  cases step with
  | created _ _ _ next =>
      subst next
      exact Or.inl ⟨rfl, rfl⟩
  | contributed | unlocked | claimed | refunded | outside => exact Or.inr ⟨rfl, rfl⟩

theorem run_ids (d : Deployment Address) (actions : List (Action Address (Call Address))) :
    ((machine d).trace State.empty actions).filterMap created =
      List.range' 1 (((machine d).final State.empty actions).giftCounter.getD 0) := by
  refine Runs.Machine.run_invariant (m := machine d)
    (fun past s => past.filterMap created = List.range' 1 (s.giftCounter.getD 0))
    (fun _ _ => True) rfl ?_ actions (fun _ _ => trivial)
  intro past s action ids _
  rw [List.filterMap_append, ids]
  rcases next_cases (d := d) s action with ⟨receipt, ran, step⟩ | ⟨⟨trap, failed⟩, same⟩
  · rw [Runs.Machine.record, ran]
    rcases step_counter step with ⟨returned, counter⟩ | ⟨nothing, counter⟩
    · rw [counter, List.range'_concat, List.filterMap_cons_some returned, List.filterMap_nil,
        one_mul, Nat.add_comm]
    · rw [counter, List.filterMap_cons_none nothing, List.filterMap_nil, List.append_nil]
  · rw [Runs.Machine.record, failed, same, List.filterMap_cons_none failed_created,
      List.filterMap_nil, List.append_nil]

/-- In every run the ids are handed out in order without a gap, and each call keeps to the
gift it is about. -/
theorem gifts_isolated (d : Deployment Address) (actions : List (Action Address (Call Address))) :
    let ids := ((machine d).trace State.empty actions).filterMap created
    ids = List.range' 1 ids.length ∧
      ∀ entry ∈ (machine d).trace State.empty actions, Isolated d entry := by
  constructor
  · rw [run_ids, List.length_range']
  · intro entry member
    rcases Runs.Machine.trace_member member with ⟨front, action, back, _, rfl⟩
    exact step_isolated (run_recorded d front) (run_counted d front) action

end Runs

end Giffy.Escrow
