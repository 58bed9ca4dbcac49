import Giffy.Escrow.Payouts

/-! What calls can still do to a gift that is no longer open. -/

namespace Giffy.Escrow

variable {Address : Type} [LinearOrder Address]

section Definitions

def Event.giftId : Event Address → Nat
  | .giftCreated id .. => id
  | .giftContributed id .. => id
  | .giftStep id _ => id
  | .giftClaimed id _ => id
  | .giftRefunded id => id

/-- A call after which the gift is stored as before, with no event published for it. -/
def Leaves (d : Deployment Address) (id : Nat) (gift : GiftRecord Address)
    (entry : Entry Address) : Prop :=
  ((machine d).next entry.before entry.call).gifts.get id = some gift ∧
    ∀ receipt, entry.outcome = .ok receipt → ∀ event ∈ receipt.events, event.giftId ≠ id

def stepsLeft (gift : GiftRecord Address) : Prop :=
  match gift.condition with
  | .stepGate total => gift.stepsCompleted < total
  | _ => False

/-- An `unlock_step` on the gift, signed by its unlocker, with steps left to unlock. -/
def LateUnlock (id : Nat) (gift : GiftRecord Address) : Action Address (Call Address) → Prop
  | .invoke env (.unlockStep unlocker giftId) =>
      giftId = id ∧ env.authorized unlocker = true ∧ unlocker = gift.stepUnlocker ∧ stepsLeft gift
  | _ => False

end Definitions

section Steps

variable {d : Deployment Address} {s after : State Address} {receipt : Receipt Address}
  {action : Action Address (Call Address)} {id : Nat} {gift : GiftRecord Address}

theorem step_frame (step : Step d s action after receipt)
    (other : concerns ⟨s, action, .ok receipt⟩ ≠ some id) :
    after.gifts.get id = s.gifts.get id := by
  cases step with
  | outside => rfl
  | created | contributed | unlocked | claimed | refunded =>
      apply SortedMap.get_set_ne
      intro same
      exact other (congrArg some same)

theorem step_events (step : Step d s action after receipt) :
    ∀ event ∈ receipt.events, concerns ⟨s, action, .ok receipt⟩ = some event.giftId := by
  intro event member
  cases step with
  | outside => cases member
  | created | contributed | unlocked | claimed | refunded =>
      cases List.mem_singleton.mp member
      rfl

/-- The only call that is still about a closed gift unlocks a step of it. -/
theorem closed_concerns (counted : Counted s) (stored : s.gifts.get id = some gift)
    (closed : gift.status ≠ .open) (step : Step d s action after receipt)
    (about : concerns ⟨s, action, .ok receipt⟩ = some id) : LateUnlock id gift action := by
  cases step with
  | created _ _ _ next =>
      cases about
      rw [counted.fresh next] at stored
      cases stored
  | contributed _ _ found isOpen =>
      cases about
      cases stored.symm.trans found
      exact absurd isOpen closed
  | unlocked authorized found isUnlocker gated remaining =>
      cases about
      cases stored.symm.trans found
      refine ⟨rfl, authorized, isUnlocker, ?_⟩
      rw [stepsLeft, gated]
      exact remaining
  | claimed _ found _ isOpen =>
      cases about
      cases stored.symm.trans found
      exact absurd isOpen closed
  | refunded _ found _ isOpen =>
      cases about
      cases stored.symm.trans found
      exact absurd isOpen closed
  | outside => cases about

theorem lateUnlock_succeeds (stored : s.gifts.get id = some gift)
    (late : LateUnlock id gift action) :
    (machine d).outcome s action =
      .ok ⟨none, [], [.giftStep id (gift.stepsCompleted + 1)]⟩ := by
  rcases action with ⟨env, call⟩ | _
  · cases call with
    | unlockStep unlocker giftId =>
        rcases late with ⟨rfl, authorized, isUnlocker, left⟩
        cases gated : gift.condition with
        | stepGate total =>
            rw [stepsLeft, gated] at left
            have ran : exec d s (.invoke env (.unlockStep unlocker giftId)) =
                .ok (setGift s giftId { gift with stepsCompleted := gift.stepsCompleted + 1 },
                  ⟨none, [], [.giftStep giftId (gift.stepsCompleted + 1)]⟩) := by
              simp only [exec, invoke, unlockStep, bind_eq_ok, requireAuth_eq_ok, panicIf_eq_ok,
                getGift_eq_ok, stepTotal_eq_ok, pure_eq_ok, not_not, not_le, exists_const]
              exact ⟨authorized, gift, stored, isUnlocker, total, gated, left, rfl⟩
            exact Runs.Machine.outcome_of_ok ran
        | none | answerHash =>
            rw [stepsLeft, gated] at left
            cases left
    | createGift | contribute | claim | refund => cases late
  · cases late

theorem leaves_iff (counted : Counted s) (stored : s.gifts.get id = some gift)
    (closed : gift.status ≠ .open) :
    Leaves d id gift ((machine d).record s action) ↔ ¬LateUnlock id gift action := by
  constructor
  · intro leaves late
    exact leaves.2 _ (lateUnlock_succeeds stored late) _ List.mem_cons_self rfl
  · intro untimely
    rcases next_cases (d := d) s action with ⟨receipt, ran, step⟩ | ⟨⟨trap, failed⟩, same⟩
    · have other : concerns ⟨s, action, .ok receipt⟩ ≠ some id := fun about =>
        untimely (closed_concerns counted stored closed step about)
      refine ⟨(step_frame step other).trans stored, ?_⟩
      intro found succeeded event member same
      cases ran.symm.trans succeeded
      exact other (same ▸ step_events step event member)
    · refine ⟨(congrArg (fun after => after.gifts.get id) same).trans stored, ?_⟩
      intro found succeeded
      cases failed.symm.trans succeeded

end Steps

section Progress

variable {d : Deployment Address} {s after : State Address} {receipt : Receipt Address}
  {action : Action Address (Call Address)}

structure Progress (gift : GiftRecord Address) : Prop where
  within : ∀ total, gift.condition = .stepGate total → gift.stepsCompleted ≤ total
  finished : gift.status = .claimed → ¬stepsLeft gift

theorem checkCondition_finished {gift : GiftRecord Address} {answer : Option (List UInt8)}
    (passed : checkCondition d gift answer = .ok ()) : ¬stepsLeft gift := by
  intro left
  cases gated : gift.condition with
  | stepGate total =>
      rw [stepsLeft, gated] at left
      simp only [checkCondition, gated, panicIf_eq_ok, not_not] at passed
      exact absurd passed (ne_of_lt left)
  | none | answerHash =>
      rw [stepsLeft, gated] at left
      cases left

theorem step_progress (progress : ∀ id gift, s.gifts.get id = some gift → Progress gift)
    (step : Step d s action after receipt) (id : Nat) (gift : GiftRecord Address)
    (present : after.gifts.get id = some gift) : Progress gift := by
  by_cases about : concerns ⟨s, action, .ok receipt⟩ = some id
  · cases step with
    | created _ _ _ _ record =>
        cases about
        cases (SortedMap.get_set_self ..).symm.trans present
        subst record
        exact ⟨fun _ _ => Nat.zero_le _, nofun⟩
    | contributed _ _ stored isOpen =>
        cases about
        cases (SortedMap.get_set_self ..).symm.trans present
        have before := progress _ _ stored
        exact ⟨before.within, before.finished⟩
    | @unlocked _ _ _ gift total _ stored _ gated remaining =>
        cases about
        cases (SortedMap.get_set_self ..).symm.trans present
        have before := progress _ _ stored
        constructor
        · intro found same
          cases gated.symm.trans same
          exact remaining
        · intro claimed left
          have waiting : stepsLeft gift := by
            rw [stepsLeft, gated]
            exact remaining
          exact before.finished claimed waiting
    | claimed _ stored _ _ _ condition =>
        cases about
        cases (SortedMap.get_set_self ..).symm.trans present
        have before := progress _ _ stored
        exact ⟨before.within, fun _ => checkCondition_finished condition⟩
    | refunded _ stored =>
        cases about
        cases (SortedMap.get_set_self ..).symm.trans present
        have before := progress _ _ stored
        exact ⟨before.within, nofun⟩
    | outside => cases about
  · rw [step_frame step about] at present
    exact progress id gift present

theorem run_progress (d : Deployment Address) (actions : List (Action Address (Call Address)))
    (id : Nat) (gift : GiftRecord Address)
    (stored : ((machine d).final State.empty actions).gifts.get id = some gift) :
    Progress gift := by
  have start : ∀ id gift, (State.empty : State Address).gifts.get id = some gift →
      Progress gift := fun id gift present => by simp [State.empty] at present
  refine Runs.Machine.state_invariant (m := machine d)
    (fun s => ∀ id gift, s.gifts.get id = some gift → Progress gift) (fun _ _ => True) start ?_
    actions (fun _ _ => trivial) id gift stored
  intro s action progress _
  rcases next_cases (d := d) s action with ⟨receipt, _, step⟩ | ⟨_, same⟩
  · exact step_progress progress step
  · rw [same]
    exact progress

end Progress

section Runs

variable (d : Deployment Address) {id : Nat} {gift : GiftRecord Address}

theorem run_leaves_iff {s : State Address} (counted : Counted s)
    (stored : s.gifts.get id = some gift) (closed : gift.status ≠ .open)
    (back : List (Action Address (Call Address))) :
    (∀ entry ∈ (machine d).trace s back, Leaves d id gift entry) ↔
      ∀ action ∈ back, ¬LateUnlock id gift action := by
  induction back generalizing s with
  | nil => simp
  | cons action rest ih =>
      rw [Runs.Machine.trace_cons, List.forall_mem_cons, List.forall_mem_cons]
      have here : Leaves d id gift ((machine d).record s action) ↔ ¬LateUnlock id gift action :=
        leaves_iff counted stored closed
      constructor
      · intro stays
        rcases stays with ⟨leaves, later⟩
        exact ⟨here.mp leaves, (ih (next_counted d counted action) leaves.1).mp later⟩
      · intro stays
        rcases stays with ⟨untimely, later⟩
        have leaves := here.mpr untimely
        exact ⟨leaves, (ih (next_counted d counted action) leaves.1).mpr later⟩

/-- A gift that is no longer open stays as it is, with no event about it, exactly through the
calls among which no step of it is unlocked; a claimed gift has none left. -/
theorem closed_gift_final_iff (d : Deployment Address)
    (front back : List (Action Address (Call Address))) (id : Nat) (gift : GiftRecord Address)
    (stored : ((machine d).final State.empty front).gifts.get id = some gift)
    (closed : gift.status ≠ .open) :
    ((∀ entry ∈ (machine d).trace ((machine d).final State.empty front) back,
      Leaves d id gift entry) ↔ ∀ action ∈ back, ¬LateUnlock id gift action) ∧
    (gift.status = .claimed → ∀ action, ¬LateUnlock id gift action) := by
  refine ⟨run_leaves_iff d (run_counted d front) stored closed back, ?_⟩
  intro claimed action late
  have finished := (run_progress d front id gift stored).finished claimed
  rcases action with ⟨env, call⟩ | _
  · cases call with
    | unlockStep => exact finished late.2.2.2
    | createGift | contribute | claim | refund => cases late
  · cases late

def sampleRefund : List (Action Nat (Call Nat)) :=
  [.outside 9 1 500,
    .invoke (sampleEnv 10) (.createGift 1 2 9 sampleAmount 1000 (.stepGate 2) 4
      (BytesN.ofNat 32 0)),
    .invoke (sampleEnv 1000) (.refund 1 1)]

def sampleRefunded : GiftRecord Nat :=
  { newGift 1 2 9 sampleAmount 1000 (.stepGate 2) 4 (BytesN.ofNat 32 0) with
    status := .refunded }

theorem sampleRefund_stored :
    ((machine sampleDeployment).final State.empty sampleRefund).gifts.get 1 =
      some sampleRefunded := rfl

theorem refunded_gift_unlocked :
    let s := (machine sampleDeployment).final State.empty sampleRefund
    ∃ gift, s.gifts.get 1 = some gift ∧ gift.status = .refunded ∧
      ¬Leaves sampleDeployment 1 gift
        ((machine sampleDeployment).record s (.invoke (sampleEnv 2000) (.unlockStep 4 1))) := by
  refine ⟨sampleRefunded, sampleRefund_stored, rfl, ?_⟩
  intro leaves
  exact leaves.2 ⟨none, [], [.giftStep 1 1]⟩ rfl _ List.mem_cons_self rfl

theorem closed_gift_final_iff_sample :
    ((∀ entry ∈ (machine sampleDeployment).trace
        ((machine sampleDeployment).final State.empty sampleRefund)
        [.invoke (sampleEnv 2000) (.refund 1 1)],
      Leaves sampleDeployment 1 sampleRefunded entry) ↔
      ∀ action ∈ ([.invoke (sampleEnv 2000) (.refund 1 1)] : List (Action Nat (Call Nat))),
        ¬LateUnlock 1 sampleRefunded action) ∧
    (sampleRefunded.status = .claimed → ∀ action, ¬LateUnlock 1 sampleRefunded action) :=
  closed_gift_final_iff sampleDeployment sampleRefund [.invoke (sampleEnv 2000) (.refund 1 1)] 1
    sampleRefunded sampleRefund_stored (by decide)

end Runs

end Giffy.Escrow
