import Giffy.Backend.StatusOrder

/-! A cached status that says more than `active` is the contract's own, or the clock's. -/

namespace Giffy.Backend

open Chain

variable {Address : Type} [LinearOrder Address] {p : Platform Address} {w after : World Address}
  {act : Act Address} {wrote : Option GiftStatus}

section Pointing

def World.PointsTo (w : World Address) (record : Escrow.GiftRecord Address) : Prop :=
  ∃ id, bigInt w.gift.contractGiftId = .ok id ∧ w.escrow.gifts.get id = some record

/-- What a final or a pending cached status promises. -/
structure World.Truthful (w : World Address) : Prop where
  claimed : w.gift.status = .claimed → ∃ record, w.PointsTo record ∧ record.status = .claimed
  refunded : w.gift.status = .refunded → ∃ record, w.PointsTo record ∧ record.status = .refunded
  pending : w.gift.status = .refundPending → w.gift.expiresAt.getTime < w.now.getTime

abbrev KeepsId (p : Platform Address) (w : World Address) (act : Act Address) : Prop :=
  ∀ text ∈ w.gift.contractGiftId, ((machine p).next w act).gift.contractGiftId = some text

/-- Every reading under way is of the document's record, and is out of date only if it is
open; a closed status in the document is the record's. -/
structure Current (w : World Address) : Prop where
  counted : Escrow.Counted w.escrow
  reading : ∀ id, Task.readingChain id ∈ w.tasks → bigInt w.gift.contractGiftId = .ok id
  saving : ∀ id onChain, Task.savingStatus id onChain ∈ w.tasks →
    bigInt w.gift.contractGiftId = .ok id ∧ ∃ record, w.escrow.gifts.get id = some record ∧
      (record.status = onChain.status ∨ onChain.status = .open)
  closed : ∀ status, status ≠ .open → w.gift.status = mapContractStatus status →
    ∃ record, w.PointsTo record ∧ record.status = status
  pending : w.gift.status = .refundPending → w.gift.expiresAt.getTime < w.now.getTime

theorem Current.truthful (current : Current w) : w.Truthful where
  claimed := current.closed .claimed nofun
  refunded := current.closed .refunded nofun
  pending := current.pending

end Pointing

section Steps

theorem bigInt_named {named : Option Text} {id : Nat} (read : bigInt named = .ok id) :
    ∃ text, named = some text := by
  cases named with
  | none => cases read
  | some text => exact ⟨text, rfl⟩

theorem bigInt_kept {id : Nat}
    (kept : ∀ text, w.gift.contractGiftId = some text → after.gift.contractGiftId = some text)
    (read : bigInt w.gift.contractGiftId = .ok id) : bigInt after.gift.contractGiftId = .ok id := by
  rcases bigInt_named read with ⟨text, named⟩
  rw [kept text named, ← named]
  exact read

theorem step_pointsTo (step : Step p w act after wrote) (counted : Escrow.Counted w.escrow)
    (kept : ∀ text, w.gift.contractGiftId = some text → after.gift.contractGiftId = some text)
    {record : Escrow.GiftRecord Address} (points : w.PointsTo record)
    (closed : record.status ≠ .open) :
    ∃ changed, after.PointsTo changed ∧ changed.status = record.status := by
  rcases points with ⟨id, named, stored⟩
  rcases step_record step counted stored with ⟨changed, present, same | isOpen⟩
  · exact ⟨changed, ⟨id, bigInt_kept kept named, present⟩, same⟩
  · exact absurd isOpen closed

theorem step_expiresAt (step : Step p w act after wrote) :
    after.gift.expiresAt = w.gift.expiresAt := by
  cases step with
  | @savedBuild k read tx running unsent =>
      simp only [savedBuild]
      split <;> rfl
  | @savedTxHash leg txHash => cases leg <;> rfl
  | _ => rfl

theorem step_clock (step : Step p w act after wrote) : w.now.getTime ≤ after.now.getTime := by
  cases step with
  | ticked forward => exact forward
  | _ => exact le_refl _

/-- A status past `pending_chain` that a step leaves in the document was there before, was
read off the chain, or is the sweep's. -/
theorem step_wrote (step : Step p w act after wrote) :
    after.gift.status = w.gift.status ∨ after.gift.status = .pendingChain ∨
      after.gift.status = .active ∨
      (after.gift.status = .refundPending ∧ w.gift.expiresAt.getTime < w.now.getTime) ∨
      ∃ id onChain, Task.savingStatus id onChain ∈ w.tasks ∧
        after.gift.status = mapContractStatus onChain.status := by
  cases step with
  | @savedBuild k read tx running unsent =>
      simp only [savedBuild]
      split
      · exact Or.inl rfl
      · exact Or.inr (Or.inl rfl)
  | savedSubmit => exact Or.inr (Or.inr (Or.inl rfl))
  | savedOther => exact Or.inr (Or.inr (Or.inl rfl))
  | marked active expired => exact Or.inr (Or.inr (Or.inr (Or.inl ⟨rfl, expired⟩)))
  | savedStatus running =>
      exact Or.inr (Or.inr (Or.inr (Or.inr ⟨_, _, List.mem_of_getElem? running, rfl⟩)))
  | savedTxHash => exact Or.inl (savedTxHash_status _ _ _)
  | _ => exact Or.inl rfl

theorem step_closed (step : Step p w act after wrote) (current : Current w)
    (kept : ∀ text, w.gift.contractGiftId = some text → after.gift.contractGiftId = some text)
    {status : Escrow.GiftStatus} (isClosed : status ≠ .open)
    (shown : after.gift.status = mapContractStatus status) :
    ∃ record, after.PointsTo record ∧ record.status = status := by
  have before : (∃ record, w.PointsTo record ∧ record.status = status) →
      ∃ record, after.PointsTo record ∧ record.status = status := by
    intro held
    rcases held with ⟨record, points, rfl⟩
    exact step_pointsTo step current.counted kept points isClosed
  apply before
  rcases step_wrote step with same | pendingChain | active | ⟨pending, _⟩ |
    ⟨id, onChain, member, read⟩
  · exact current.closed status isClosed (same.symm.trans shown)
  · rw [pendingChain] at shown
    cases status <;> cases shown
  · rw [active] at shown
    cases status with
    | «open» => exact absurd rfl isClosed
    | claimed => cases shown
    | refunded => cases shown
  · rw [pending] at shown
    cases status <;> cases shown
  · rcases current.saving id onChain member with ⟨named, record, stored, fresh⟩
    have same : onChain.status = status := by
      rw [read] at shown
      cases found : onChain.status <;> cases status <;> simp_all [mapContractStatus]
    refine ⟨record, ⟨id, named, stored⟩, ?_⟩
    rcases fresh with agrees | isOpen
    · exact agrees.trans same
    · exact absurd (same.symm.trans isOpen) isClosed

theorem step_pending (step : Step p w act after wrote) (current : Current w)
    (shown : after.gift.status = .refundPending) :
    after.gift.expiresAt.getTime < after.now.getTime := by
  have passed : w.gift.expiresAt.getTime < w.now.getTime := by
    rcases step_wrote step with same | pendingChain | active | ⟨_, expired⟩ | ⟨_, onChain, _, read⟩
    · exact current.pending (same.symm.trans shown)
    · rw [pendingChain] at shown
      cases shown
    · rw [active] at shown
      cases shown
    · exact expired
    · rw [read] at shown
      cases found : onChain.status <;> rw [found] at shown <;> cases shown
  rw [step_expiresAt step]
  exact lt_of_lt_of_le passed (step_clock step)

theorem step_current (step : Step p w act after wrote) (current : Current w)
    (kept : ∀ text, w.gift.contractGiftId = some text → after.gift.contractGiftId = some text) :
    Current after where
  counted := step_counted step current.counted
  reading id member := by
    rcases step_tasks step member with old | learns
    · exact bigInt_kept kept (current.reading id old)
    · cases learns with
      | nothing uninformed => cases uninformed
      | named named => exact bigInt_kept kept named
  saving id onChain member := by
    rcases step_tasks step member with old | learns
    · rcases current.saving id onChain old with ⟨named, record, stored, fresh⟩
      rcases step_record step current.counted stored with ⟨changed, present, moved⟩
      refine ⟨bigInt_kept kept named, changed, present, ?_⟩
      rcases moved with same | isOpen
      · exact fresh.imp_left same.trans
      · exact Or.inr (fresh.elim (fun agrees => agrees.symm.trans isOpen) fun late => late)
    · cases learns with
      | nothing uninformed => cases uninformed
      | stored reading stored =>
          have named := current.reading id reading
          exact ⟨bigInt_kept kept named, step_record step current.counted stored⟩
  closed _ isClosed shown := step_closed step current kept isClosed shown
  pending := step_pending step current

end Steps

section Runs

/-- In every run of handlers, sweeps and ledger steps for one draft whose document is given
its id once. -/
theorem cached_status_truthful (p : Platform Address)
    (past : List (Action Address (Escrow.Call Address))) (now : Instant) (token : Text)
    (input : CreateGiftInput) (draft : GiftDocument)
    (drafted : createDraft p.rt now token input = .ok draft) (sequence : Nat)
    (acts : List (Act Address))
    (once : ∀ entry ∈ (machine p).trace (World.freshly p past now draft sequence) acts,
      KeepsId p entry.before entry.call) :
    ((machine p).final (World.freshly p past now draft sequence) acts).Truthful := by
  have start : Current (World.freshly p past now draft sequence) := by
    rcases createDraft_eq_ok drafted with ⟨_, _, _, _, rfl⟩
    constructor
    · exact Escrow.run_counted p.escrow past
    · intro id member
      cases member
    · intro id onChain member
      cases member
    · intro status _ shown
      cases status <;> cases shown
    · intro shown
      cases shown
  apply Current.truthful
  refine Runs.Machine.state_invariant (m := machine p) Current (KeepsId p) start ?_ acts once
  intro w act current keeps
  rcases next_cases (p := p) w act with ⟨wrote, _, step⟩ | ⟨_, same⟩
  · exact step_current step current keeps
  · exact same.symm ▸ current

theorem cached_status_truthful_sample :
    let marked := (machine samplePlatform).final sampleWorld
      (sampleActive ++ [.tick ⟨3600001, by decide⟩, .markRefundPending])
    let settled := (machine samplePlatform).final sampleWorld sampleRefund
    marked.gift.status = .refundPending ∧ marked.Truthful ∧
      settled.gift.status = .refunded ∧ settled.Truthful := by
  have drafted : createDraft sampleRuntime ⟨0, by decide⟩ [] (sampleInput "10") = .ok sampleDraft :=
    rfl
  refine ⟨by decide +kernel, ?_, by decide +kernel, ?_⟩
  · exact cached_status_truthful samplePlatform samplePast _ [] _ sampleDraft drafted 0 _
      (by decide +kernel)
  · exact cached_status_truthful samplePlatform samplePast _ [] _ sampleDraft drafted 0 _
      (by decide +kernel)

end Runs

end Giffy.Backend
