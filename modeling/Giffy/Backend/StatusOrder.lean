import Giffy.Backend.OneGift

/-! The order in which a gift's cached status moves. -/

namespace Giffy.Backend

open Chain

variable {Address : Type} [LinearOrder Address] {p : Platform Address} {w after : World Address}
  {act : Act Address} {wrote : Option GiftStatus}

section Order

def GiftStatus.rank : GiftStatus → Nat
  | .draft => 0
  | .pendingChain => 1
  | .active => 2
  | .refundPending => 3
  | .claimed => 4
  | .refunded => 4

abbrev GiftStatus.Final (status : GiftStatus) : Prop := status = .claimed ∨ status = .refunded

/-- A status may be written over another of no higher rank, and over a final one only if it is
the same. -/
abbrev Forward (before written : GiftStatus) : Prop :=
  before.rank ≤ written.rank ∧ (before.Final → written = before)

theorem Forward.refl (status : GiftStatus) : Forward status status := ⟨le_refl _, fun _ => rfl⟩

theorem forward_active {status : GiftStatus} (early : status.rank ≤ 2) : Forward status .active := by
  constructor
  · exact early
  · rintro (rfl | rfl) <;> exact absurd early (by decide)

theorem rank_le_final (status : GiftStatus) {final : GiftStatus} (last : final.Final) :
    status.rank ≤ final.rank := by
  rcases last with rfl | rfl <;> cases status <;> decide

theorem mapContractStatus_final {status : Escrow.GiftStatus} :
    (mapContractStatus status).Final ↔ status ≠ .open := by
  cases status <;> decide

/-- A step's status is the one it wrote, or the one it found. -/
theorem step_writes (step : Step p w act after wrote) :
    after.gift.status = wrote.getD w.gift.status := by
  cases step with
  | @savedBuild k read tx running unsent =>
      simp only [savedBuild]
      split <;> rfl
  | savedTxHash => exact savedTxHash_status _ _ _
  | _ => rfl

end Order

section Agreement

structure Agreed (w : World Address) : Prop where
  counted : Escrow.Counted w.escrow
  readings : ∀ id onChain, Task.savingStatus id onChain ∈ w.tasks →
    ∃ record, w.escrow.gifts.get id = some record ∧
      (record.status = onChain.status ∨ onChain.status = .open)
  final : w.gift.status.Final → ∃ id record,
    w.gift.contractGiftId = some (Decimal.ofNat id) ∧ w.escrow.gifts.get id = some record ∧
      mapContractStatus record.status = w.gift.status

def Task.reading : Task Address → Option (Nat × Escrow.GiftStatus)
  | .savingStatus id onChain => some (id, onChain.status)
  | _ => none

/-- A build that read a draft saves over no submitted gift, a submit over none past active, and
a reconciliation neither an open reading over one past active nor a closed one of a gift that
the document does not name. -/
def InOrder (w : World Address) : Act Address → Prop
  | .saveBuild k => ∀ task ∈ w.tasks[k]?, task.marksPending = true → ¬Submitted w.gift.status
  | .saveSubmit _ _ => w.gift.status.rank ≤ 2
  | .saveStatus k => ∀ task ∈ w.tasks[k]?, ∀ reading ∈ task.reading,
      if reading.2 = .open then w.gift.status.rank ≤ 2
      else w.gift.contractGiftId = some (Decimal.ofNat reading.1)
  | _ => True

instance (w : World Address) : DecidablePred (InOrder w)
  | .saveBuild k => inferInstanceAs (Decidable (∀ task ∈ w.tasks[k]?, _ → _))
  | .saveSubmit _ _ => inferInstanceAs (Decidable (_ ≤ _))
  | .saveStatus k => inferInstanceAs (Decidable (∀ task ∈ w.tasks[k]?, ∀ reading ∈ task.reading, _))
  | .fetchAccount _ | .settle _ _ | .drop _ | .tick _ | .build | .simulate .. | .submit _
  | .submitOther | .send .. | .poll _ | .answerOther .. | .markRefundPending | .reconcile
  | .readChain _ | .saveTxHash .. | .bump | .chain _ => isTrue trivial

theorem step_forward (step : Step p w act after wrote) (agreed : Agreed w)
    (inOrder : InOrder w act) : Forward w.gift.status after.gift.status := by
  cases step with
  | @savedBuild k read tx running unsent =>
      by_cases same : read.status = .pendingChain
      · simp only [savedBuild, if_pos same]
        exact Forward.refl _
      · have early := inOrder _ running (decide_eq_true same)
        simp only [savedBuild, if_neg same]
        cases found : w.gift.status <;> simp [found] at early <;> decide
  | savedSubmit => exact forward_active inOrder
  | savedOther => exact forward_active inOrder
  | marked active =>
      rw [active]
      exact (by decide : Forward .active .refundPending)
  | @savedStatus k id onChain running =>
      have order := inOrder _ running (id, onChain.status) rfl
      by_cases isOpen : onChain.status = .open
      · rw [if_pos isOpen] at order
        simp only [savedStatus, isOpen]
        exact forward_active order
      · rw [if_neg isOpen] at order
        constructor
        · exact rank_le_final _ (mapContractStatus_final.mpr isOpen)
        · intro closed
          rcases agreed.final closed with ⟨other, record, named, stored, same⟩
          obtain ⟨current, found, fresh⟩ :=
            agreed.readings id onChain (List.mem_of_getElem? running)
          have ids : other = id := Decimal.ofNat_injective (Option.some.inj (named.symm.trans order))
          subst ids
          cases stored.symm.trans found
          rw [← same, fresh.resolve_right isOpen]
          rfl
  | savedTxHash =>
      rw [savedTxHash_status]
      exact Forward.refl _
  | _ => exact Forward.refl _

theorem step_agreed (step : Step p w act after wrote) (agreed : Agreed w)
    (inOrder : InOrder w act) : Agreed after := by
  have counted := agreed.counted
  have kept : after.gift.status = w.gift.status →
      after.gift.contractGiftId = w.gift.contractGiftId → after.gift.status.Final →
      ∃ id record, after.gift.contractGiftId = some (Decimal.ofNat id) ∧
        after.escrow.gifts.get id = some record ∧
        mapContractStatus record.status = after.gift.status := by
    intro status named last
    rw [status] at last
    rcases agreed.final last with ⟨id, record, found, stored, same⟩
    rcases step_record step counted stored with ⟨changed, present, closed | isOpen⟩
    · exact ⟨id, changed, named.trans found, present, by rw [closed, same, status]⟩
    · rw [← same, mapContractStatus_final] at last
      exact absurd isOpen last
  constructor
  · exact step_counted step counted
  · intro id onChain saving
    rcases step_tasks step saving with old | learns
    · rcases agreed.readings id onChain old with ⟨record, stored, fresh⟩
      rcases step_record step counted stored with ⟨changed, present, closed | isOpen⟩
      · exact ⟨changed, present, fresh.imp_left closed.trans⟩
      · refine ⟨changed, present, Or.inr ?_⟩
        rcases fresh with same | late
        · exact same ▸ isOpen
        · exact late
    · cases learns with
      | nothing uninformed => cases uninformed
      | stored reading stored => exact step_record step counted stored
  · cases step with
    | @savedBuild k read tx running unsent =>
        by_cases same : read.status = .pendingChain
        · apply kept <;> simp only [savedBuild, if_pos same]
        · intro last
          simp only [savedBuild, if_neg same] at last
          cases last <;> contradiction
    | savedSubmit => rintro (last | last) <;> cases last
    | savedOther => rintro (last | last) <;> cases last
    | marked => rintro (last | last) <;> cases last
    | @savedStatus k id onChain running =>
        intro last
        have closed : onChain.status ≠ .open := mapContractStatus_final.mp last
        have named := inOrder _ running (id, onChain.status) rfl
        rw [if_neg closed] at named
        obtain ⟨record, stored, fresh⟩ :=
          agreed.readings id onChain (List.mem_of_getElem? running)
        exact ⟨id, record, named, stored, by rw [fresh.resolve_right closed]; rfl⟩
    | savedTxHash => exact kept (savedTxHash_status _ _ _) (savedTxHash_contractGiftId _ _ _)
    | _ => exact kept rfl rfl

end Agreement

section Runs

def written (entry : Entry Address) : Option GiftStatus := entry.outcome.toOption.join

/-- The status moves only by what is written, and that is in order. -/
abbrev WritesForward (p : Platform Address) (entry : Entry Address) : Prop :=
  ((machine p).next entry.before entry.call).gift.status =
    (written entry).getD entry.before.gift.status ∧
  ∀ status ∈ written entry, Forward entry.before.gift.status status

theorem step_writesForward (step : Step p w act ((machine p).next w act) wrote)
    (succeeded : (machine p).outcome w act = .ok wrote) (agreed : Agreed w)
    (inOrder : InOrder w act) : WritesForward p ((machine p).record w act) := by
  have told : written ((machine p).record w act) = wrote := by
    rw [written, Runs.Machine.record, succeeded]
    rfl
  constructor
  · rw [told]
    exact step_writes step
  · intro status member
    rw [told, Option.mem_def] at member
    have moved := step_forward step agreed inOrder
    rw [step_writes step, member] at moved
    exact moved

theorem failed_writesForward {refused : Refused}
    (failed : (machine p).outcome w act = .error refused) (same : (machine p).next w act = w) :
    WritesForward p ((machine p).record w act) := by
  have told : written ((machine p).record w act) = none := by
    rw [written, Runs.Machine.record, failed]
    rfl
  constructor
  · rw [told, Runs.Machine.record, same]
    rfl
  · intro status member
    rw [told] at member
    cases member

theorem next_agreed (w : World Address) (act : Act Address) (agreed : Agreed w)
    (inOrder : InOrder w act) :
    Agreed ((machine p).next w act) ∧ WritesForward p ((machine p).record w act) := by
  rcases next_cases (p := p) w act with ⟨wrote, succeeded, step⟩ | ⟨⟨refused, failed⟩, same⟩
  · exact ⟨step_agreed step agreed inOrder, step_writesForward step succeeded agreed inOrder⟩
  · exact ⟨same.symm ▸ agreed, failed_writesForward failed same⟩

/-- In every run of requests, sweeps and ledger steps for one draft whose saves are in order. -/
theorem status_never_backwards (p : Platform Address)
    (past : List (Action Address (Escrow.Call Address))) (now : Instant) (token : Text)
    (input : CreateGiftInput) (draft : GiftDocument)
    (drafted : createDraft p.rt now token input = .ok draft) (sequence : Nat)
    (acts : List (Act Address))
    (inOrder : ∀ entry ∈ (machine p).trace (World.freshly p past now draft sequence) acts,
      InOrder entry.before entry.call) :
    ∀ entry ∈ (machine p).trace (World.freshly p past now draft sequence) acts,
      WritesForward p entry := by
  have fresh : ¬draft.status.Final := by
    rcases createDraft_eq_ok drafted with ⟨_, _, _, _, rfl⟩
    exact (by decide : ¬GiftStatus.draft.Final)
  have start : Agreed (World.freshly p past now draft sequence) := by
    constructor
    · exact Escrow.run_counted p.escrow past
    · intro id onChain member
      cases member
    · intro last
      exact absurd last fresh
  exact (Runs.Machine.trace_invariant Agreed (WritesForward p) InOrder start next_agreed acts
    inOrder).2

def sampleRefund : List (Act Nat) :=
  sampleActive ++ [.tick ⟨3600001, by decide⟩, .markRefundPending,
    .chain (.invoke (Escrow.sampleEnv 3600) (.refund 1 1)), .reconcile, .readChain 2, .saveStatus 2]

theorem status_never_backwards_sample :
    ((machine samplePlatform).final sampleWorld sampleRefund).gift.status = .refunded ∧
    ∀ entry ∈ (machine samplePlatform).trace sampleWorld sampleRefund,
      WritesForward samplePlatform entry := by
  have drafted : createDraft sampleRuntime ⟨0, by decide⟩ [] (sampleInput "10") = .ok sampleDraft :=
    rfl
  constructor
  · decide +kernel
  · exact status_never_backwards samplePlatform samplePast _ [] _ sampleDraft drafted 0 sampleRefund
      (by decide +kernel)

def sampleSweep : List (Act Nat) :=
  sampleActive ++ [.tick ⟨3600001, by decide⟩, .markRefundPending, .reconcile, .readChain 2]

/-- One reconciliation reads the gift open, the receiver claims, and another one saves that. -/
def sampleStaleRead : List (Act Nat) :=
  sampleActive ++ [.reconcile, .readChain 2, .chain (.invoke (Escrow.sampleEnv 6) (.claim 1 2 none)),
    .reconcile, .readChain 3, .saveStatus 3]

/-- The last save takes a gift back from `refund_pending`, or from `claimed`, to `active`. -/
theorem saved_back_to_active :
    createDraft sampleRuntime ⟨0, by decide⟩ [] (sampleInput "10") = .ok sampleDraft ∧
    (let swept := (machine samplePlatform).record
       ((machine samplePlatform).final sampleWorld sampleSweep) (.saveStatus 2)
     swept.before.gift.status = .refundPending ∧ written swept = some .active ∧
     ¬WritesForward samplePlatform swept) ∧
    (let stale := (machine samplePlatform).record
       ((machine samplePlatform).final sampleWorld sampleStaleRead) (.saveStatus 2)
     stale.before.gift.status = .claimed ∧ written stale = some .active ∧
     ¬WritesForward samplePlatform stale) :=
  ⟨rfl, by decide +kernel, by decide +kernel⟩

end Runs

end Giffy.Backend
