import Giffy.Backend.LifecycleEffects
import Giffy.Foundation.Updates

/-! What the ids in a gift's document and in its requests refer to on the chain. -/

namespace Giffy.Backend

open Chain

variable {Address : Type} [LinearOrder Address] {p : Platform Address} {w after : World Address}
  {act : Act Address} {wrote : Option GiftStatus}

section Transactions

omit [LinearOrder Address] in
@[simp] theorem handedOver_sequence (tx : CreateTx Address) :
    tx.handedOver.sequence = tx.sequence := by
  unfold CreateTx.handedOver
  split <;> rfl

omit [LinearOrder Address] in
@[simp] theorem handedOver_created (tx : CreateTx Address) :
    tx.handedOver.created? = tx.created? := by
  unfold CreateTx.handedOver
  split
  next signed => simp [CreateTx.created?, signed]
  next => rfl

omit [LinearOrder Address] in
@[simp] theorem fateOf_created (tx : CreateTx Address) (returned : Option Nat) :
    CreateTx.created? { tx with fate := fateOf returned } = returned := by
  cases returned <;> rfl

theorem mem_put {k : Nat} {new task : Task Address} (member : task ∈ (w.put k new).tasks) :
    task ∈ w.tasks ∨ task = new := List.mem_or_eq_of_mem_set member

theorem mem_start {new task : Task Address} (member : task ∈ (w.start new).tasks) :
    task ∈ w.tasks ∨ task = new := by
  simpa [World.start] using member

theorem mem_creates {id : Nat} : id ∈ w.creates ↔ ∃ t, w.landed t = some id := by
  rw [World.creates, List.mem_filterMap]
  constructor
  · intro held
    rcases held with ⟨tx, member, created⟩
    rcases List.mem_iff_getElem?.mp member with ⟨t, placed⟩
    exact ⟨t, by rw [World.landed, placed, Option.bind_some, created]⟩
  · intro held
    rcases held with ⟨t, landed⟩
    rcases Option.bind_eq_some_iff.mp landed with ⟨tx, placed, created⟩
    exact ⟨tx, List.mem_of_getElem? placed, created⟩

theorem landed_eq (t : Nat) : w.landed t = ((w.txs.map CreateTx.created?)[t]?).join := by
  rw [World.landed, List.getElem?_map]
  cases w.txs[t]? <;> rfl

theorem landed_congr (same : after.txs.map CreateTx.created? = w.txs.map CreateTx.created?)
    (t : Nat) : after.landed t = w.landed t := by
  rw [landed_eq, landed_eq, same]

theorem landed_append {tx : CreateTx Address} (unlanded : tx.created? = none) (t : Nat) :
    { w with txs := w.txs ++ [tx] }.landed t = w.landed t := by
  simp only [World.landed, List.getElem?_append]
  split
  next => rfl
  next outside =>
    rw [List.getElem?_eq_none (not_lt.mp outside)]
    cases found : [tx][t - w.txs.length]? with
    | none => rfl
    | some other =>
        rw [List.mem_singleton.mp (List.mem_of_getElem? found)]
        exact unlanded

omit [LinearOrder Address] in
theorem map_handed {β : Type} {f : CreateTx Address → β} (same : ∀ tx, f tx.handedOver = f tx)
    (txs : List (CreateTx Address)) (t : Nat) (gone : Bool) :
    (if gone then txs.modify t CreateTx.handedOver else txs).map f = txs.map f := by
  split
  · exact Updates.map_modify_same same t
  · rfl

theorem landed_handed (t : Nat) (gone : Bool) (j : Nat) :
    { w with txs := if gone then w.txs.modify t CreateTx.handedOver else w.txs }.landed j =
      w.landed j :=
  landed_congr (map_handed handedOver_created w.txs t gone) j

theorem landed_set {t : Nat} {old : CreateTx Address} (new : CreateTx Address)
    (placed : w.txs[t]? = some old) (j : Nat) :
    { w with txs := w.txs.set t new }.landed j =
      if t = j then new.created? else w.landed j := by
  simp only [World.landed, List.getElem?_set]
  split
  next same =>
    have inside : t < w.txs.length := (List.getElem?_eq_some_iff.mp placed).1
    simp [inside]
  next => rfl

end Transactions

section Anchoring

theorem due_unlanded {t : Nat} {tx : CreateTx Address} (placed : w.txs[t]? = some tx)
    (due : w.Due tx) : w.landed t = none := by
  rw [World.landed, placed, Option.bind_some, CreateTx.created?, due.1]

theorem step_landed (step : Step p w act after wrote) {t id : Nat} (landed : w.landed t = some id) :
    after.landed t = some id := by
  have settled : ∀ {s : Nat} {tx : CreateTx Address} (new : CreateTx Address),
      w.txs[s]? = some tx → w.Due tx →
      { w with txs := w.txs.set s new }.landed t = some id := by
    intro s tx new placed due
    rw [landed_set new placed, if_neg]
    · exact landed
    · intro same
      rw [← same, due_unlanded placed due] at landed
      cases landed
  cases step with
  | savedBuild _ unsent =>
      rw [← landed]
      exact landed_append (by rw [CreateTx.created?, unsent]) t
  | sent => exact (landed_handed _ _ t).trans landed
  | settled placed due => exact settled _ placed due
  | rejected placed due => exact settled _ placed due
  | _ => exact landed

theorem step_lands (step : Step p w act after wrote) {t id : Nat}
    (landed : after.landed t = some id) :
    w.landed t = some id ∨ ∃ record, after.escrow.gifts.get id = some record := by
  cases step with
  | savedBuild _ unsent =>
      apply Or.inl
      rw [← landed]
      exact (landed_append (by rw [CreateTx.created?, unsent]) t).symm
  | sent => exact Or.inl ((landed_handed _ _ t).symm.trans landed)
  | settled placed due accepted =>
      have outcome := (landed_set _ placed t).symm.trans landed
      split at outcome
      next =>
        rw [fateOf_created] at outcome
        exact Or.inr (Escrow.step_created (Escrow.exec_step accepted) outcome)
      next => exact Or.inl outcome
  | rejected placed due =>
      have outcome := (landed_set _ placed t).symm.trans landed
      split at outcome
      next => cases outcome
      next => exact Or.inl outcome
  | _ => exact Or.inl landed

theorem step_escrow (step : Step p w act after wrote) :
    after.escrow = w.escrow ∨
      ∃ action, after.escrow = (Escrow.machine p.escrow).next w.escrow action := by
  cases step with
  | @settled t env tx escrow receipt placed due accepted =>
      have moved : (Escrow.machine p.escrow).next w.escrow (.invoke env tx.args.call) = escrow :=
        Runs.Machine.next_of_ok accepted
      exact Or.inr ⟨_, moved.symm⟩
  | chained => exact Or.inr ⟨_, rfl⟩
  | _ => exact Or.inl rfl

theorem step_record (step : Step p w act after wrote) (counted : Escrow.Counted w.escrow)
    {id : Nat} {record : Escrow.GiftRecord Address} (stored : w.escrow.gifts.get id = some record) :
    ∃ changed, after.escrow.gifts.get id = some changed ∧
      (changed.status = record.status ∨ record.status = .open) := by
  rcases step_escrow step with same | ⟨action, moved⟩
  · exact ⟨record, same.symm ▸ stored, Or.inl rfl⟩
  · rw [moved]
    exact Escrow.next_status counted action stored

def Task.uninformed : Task Address → Bool
  | .savingSubmit _ _ _ => false
  | .savingOther _ _ _ => false
  | .readingChain _ => false
  | .savingStatus _ _ => false
  | _ => true

inductive Learns (w : World Address) : Task Address → Prop
  | nothing {task : Task Address} (uninformed : task.uninformed = true) : Learns w task
  | created {read : GiftDocument} {t id : Nat} (landed : w.landed t = some id) :
      Learns w (.savingSubmit read t id)
  | told {read : GiftDocument} {contractGiftId txHash : Text}
      (sending : Task.sendingOther read ∈ w.tasks) :
      Learns w (.savingOther read contractGiftId txHash)
  | named {id : Nat} (named : bigInt w.gift.contractGiftId = .ok id) : Learns w (.readingChain id)
  | stored {id : Nat} {onChain : Escrow.GiftRecord Address}
      (reading : Task.readingChain id ∈ w.tasks) (stored : w.escrow.gifts.get id = some onChain) :
      Learns w (.savingStatus id onChain)

theorem Learns.start {new task : Task Address} (learns : Learns w new)
    (member : task ∈ (w.start new).tasks) : task ∈ w.tasks ∨ Learns w task := by
  rcases mem_start member with old | rfl
  · exact Or.inl old
  · exact Or.inr learns

theorem Learns.put {k : Nat} {new task : Task Address} (learns : Learns w new)
    (member : task ∈ (w.put k new).tasks) : task ∈ w.tasks ∨ Learns w task := by
  rcases mem_put member with old | rfl
  · exact Or.inl old
  · exact Or.inr learns

theorem step_tasks (step : Step p w act after wrote) {task : Task Address}
    (member : task ∈ after.tasks) : task ∈ w.tasks ∨ Learns w task := by
  have done : Learns w (.done : Task Address) := .nothing rfl
  cases step with
  | built => exact Learns.start (.nothing rfl) member
  | fetched => exact Learns.put (.nothing rfl) member
  | simulated => exact Learns.put (.nothing rfl) member
  | savedBuild => exact done.put member
  | submitted => exact Learns.start (.nothing rfl) member
  | submittedOther => exact Learns.start (.nothing rfl) member
  | sent running goesOn =>
      rcases goesOn with rfl | rfl
      · exact Learns.put (.nothing rfl) member
      · exact done.put member
  | seen running landed => exact Learns.put (.created landed) member
  | savedSubmit => exact done.put member
  | answered running => exact Learns.put (.told (List.mem_of_getElem? running)) member
  | savedOther => exact done.put member
  | ended => exact done.put member
  | reconciling named => exact Learns.start (.named named) member
  | readChain running stored =>
      exact Learns.put (.stored (List.mem_of_getElem? running) stored) member
  | savedStatus => exact done.put member
  | _ => exact Or.inl member

theorem step_named (step : Step p w act after wrote) {text : Text}
    (named : after.gift.contractGiftId = some text) : w.gift.contractGiftId = some text ∨
      (∃ read t id, Task.savingSubmit read t id ∈ w.tasks ∧ text = Decimal.ofNat id) ∨
      ∃ read txHash, Task.savingOther read text txHash ∈ w.tasks := by
  cases step with
  | savedBuild => exact Or.inl ((savedBuild_contractGiftId _ _).symm.trans named)
  | @savedSubmit k t id token txHash read running =>
      dsimp only [savedSubmit, savedPath] at named
      split at named
      next => exact Or.inl named
      next =>
        cases named
        exact Or.inr (Or.inl ⟨read, t, id, List.mem_of_getElem? running, rfl⟩)
  | @savedOther k token contractGiftId txHash read running =>
      dsimp only [savedSubmit, savedPath] at named
      split at named
      next => exact Or.inl named
      next =>
        cases named
        exact Or.inr (Or.inr ⟨read, txHash, List.mem_of_getElem? running⟩)
  | savedTxHash => exact Or.inl ((savedTxHash_contractGiftId _ _ _).symm.trans named)
  | _ => exact Or.inl named

structure Landed (w : World Address) : Prop where
  counted : Escrow.Counted w.escrow
  stored : ∀ id ∈ w.creates, ∃ record, w.escrow.gifts.get id = some record

theorem step_counted (step : Step p w act after wrote) (counted : Escrow.Counted w.escrow) :
    Escrow.Counted after.escrow := by
  rcases step_escrow step with same | ⟨action, moved⟩
  · exact same.symm ▸ counted
  · exact moved.symm ▸ Escrow.next_counted p.escrow counted action

theorem step_stored (step : Step p w act after wrote) (landed : Landed w) : Landed after where
  counted := step_counted step landed.counted
  stored id created := by
    rcases mem_creates.mp created with ⟨t, lands⟩
    rcases step_lands step lands with before | now
    · rcases landed.stored id (mem_creates.mpr ⟨t, before⟩) with ⟨record, stored⟩
      rcases step_record step landed.counted stored with ⟨changed, kept, _⟩
      exact ⟨changed, kept⟩
    · exact now

theorem step_creates_kept (step : Step p w act after wrote) {id : Nat} (created : id ∈ w.creates) :
    id ∈ after.creates := by
  rcases mem_creates.mp created with ⟨t, landed⟩
  exact mem_creates.mpr ⟨t, step_landed step landed⟩

def Task.other : Task Address → Bool
  | .sendingOther _ => true
  | .savingOther _ _ _ => true
  | _ => false

theorem step_own (step : Step p w act after wrote) (submitsOwn : act ≠ .submitOther)
    (own : ∀ task ∈ w.tasks, task.other = false) : ∀ task ∈ after.tasks, task.other = false := by
  have started : ∀ new : Task Address, new.other = false →
      ∀ task ∈ (w.start new).tasks, task.other = false := by
    intro new plain task member
    rcases mem_start member with old | rfl
    · exact own task old
    · exact plain
  have replaced : ∀ (k : Nat) (new : Task Address), new.other = false →
      ∀ task ∈ (w.put k new).tasks, task.other = false := by
    intro k new plain task member
    rcases mem_put member with old | rfl
    · exact own task old
    · exact plain
  cases step with
  | built => exact started _ rfl
  | fetched => exact replaced _ _ rfl
  | simulated => exact replaced _ _ rfl
  | savedBuild => exact replaced _ _ rfl
  | submitted => exact started _ rfl
  | submittedOther => exact absurd rfl submitsOwn
  | sent running goesOn =>
      rcases goesOn with rfl | rfl
      · exact replaced _ _ rfl
      · exact replaced _ _ rfl
  | seen => exact replaced _ _ rfl
  | savedSubmit => exact replaced _ _ rfl
  | answered running => cases own _ (List.mem_of_getElem? running)
  | savedOther => exact replaced _ _ rfl
  | ended => exact replaced _ _ rfl
  | reconciling => exact started _ rfl
  | readChain => exact replaced _ _ rfl
  | savedStatus => exact replaced _ _ rfl
  | _ => exact own

/-- Every id in the document or about to be saved is one this draft's transactions created. -/
structure Anchored (w : World Address) : Prop extends Landed w where
  own : ∀ task ∈ w.tasks, task.other = false
  submitted : ∀ read t id, Task.savingSubmit read t id ∈ w.tasks → id ∈ w.creates
  pointed : ∀ text, w.gift.contractGiftId = some text → ∃ id ∈ w.creates, text = Decimal.ofNat id

theorem Anchored.no_other (anchored : Anchored w) {read : GiftDocument} {text txHash : Text} :
    Task.savingOther read text txHash ∉ w.tasks := by
  intro member
  cases anchored.own _ member

theorem step_anchored (step : Step p w act after wrote) (anchored : Anchored w)
    (submitsOwn : act ≠ .submitOther) : Anchored after where
  toLanded := step_stored step anchored.toLanded
  own := step_own step submitsOwn anchored.own
  submitted read t id saving := by
    rcases step_tasks step saving with old | learns
    · exact step_creates_kept step (anchored.submitted read t id old)
    · cases learns with
      | nothing uninformed => cases uninformed
      | created landed => exact step_creates_kept step (mem_creates.mpr ⟨t, landed⟩)
  pointed text named := by
    rcases step_named step named with before | ⟨read, t, id, saving, rfl⟩ | ⟨read, txHash, saving⟩
    · rcases anchored.pointed text before with ⟨id, created, same⟩
      exact ⟨id, step_creates_kept step created, same⟩
    · exact ⟨id, step_creates_kept step (anchored.submitted read t id saving), rfl⟩
    · exact absurd saving anchored.no_other

theorem drafted_landed {now : Instant} {gift : GiftDocument} {escrow : Escrow.State Address}
    (sequence : Nat) (counted : Escrow.Counted escrow) :
    Landed (World.drafted now gift escrow sequence) where
  counted := counted
  stored id created := by cases created

theorem drafted_anchored {now : Instant} {gift : GiftDocument} {escrow : Escrow.State Address}
    (sequence : Nat) (counted : Escrow.Counted escrow) (unnamed : gift.contractGiftId = none) :
    Anchored (World.drafted now gift escrow sequence) where
  toLanded := drafted_landed sequence counted
  own task member := by cases member
  submitted read t id saving := by cases saving
  pointed text named := by
    rw [World.drafted, unnamed] at named
    cases named

end Anchoring

end Giffy.Backend
