import Giffy.Backend.Amounts
import Giffy.Backend.OnChain

/-! How many gifts one draft creates, and which of them its document points to. -/

namespace Giffy.Backend

open Chain

variable {Address : Type} [LinearOrder Address] {p : Platform Address} {w after : World Address}
  {act : Act Address} {wrote : Option GiftStatus}

section Tracking

def Task.sequence : Task Address → Option Nat
  | .simulating _ _ sequence _ => some sequence
  | .savingBuild _ sequence _ _ => some sequence
  | _ => none

def Task.read : Task Address → Option GiftDocument
  | .building read _ => some read
  | .simulating read _ _ _ => some read
  | .savingBuild read _ _ _ => some read
  | .sending read _ => some read
  | .polling read _ => some read
  | .savingSubmit read _ _ => some read
  | _ => none

def World.Holds (w : World Address) (n : Nat) : Prop :=
  (∃ tx ∈ w.txs, tx.sequence = n) ∨ ∃ task ∈ w.tasks, task.sequence = some n

/-- A transaction with this sequence number may still exist. -/
def World.Admits (w : World Address) (n : Nat) : Prop :=
  n ≤ w.sequence + 1 ∧ (w.creates ≠ [] → n ≤ w.sequence)

/-- What the sequence numbers leave possible: one create, and no document read with an id
that the stored one has lost. -/
structure Tracked (w : World Address) : Prop where
  admitted : ∀ n, w.Holds n → w.Admits n
  single : w.creates.length ≤ 1
  reads : ∀ task ∈ w.tasks, ∀ read, task.read = some read →
    ∀ text, read.contractGiftId = some text → w.gift.contractGiftId = some text

theorem Tracked.same_id (tracked : Tracked w) {left right : Nat} (first : left ∈ w.creates)
    (second : right ∈ w.creates) : left = right := by
  have single := tracked.single
  match created : w.creates, first, second with
  | [only], first, second =>
      rw [List.mem_singleton.mp first, List.mem_singleton.mp second]
  | _ :: _ :: _, _, _ =>
      rw [created] at single
      simp at single

theorem Tracked.start (tracked : Tracked w) {new : Task Address} (unfetched : new.sequence = none)
    (own : ∀ read, new.read = some read → read = w.gift) : Tracked (w.start new) where
  admitted n held := by
    apply tracked.admitted n
    rcases held with tx | ⟨task, member, fetched⟩
    · exact Or.inl tx
    · rcases mem_start member with old | same
      · exact Or.inr ⟨task, old, fetched⟩
      · rw [same, unfetched] at fetched
        cases fetched
  single := tracked.single
  reads task member read found text named := by
    rcases mem_start member with old | same
    · exact tracked.reads task old read found text named
    · rw [same] at found
      rw [own read found] at named
      exact named

theorem Tracked.put (tracked : Tracked w) {k : Nat} {new : Task Address}
    (admitted : ∀ n, new.sequence = some n → w.Admits n)
    (reads : ∀ read, new.read = some read → ∀ text, read.contractGiftId = some text →
      w.gift.contractGiftId = some text) : Tracked (w.put k new) where
  admitted n held := by
    rcases held with tx | ⟨task, member, fetched⟩
    · exact tracked.admitted n (Or.inl tx)
    · rcases mem_put member with old | same
      · exact tracked.admitted n (Or.inr ⟨task, old, fetched⟩)
      · exact admitted n (same ▸ fetched)
  single := tracked.single
  reads task member read found := by
    rcases mem_put member with old | same
    · exact tracked.reads task old read found
    · exact reads read (same ▸ found)

theorem Tracked.goOn (tracked : Tracked w) {k : Nat} {old new : Task Address}
    (running : w.tasks[k]? = some old) (admitted : ∀ n, new.sequence = some n → w.Admits n)
    (same : new.read = old.read) : Tracked (w.put k new) := by
  apply tracked.put admitted
  intro read found
  exact tracked.reads old (List.mem_of_getElem? running) read (same ▸ found)

theorem Tracked.done (tracked : Tracked w) (k : Nat) : Tracked (w.put k .done) := by
  apply tracked.put
  · intro n fetched
    cases fetched
  · intro read found
    cases found

theorem Tracked.regift (tracked : Tracked w) {gift : GiftDocument}
    (kept : ∀ text, w.gift.contractGiftId = some text → gift.contractGiftId = some text) :
    Tracked { w with gift := gift } where
  admitted := tracked.admitted
  single := tracked.single
  reads task member read found text named :=
    kept text (tracked.reads task member read found text named)

theorem Tracked.retx (tracked : Tracked w) {txs : List (CreateTx Address)} {sequence : Nat}
    (later : w.sequence ≤ sequence)
    (held : ∀ tx ∈ txs, w.Holds tx.sequence)
    (same : txs.filterMap CreateTx.created? = w.creates) :
    Tracked { w with txs := txs, sequence := sequence } := by
  have creates : { w with txs := txs, sequence := sequence }.creates = w.creates := same
  constructor
  · intro n holding
    have admitted : w.Admits n := by
      apply tracked.admitted n
      rcases holding with ⟨tx, member, numbered⟩ | task
      · exact numbered ▸ held tx member
      · exact Or.inr task
    constructor
    · exact le_trans admitted.1 (Nat.succ_le_succ later)
    · intro landed
      rw [creates] at landed
      exact le_trans (admitted.2 landed) later
  · rw [creates]
    exact tracked.single
  · exact tracked.reads

theorem held_of_sequences {txs : List (CreateTx Address)}
    (same : txs.map CreateTx.sequence = w.txs.map CreateTx.sequence) :
    ∀ tx ∈ txs, ∃ old ∈ w.txs, old.sequence = tx.sequence := by
  intro tx member
  apply List.mem_map.mp
  rw [← same]
  exact List.mem_map_of_mem member

theorem Tracked.signed (tracked : Tracked w) {tx : CreateTx Address}
    (unlanded : tx.created? = none) (held : w.Holds tx.sequence) :
    Tracked { w with txs := w.txs ++ [tx] } := by
  have kept : Tracked { w with txs := w.txs ++ [tx], sequence := w.sequence } := by
    apply tracked.retx (le_refl _)
    · intro other member
      rcases List.mem_append.mp member with old | new
      · exact Or.inl ⟨other, old, rfl⟩
      · rw [List.mem_singleton.mp new]
        exact held
    · simp [World.creates, unlanded]
  exact kept

theorem Tracked.handed (tracked : Tracked w) (t : Nat) (gone : Bool) :
    Tracked { w with txs := if gone then w.txs.modify t CreateTx.handedOver else w.txs } := by
  have kept : Tracked { w with
      txs := if gone then w.txs.modify t CreateTx.handedOver else w.txs
      sequence := w.sequence } := by
    apply tracked.retx (le_refl _)
    · intro tx member
      exact Or.inl (held_of_sequences (map_handed handedOver_sequence w.txs t gone) tx member)
    · exact Updates.filterMap_congr_map (map_handed handedOver_created w.txs t gone)
  exact kept

/-- Only a transaction next in sequence lands, so nothing had landed before it. -/
theorem Tracked.nothing_landed (tracked : Tracked w) {t : Nat} {tx : CreateTx Address}
    (placed : w.txs[t]? = some tx) (due : w.Due tx) : w.creates = [] := by
  by_contra landed
  have held : w.Holds tx.sequence := Or.inl ⟨tx, List.mem_of_getElem? placed, rfl⟩
  have below := (tracked.admitted tx.sequence held).2 landed
  have next := due.2.1
  omega

theorem Tracked.settle (tracked : Tracked w) {t : Nat} {tx : CreateTx Address}
    (escrow : Escrow.State Address) (returned : Option Nat) (placed : w.txs[t]? = some tx)
    (due : w.Due tx) :
    Tracked { w with
      escrow := escrow
      sequence := w.sequence + 1
      txs := w.txs.set t { tx with fate := fateOf returned } } := by
  have created : (w.txs.set t { tx with fate := fateOf returned }).filterMap CreateTx.created? =
      returned.toList := by
    rw [Updates.filterMap_set_first placed (tracked.nothing_landed placed due), fateOf_created]
  have sequences : ∀ later ∈ w.txs.set t { tx with fate := fateOf returned },
      ∃ old ∈ w.txs, old.sequence = later.sequence :=
    held_of_sequences (Updates.map_set_same placed rfl)
  constructor
  · intro n holding
    have held : w.Holds n := by
      rcases holding with ⟨later, member, numbered⟩ | task
      · rcases sequences later member with ⟨old, inside, same⟩
        exact Or.inl ⟨old, inside, same.trans numbered⟩
      · exact Or.inr task
    have below := (tracked.admitted n held).1
    exact ⟨Nat.le_succ_of_le below, fun _ => below⟩
  · rw [World.creates, created]
    cases returned <;> simp
  · exact tracked.reads

theorem Tracked.saved_id (tracked : Tracked w) {k t id : Nat} {read : GiftDocument}
    (running : w.tasks[k]? = some (.savingSubmit read t id)) :
    savedPath read.contractGiftId w.gift.contractGiftId (Decimal.ofNat id) =
      some (Decimal.ofNat id) := by
  unfold savedPath
  split
  next unmodified =>
    exact tracked.reads _ (List.mem_of_getElem? running) read rfl _ unmodified
  next => rfl

theorem step_keeps_id (step : Step p w act after wrote) (anchored : Anchored w)
    (tracked : Tracked w) {text : Text} (named : w.gift.contractGiftId = some text) :
    after.gift.contractGiftId = some text := by
  cases step with
  | savedBuild => exact (savedBuild_contractGiftId _ _).trans named
  | @savedSubmit k t id token txHash read running =>
      rcases anchored.pointed text named with ⟨other, created, rfl⟩
      have landed := anchored.submitted read t id (List.mem_of_getElem? running)
      rw [tracked.same_id created landed]
      exact tracked.saved_id running
  | savedOther running => exact absurd (List.mem_of_getElem? running) anchored.no_other
  | savedTxHash => exact (savedTxHash_contractGiftId _ _ _).trans named
  | _ => exact named

/-- A build fetches the account only while none of the draft's transactions has landed. -/
theorem step_tracked (step : Step p w act after wrote) (anchored : Anchored w)
    (tracked : Tracked w) (first : ∀ k, act = .fetchAccount k → w.creates = []) :
    Tracked after := by
  have kept : ∀ text, w.gift.contractGiftId = some text → after.gift.contractGiftId = some text :=
    fun text named => step_keeps_id step anchored tracked named
  cases step with
  | ticked => exact ⟨tracked.admitted, tracked.single, tracked.reads⟩
  | built =>
      apply tracked.start rfl
      intro read found
      cases found
      rfl
  | @fetched k read invocation maxTime running =>
      refine tracked.goOn running ?_ rfl
      intro n fetched
      cases fetched
      exact ⟨le_refl _, fun landed => absurd (first k rfl) landed⟩
  | @simulated k env read invocation sequence maxTime args running =>
      refine tracked.goOn running ?_ rfl
      intro n fetched
      cases fetched
      exact tracked.admitted _ (Or.inr ⟨_, List.mem_of_getElem? running, rfl⟩)
  | @savedBuild k read tx running unsent =>
      have unlanded : tx.created? = none := by rw [CreateTx.created?, unsent]
      have held : w.Holds tx.sequence := Or.inr ⟨_, List.mem_of_getElem? running, rfl⟩
      exact ((tracked.signed unlanded held).done k).regift kept
  | submitted =>
      apply tracked.start rfl
      intro read found
      cases found
      rfl
  | submittedOther => exact tracked.start rfl (by simp [Task.read])
  | @sent k t answer reaches read next running goesOn =>
      have handed := tracked.handed t (handsOver answer reaches)
      rcases goesOn with rfl | rfl
      · exact handed.goOn running (by simp [Task.sequence]) rfl
      · exact handed.done k
  | unseen => exact tracked
  | seen running => exact tracked.goOn running (by simp [Task.sequence]) rfl
  | savedSubmit => exact (tracked.done _).regift kept
  | answered => exact tracked.put (by simp [Task.sequence]) (by simp [Task.read])
  | savedOther => exact (tracked.done _).regift kept
  | ended => exact tracked.done _
  | marked => exact tracked.regift kept
  | unmarked => exact tracked
  | reconciling => exact tracked.start rfl (by simp [Task.read])
  | readChain => exact tracked.put (by simp [Task.sequence]) (by simp [Task.read])
  | savedStatus => exact (tracked.done _).regift kept
  | savedTxHash => exact tracked.regift kept
  | settled placed due => exact tracked.settle _ _ placed due
  | rejected placed due => exact tracked.settle w.escrow none placed due
  | bumped =>
      exact tracked.retx (Nat.le_succ _) (fun tx member => Or.inl ⟨tx, member, rfl⟩) rfl
  | chained => exact ⟨tracked.admitted, tracked.single, tracked.reads⟩

end Tracking

section Following

def Follows (w : World Address) (id : Nat) : Task Address → Prop
  | .polling _ t => w.landed t = some id
  | .savingSubmit _ _ saved => saved = id
  | _ => False

/-- Every gift created is the document's, or a submit request is about to make it so. -/
def World.Followed (w : World Address) : Prop :=
  ∀ id ∈ w.creates, w.gift.contractGiftId = some (Decimal.ofNat id) ∨
    ∃ task ∈ w.tasks, Follows w id task

theorem Follows.later {id : Nat} {task : Task Address} (follows : Follows w id task)
    (later : ∀ t, w.landed t = some id → after.landed t = some id) : Follows after id task := by
  cases task with
  | polling read t => exact later t follows
  | savingSubmit => exact follows
  | _ => exact follows.elim

theorem World.Followed.start (followed : w.Followed) (new : Task Address) :
    (w.start new).Followed := by
  intro id created
  rcases followed id created with named | ⟨task, member, follows⟩
  · exact Or.inl named
  · exact Or.inr ⟨task, List.mem_append_left _ member, follows⟩

theorem World.Followed.put (followed : w.Followed) {k : Nat} {old new : Task Address}
    (running : w.tasks[k]? = some old) (follows : ∀ id, Follows w id old → Follows w id new) :
    (w.put k new).Followed := by
  intro id created
  rcases followed id created with named | ⟨task, member, following⟩
  · exact Or.inl named
  · apply Or.inr
    rcases Updates.mem_set_or member with replaced | kept
    · cases replaced.symm.trans running
      exact ⟨new, Updates.mem_set_self running, follows id following⟩
    · exact ⟨task, kept, following⟩

theorem World.Followed.regift (followed : w.Followed) {gift : GiftDocument}
    (same : gift.contractGiftId = w.gift.contractGiftId) : { w with gift := gift }.Followed := by
  intro id created
  rcases followed id created with named | task
  · exact Or.inl (same.trans named)
  · exact Or.inr task

theorem World.Followed.retx (followed : w.Followed) {txs : List (CreateTx Address)}
    {sequence : Nat}
    (same : ∀ t, { w with txs := txs, sequence := sequence }.landed t = w.landed t) :
    { w with txs := txs, sequence := sequence }.Followed := by
  intro id created
  rcases mem_creates.mp created with ⟨t, landed⟩
  rcases followed id (mem_creates.mpr ⟨t, same t ▸ landed⟩) with named | ⟨task, member, follows⟩
  · exact Or.inl named
  · exact Or.inr ⟨task, member, follows.later fun t landed => (same t).trans landed⟩

theorem World.Followed.signed (followed : w.Followed) {tx : CreateTx Address}
    (unlanded : tx.created? = none) : { w with txs := w.txs ++ [tx] }.Followed := by
  have kept : { w with txs := w.txs ++ [tx], sequence := w.sequence }.Followed :=
    followed.retx (landed_append unlanded)
  exact kept

theorem World.Followed.handed (followed : w.Followed) (t : Nat) (gone : Bool) :
    { w with txs := if gone then w.txs.modify t CreateTx.handedOver else w.txs }.Followed := by
  have kept : { w with
      txs := if gone then w.txs.modify t CreateTx.handedOver else w.txs
      sequence := w.sequence }.Followed :=
    followed.retx (landed_handed t gone)
  exact kept

abbrev Submitted (status : GiftStatus) : Prop := status ≠ .draft ∧ status ≠ .pendingChain

/-- A build whose save writes the status: one that has not read it so. -/
def Task.marksPending : Task Address → Bool
  | .savingBuild read _ _ _ => read.status ≠ .pendingChain
  | _ => false

def Task.polls (t : Nat) : Task Address → Bool
  | .polling _ polled => polled = t
  | _ => false

/-- A build fetches the account while nothing has landed, and writes its status over no later
one; only what a build returned is submitted; a create lands while a submit request polls for it,
and the last request that follows it is not given up. -/
def Undisturbed (p : Platform Address) (w : World Address) : Act Address → Prop
  | .fetchAccount _ => w.creates = []
  | .saveBuild k => ∀ task ∈ w.tasks[k]?, task.marksPending = true → ¬Submitted w.gift.status
  | .submitOther => False
  | .settle t env => ∀ tx ∈ w.txs[t]?, w.Due tx →
      (Escrow.exec p.escrow w.escrow (.invoke env tx.args.call)).isOk = true →
        ∃ task ∈ w.tasks, task.polls t = true
  | .drop k => ∀ id ∈ w.creates, w.gift.contractGiftId = some (Decimal.ofNat id) ∨
      ∃ task ∈ w.tasks.eraseIdx k, Follows w id task
  | _ => True

instance (w : World Address) (id : Nat) : DecidablePred (Follows w id)
  | .polling _ t => inferInstanceAs (Decidable (w.landed t = some id))
  | .savingSubmit _ _ saved => inferInstanceAs (Decidable (saved = id))
  | .building .. | .simulating .. | .savingBuild .. | .sending .. | .sendingOther _
  | .savingOther .. | .readingChain _ | .savingStatus .. | .done => isFalse not_false

instance (p : Platform Address) (w : World Address) : DecidablePred (Undisturbed p w)
  | .fetchAccount _ => inferInstanceAs (Decidable (w.creates = []))
  | .saveBuild k => inferInstanceAs (Decidable (∀ task ∈ w.tasks[k]?, _ → _))
  | .submitOther => isFalse not_false
  | .settle t _ => inferInstanceAs (Decidable (∀ tx ∈ w.txs[t]?, _ → _ → _))
  | .drop _ => inferInstanceAs (Decidable (∀ id ∈ w.creates, _))
  | .tick _ | .build | .simulate .. | .submit _ | .send .. | .poll _ | .answerOther ..
  | .saveSubmit .. | .markRefundPending | .reconcile | .readChain _ | .saveStatus _
  | .saveTxHash .. | .bump | .chain _ => isTrue trivial

theorem Tracked.settle_followed (tracked : Tracked w) {t : Nat} {tx : CreateTx Address}
    (escrow : Escrow.State Address) {returned : Option Nat} (placed : w.txs[t]? = some tx)
    (due : w.Due tx) (polled : returned ≠ none → ∃ task ∈ w.tasks, task.polls t = true) :
    { w with
      escrow := escrow
      sequence := w.sequence + 1
      txs := w.txs.set t { tx with fate := fateOf returned } }.Followed := by
  intro id created
  rcases mem_creates.mp created with ⟨j, landed⟩
  have outcome := (landed_set { tx with fate := fateOf returned } placed j).symm.trans landed
  split at outcome
  next same =>
    subst same
    rw [fateOf_created] at outcome
    rcases polled (by simp [outcome]) with ⟨task, member, polling⟩
    cases task with
    | polling read polled =>
        cases of_decide_eq_true polling
        exact Or.inr ⟨_, member, landed⟩
    | _ => cases polling
  next =>
    have before := mem_creates.mpr ⟨j, outcome⟩
    rw [tracked.nothing_landed placed due] at before
    cases before

theorem World.Followed.drop {k : Nat} (spared : Undisturbed p w (.drop k)) :
    (w.put k .done).Followed := by
  intro id created
  rcases spared id created with named | ⟨task, member, follows⟩
  · exact Or.inl named
  · rcases List.mem_eraseIdx_iff_getElem?.mp member with ⟨j, other, running⟩
    have kept : (w.tasks.set k .done)[j]? = some task := by
      rw [List.getElem?_set_ne (Ne.symm other), running]
    exact Or.inr ⟨task, List.mem_of_getElem? kept, follows⟩

theorem step_followed (step : Step p w act after wrote) (anchored : Anchored w)
    (tracked : Tracked w) (followed : w.Followed) (undisturbed : Undisturbed p w act) :
    after.Followed := by
  cases step with
  | ticked => exact followed
  | built => exact followed.start _
  | fetched running => exact followed.put running (fun _ => False.elim)
  | simulated running => exact followed.put running (fun _ => False.elim)
  | @savedBuild k read tx running unsent =>
      have unlanded : tx.created? = none := by rw [CreateTx.created?, unsent]
      have ended : World.Followed (World.put { w with txs := w.txs ++ [tx] } k .done) :=
        (followed.signed unlanded).put running (fun _ => False.elim)
      exact ended.regift (savedBuild_contractGiftId _ _)
  | submitted => exact followed.start _
  | submittedOther => exact undisturbed.elim
  | sent running => exact (followed.handed _ _).put running (fun _ => False.elim)
  | unseen => exact followed
  | @seen k t id read running landed =>
      apply followed.put running
      intro other follows
      exact Option.some.inj (landed.symm.trans follows)
  | @savedSubmit k t id token txHash read running =>
      intro other created
      have landed := anchored.submitted read t id (List.mem_of_getElem? running)
      rw [tracked.same_id created landed]
      exact Or.inl (tracked.saved_id running)
  | answered running => exact followed.put running (fun _ => False.elim)
  | savedOther running => exact absurd (List.mem_of_getElem? running) anchored.no_other
  | @ended act k task running unseen unsaved =>
      rcases unseen with rfl | unseen
      · exact World.Followed.drop (p := p) undisturbed
      rcases unsaved with rfl | unsaved
      · exact World.Followed.drop (p := p) undisturbed
      apply followed.put running
      intro id follows
      cases task with
      | polling read t =>
          rw [Follows, unseen read t rfl] at follows
          cases follows
      | savingSubmit read t id => exact absurd rfl (unsaved read t id)
      | _ => exact follows.elim
  | marked => exact followed.regift rfl
  | unmarked => exact followed
  | reconciling => exact followed.start _
  | readChain running => exact followed.put running (fun _ => False.elim)
  | savedStatus running => exact (followed.put running (fun _ => False.elim)).regift rfl
  | savedTxHash => exact followed.regift (savedTxHash_contractGiftId _ _ _)
  | settled placed due accepted =>
      exact tracked.settle_followed _ placed due
        (fun _ => undisturbed _ placed due (by rw [accepted]; rfl))
  | rejected placed due =>
      exact tracked.settle_followed w.escrow placed due (fun none => absurd rfl none)
  | bumped => exact followed.retx (fun _ => rfl)
  | chained => exact followed

theorem step_submitted (step : Step p w act after wrote) (undisturbed : Undisturbed p w act)
    (submitted : Submitted w.gift.status) : Submitted after.gift.status := by
  cases step with
  | @savedBuild k read tx running unsent =>
      by_cases same : read.status = .pendingChain
      · simp only [savedBuild, if_pos same]
        exact submitted
      · exact absurd submitted (undisturbed _ running (decide_eq_true same))
  | savedSubmit => exact ⟨nofun, nofun⟩
  | savedOther => exact ⟨nofun, nofun⟩
  | marked => exact ⟨nofun, nofun⟩
  | @savedStatus k id onChain running =>
      simp only [savedStatus]
      cases onChain.status <;> exact ⟨nofun, nofun⟩
  | savedTxHash =>
      rw [savedTxHash_status]
      exact submitted
  | _ => exact submitted

end Following

section Runs

/-- The draft has one gift on the chain at most, and the document points to it as soon as the
submit request that follows it is through. -/
structure World.OneGift (w : World Address) : Prop where
  single : w.creates.length ≤ 1
  followed : w.Followed
  stored : ∀ id ∈ w.creates, ∃ record, w.escrow.gifts.get id = some record
  pointed : ∀ text, w.gift.contractGiftId = some text → ∃ id ∈ w.creates, text = Decimal.ofNat id

def KeepsGift (p : Platform Address) (entry : Entry Address) : Prop :=
  let after := (machine p).next entry.before entry.call
  (∀ text, entry.before.gift.contractGiftId = some text →
    after.gift.contractGiftId = some text) ∧
  (Submitted entry.before.gift.status → Submitted after.gift.status)

def World.freshly (p : Platform Address) (past : List (Action Address (Escrow.Call Address)))
    (now : Instant) (draft : GiftDocument) (sequence : Nat) : World Address :=
  World.drafted now draft ((Escrow.machine p.escrow).final Escrow.State.empty past) sequence

structure Kept (w : World Address) : Prop where
  anchored : Anchored w
  tracked : Tracked w
  followed : w.Followed

theorem step_kept (step : Step p w act after wrote) (kept : Kept w)
    (undisturbed : Undisturbed p w act) : Kept after where
  anchored := by
    apply step_anchored step kept.anchored
    rintro rfl
    exact undisturbed
  tracked := by
    apply step_tracked step kept.anchored kept.tracked
    rintro k rfl
    exact undisturbed
  followed := step_followed step kept.anchored kept.tracked kept.followed undisturbed

theorem next_kept (w : World Address) (act : Act Address) (kept : Kept w)
    (undisturbed : Undisturbed p w act) :
    Kept ((machine p).next w act) ∧ KeepsGift p ((machine p).record w act) := by
  rcases next_cases (p := p) w act with ⟨wrote, _, step⟩ | ⟨_, same⟩
  · constructor
    · exact step_kept step kept undisturbed
    · exact ⟨fun text => step_keeps_id step kept.anchored kept.tracked,
        step_submitted step undisturbed⟩
  · rw [KeepsGift, Runs.Machine.record, same]
    exact ⟨kept, fun _ => id, id⟩

theorem drafted_kept {now : Instant} {draft : GiftDocument} {escrow : Escrow.State Address}
    (sequence : Nat) (counted : Escrow.Counted escrow) (unnamed : draft.contractGiftId = none) :
    Kept (World.drafted now draft escrow sequence) where
  anchored := drafted_anchored sequence counted unnamed
  tracked := by
    constructor
    · rintro n (⟨tx, member, _⟩ | ⟨task, member, _⟩) <;> cases member
    · exact Nat.zero_le 1
    · intro task member
      cases member
  followed id created := by cases created

/-- In every run of build and submit requests for one draft whose steps are undisturbed. -/
theorem one_gift_per_draft (p : Platform Address)
    (past : List (Action Address (Escrow.Call Address))) (now : Instant) (token : Text)
    (input : CreateGiftInput) (draft : GiftDocument)
    (drafted : createDraft p.rt now token input = .ok draft) (sequence : Nat)
    (acts : List (Act Address))
    (undisturbed : ∀ entry ∈ (machine p).trace (World.freshly p past now draft sequence) acts,
      Undisturbed p entry.before entry.call) :
    ((machine p).final (World.freshly p past now draft sequence) acts).OneGift ∧
      ∀ entry ∈ (machine p).trace (World.freshly p past now draft sequence) acts,
        KeepsGift p entry := by
  have unnamed : draft.contractGiftId = none := by
    rcases createDraft_eq_ok drafted with ⟨_, _, _, _, rfl⟩
    rfl
  have start : Kept (World.freshly p past now draft sequence) :=
    drafted_kept sequence (Escrow.run_counted p.escrow past) unnamed
  obtain ⟨kept, entries⟩ := Runs.Machine.trace_invariant Kept (KeepsGift p) (Undisturbed p) start
    next_kept acts undisturbed
  exact ⟨⟨kept.tracked.single, kept.followed, kept.anchored.stored, kept.anchored.pointed⟩, entries⟩

def samplePlatform : Platform Nat where
  sdk := sampleSdk
  rt := sampleRuntime
  escrow := Escrow.sampleDeployment
  address key :=
    if key = sampleSender then some 1
    else if key = sampleReceiver then some 2
    else if key = xlmTokenContract then some 9
    else none
  hash sequence _ _ := Decimal.ofNat sequence

def sampleDraft : GiftDocument :=
  ⟨sampleSender, sampleReceiver, xlm, none, xlmTokenContract, "10".toList,
    "Happy birthday!".toList, .birthday, none, [], .draft, none, none, none, ⟨3600000, by decide⟩,
    false, none, [], toStoredCondition sampleRuntime .none⟩

def samplePast : List (Action Nat (Escrow.Call Nat)) := [.outside 9 1 500]

def sampleStart : Instant := ⟨0, by decide⟩

def sampleWorld : World Nat :=
  World.freshly samplePlatform samplePast sampleStart sampleDraft 0

def sampleHandOver (k t : Nat) : List (Act Nat) :=
  [.build, .fetchAccount k, .simulate k (Escrow.sampleEnv 0), .saveBuild k, .submit t,
    .send (k + 1) (some .pending) true]

def sampleActive : List (Act Nat) :=
  sampleHandOver 0 0 ++ [.settle 0 (Escrow.sampleEnv 5), .poll 1, .saveSubmit 1 []]

theorem one_gift_per_draft_sample :
    ((machine samplePlatform).final sampleWorld sampleActive).OneGift := by
  have drafted : createDraft sampleRuntime ⟨0, by decide⟩ [] (sampleInput "10") = .ok sampleDraft :=
    rfl
  exact (one_gift_per_draft samplePlatform samplePast _ [] _ sampleDraft drafted 0 _
    (by decide +kernel)).1

/-- The poll window closes, the transaction lands, and the sender retries. -/
def sampleTimeout : List (Act Nat) :=
  sampleHandOver 0 0 ++ [.tick ⟨31000, by decide⟩, .drop 1, .settle 0 (Escrow.sampleEnv 31)] ++
    sampleHandOver 2 1 ++ [.settle 1 (Escrow.sampleEnv 32), .poll 3, .saveSubmit 3 []]

/-- Both transactions have locked their funds, and the document points to the second. -/
theorem timed_out_create_orphaned :
    createDraft sampleRuntime ⟨0, by decide⟩ [] (sampleInput "10") = .ok sampleDraft ∧
    (let last := (machine samplePlatform).final sampleWorld sampleTimeout
     last.creates = [1, 2] ∧ last.gift.contractGiftId = some (Decimal.ofNat 2) ∧
     (last.escrow.gifts.get 1).map Escrow.GiftRecord.status = some .open ∧
     last.escrow.balances 9 0 = 20 ∧ (last.tasks.all fun task => task.uninformed) = true ∧
     ¬last.OneGift) := by
  have created : ((machine samplePlatform).final sampleWorld sampleTimeout).creates = [1, 2] := by
    decide +kernel
  refine ⟨rfl, created, by decide +kernel, by decide +kernel, by decide +kernel,
    by decide +kernel, ?_⟩
  intro one
  have single := one.single
  rw [created] at single
  exact absurd single (by decide)

end Runs

end Giffy.Backend
