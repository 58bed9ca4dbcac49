import Giffy.Backend.Conditions
import Giffy.Backend.Locked
import Giffy.Backend.Simulation
import Giffy.Escrow.Refunds

/-! What the sender's dashboard offers, and what comes of it. -/

namespace Giffy.Dashboard

open Backend Chain

section Rows

structure ContributionDTO where
  contributorPublicKey : Text
  amount : Text
  contributedAt : Instant

structure ConditionDTO where
  type : ConditionType
  question : Option Text
  steps : Option (List ConditionStep)
  stepsCompleted : Nat

structure GiftDTO where
  giftId : Text
  receiverPublicKey : Text
  assetCode : Text
  assetIssuer : Option Text
  amount : Text
  message : Text
  theme : GiftTheme
  status : GiftStatus
  contractGiftId : Option Text
  isGroupGift : Bool
  goalAmount : Option Text
  contributions : List ContributionDTO
  condition : ConditionDTO
  txHashCreate : Option Text
  txHashClaim : Option Text
  txHashRefund : Option Text
  expiresAt : Instant
  createdAt : Instant

/-- The sender's view of a document; times travel by `toISOString`. -/
def toGiftDTO (giftId : Text) (createdAt : Instant) (gift : GiftDocument) : GiftDTO :=
  ⟨giftId, gift.receiverPublicKey, gift.assetCode, gift.assetIssuer, gift.amount, gift.message,
    gift.theme, gift.status, gift.contractGiftId, gift.isGroupGift, gift.goalAmount,
    gift.contributions.map fun c => ⟨c.contributorPublicKey, c.amount, c.contributedAt⟩,
    ⟨gift.condition.type, gift.condition.question, gift.condition.steps,
      gift.condition.stepsCompleted⟩,
    gift.txHashCreate, gift.txHashClaim, gift.txHashRefund, gift.expiresAt, createdAt⟩

/-- Whether a row has its `Reclaim` button. -/
def reclaimable (now : Instant) (gift : GiftDTO) : Bool :=
  gift.status = .refundPending ||
    (gift.status = .active && gift.expiresAt.getTime ≤ now.getTime)

/-- Whether a row has its `Unlock next step` button. -/
def stepsRemaining (gift : GiftDTO) : Bool :=
  gift.condition.type = .stepGate &&
    gift.condition.stepsCompleted < (gift.condition.steps.map List.length).getD 0

end Rows

section Steps

variable {Address : Type} [LinearOrder Address] {p : Platform Address} {w after : World Address}
  {act : Act Address} {wrote : Option GiftStatus} {draft : GiftDocument}

structure Behind (w : World Address) : Prop where
  named : Submitted w.gift.status → ∃ text, w.gift.contractGiftId = some text
  unnamed : w.gift.contractGiftId = none → w.gift.condition.stepsCompleted = 0
  reading : ∀ id onChain, Task.savingStatus id onChain ∈ w.tasks →
    ∃ record, w.escrow.gifts.get id = some record ∧ onChain.stepsCompleted ≤ record.stepsCompleted
  cached : ∀ id record, bigInt w.gift.contractGiftId = .ok id →
    w.escrow.gifts.get id = some record →
    w.gift.condition.stepsCompleted ≤ record.stepsCompleted

theorem savedBuild_steps (read stored : GiftDocument) :
    (savedBuild read stored).condition = stored.condition := by
  unfold savedBuild
  split <;> rfl

theorem savedTxHash_steps (stored : GiftDocument) (leg : Leg) (txHash : Text) :
    (savedTxHash stored leg txHash).condition = stored.condition := by
  cases leg <;> rfl

theorem step_steps (step : Step p w act after wrote) :
    after.gift.condition.stepsCompleted = w.gift.condition.stepsCompleted ∨
      ∃ id onChain, Task.savingStatus id onChain ∈ w.tasks ∧
        after.gift.condition.stepsCompleted = onChain.stepsCompleted ∧ after.escrow = w.escrow := by
  cases step with
  | savedBuild => exact Or.inl (congrArg StoredCondition.stepsCompleted (savedBuild_steps _ _))
  | savedTxHash => exact Or.inl (congrArg StoredCondition.stepsCompleted (savedTxHash_steps _ _ _))
  | savedStatus running => exact Or.inr ⟨_, _, List.mem_of_getElem? running, rfl, rfl⟩
  | _ => exact Or.inl rfl

theorem step_submitted_named (step : Step p w act after wrote) (anchored : Anchored w)
    (current : Current w) (tracked : Tracked w)
    (kept : ∀ text, w.gift.contractGiftId = some text → after.gift.contractGiftId = some text)
    (named : Submitted w.gift.status → ∃ text, w.gift.contractGiftId = some text)
    (submitted : Submitted after.gift.status) :
    ∃ text, after.gift.contractGiftId = some text := by
  have still : Submitted w.gift.status → ∃ text, after.gift.contractGiftId = some text := by
    intro before
    rcases named before with ⟨text, held⟩
    exact ⟨text, kept text held⟩
  cases step with
  | @savedBuild k read tx running unsent =>
      apply still
      dsimp only at submitted
      unfold savedBuild at submitted
      split at submitted
      next => exact submitted
      next => exact absurd rfl submitted.2
  | savedSubmit running => exact ⟨_, tracked.saved_id running⟩
  | savedOther running => exact absurd (List.mem_of_getElem? running) anchored.no_other
  | marked active =>
      apply still
      rw [active]
      exact ⟨nofun, nofun⟩
  | @savedStatus k id onChain running =>
      rcases current.saving id onChain (List.mem_of_getElem? running) with ⟨read, _⟩
      rcases bigInt_named read with ⟨text, held⟩
      exact ⟨text, held⟩
  | savedTxHash =>
      rw [savedTxHash_status] at submitted
      exact still submitted
  | _ => exact still submitted

theorem step_reading_behind (step : Step p w act after wrote) (counted : Escrow.Counted w.escrow)
    (behind : Behind w) {id : Nat} {onChain : Escrow.GiftRecord Address}
    (member : Task.savingStatus id onChain ∈ after.tasks) :
    ∃ record, after.escrow.gifts.get id = some record ∧
      onChain.stepsCompleted ≤ record.stepsCompleted := by
  rcases step_tasks step member with old | learns
  · rcases behind.reading id onChain old with ⟨record, stored, below⟩
    rcases step_stored_grows step counted stored with ⟨changed, present, grows⟩
    exact ⟨changed, present, below.trans grows.steps⟩
  · cases learns with
    | nothing uninformed => cases uninformed
    | stored _ stored =>
        rcases step_stored_grows step counted stored with ⟨changed, present, grows⟩
        exact ⟨changed, present, grows.steps⟩

theorem step_cached_behind (step : Step p w act after wrote) (anchored : Anchored w)
    (current : Current w) (behind : Behind w)
    (kept : ∀ text, w.gift.contractGiftId = some text → after.gift.contractGiftId = some text)
    {id : Nat} {record : Escrow.GiftRecord Address}
    (named : bigInt after.gift.contractGiftId = .ok id)
    (stored : after.escrow.gifts.get id = some record) :
    after.gift.condition.stepsCompleted ≤ record.stepsCompleted := by
  have carry : ∀ old, w.escrow.gifts.get id = some old →
      old.stepsCompleted ≤ record.stepsCompleted := by
    intro old present
    rcases step_stored_grows step anchored.counted present with ⟨changed, moved, grows⟩
    cases moved.symm.trans stored
    exact grows.steps
  rcases step_steps step with same | ⟨read, onChain, member, written, _⟩
  · rw [same]
    cases held : w.gift.contractGiftId with
    | none =>
        rw [behind.unnamed held]
        exact Nat.zero_le _
    | some text =>
        have before : bigInt w.gift.contractGiftId = .ok id := by
          rw [held, ← kept text held]
          exact named
        rcases anchored.pointed text held with ⟨own, created, rfl⟩
        rcases anchored.stored own created with ⟨old, present⟩
        rw [held, bigInt_ofNat] at before
        cases before
        have own_id : bigInt w.gift.contractGiftId = .ok id := held.symm ▸ bigInt_ofNat id
        exact (behind.cached id old own_id present).trans (carry old present)
  · rw [written]
    have before := bigInt_kept kept (current.saving read onChain member).1
    cases before.symm.trans named
    rcases behind.reading _ onChain member with ⟨old, present, below⟩
    exact below.trans (carry old present)

theorem step_behind (step : Step p w act after wrote) (anchored : Anchored w) (current : Current w)
    (tracked : Tracked w) (behind : Behind w) : Behind after := by
  have kept : ∀ text, w.gift.contractGiftId = some text → after.gift.contractGiftId = some text :=
    fun text named => step_keeps_id step anchored tracked named
  constructor
  · exact step_submitted_named step anchored current tracked kept behind.named
  · intro unnamed
    have before : w.gift.contractGiftId = none := by
      by_contra named
      rcases Option.ne_none_iff_exists'.mp named with ⟨text, held⟩
      rw [kept text held] at unnamed
      cases unnamed
    rcases step_steps step with same | ⟨id, onChain, member, _⟩
    · exact same.trans (behind.unnamed before)
    · rcases bigInt_named (current.saving id onChain member).1 with ⟨text, held⟩
      rw [before] at held
      cases held
  · intro id onChain member
    exact step_reading_behind step anchored.counted behind member
  · intro id record named stored
    exact step_cached_behind step anchored current behind kept named stored

def Foreign (p : Platform Address) : Act Address → Prop
  | .settle _ env => env.authorized p.escrow.self = false
  | .chain action => NotSelfPaid Escrow.Call.payer p.escrow.self action
  | _ => True

instance (p : Platform Address) : DecidablePred (Foreign p)
  | .settle _ env => inferInstanceAs (Decidable (env.authorized p.escrow.self = false))
  | .chain action => inferInstanceAs (Decidable (NotSelfPaid Escrow.Call.payer p.escrow.self action))
  | .tick _ | .build | .fetchAccount _ | .simulate .. | .saveBuild _ | .submit _ | .submitOther
  | .send .. | .poll _ | .answerOther .. | .saveSubmit .. | .drop _ | .markRefundPending
  | .reconcile | .readChain _ | .saveStatus _ | .saveTxHash .. | .bump => isTrue trivial

theorem step_sound (step : Step p w act after wrote) (sound : Escrow.Sound p.escrow w.escrow)
    (foreign : Foreign p act) : Escrow.Sound p.escrow after.escrow := by
  cases step with
  | @settled t env tx escrow receipt placed due accepted =>
      have apart : NotSelfPaid Escrow.Call.payer p.escrow.self (.invoke env tx.args.call) :=
        fun _ => foreign
      exact Escrow.step_sound sound apart (Escrow.exec_step accepted)
  | chained => exact Escrow.next_sound p.escrow w.escrow _ sound foreign
  | _ => exact sound

structure Sure (p : Platform Address) (draft : GiftDocument) (w : World Address) : Prop where
  faithful : Faithful p draft w
  priced : Priced p draft w
  current : Current w
  behind : Behind w
  sound : Escrow.Sound p.escrow w.escrow

/-- A build fetches the account before any of the draft's transactions has landed, only what a
build returned is submitted, and the contract signs nothing. -/
abbrev Ordinary (p : Platform Address) (w : World Address) (act : Act Address) : Prop :=
  Regular w act ∧ Foreign p act

theorem exec_sure (ran : exec p w act = .ok (after, wrote)) (sure : Sure p draft w)
    (ordinary : Ordinary p w act) : Sure p draft after where
  faithful := exec_faithful ran sure.faithful
  priced := exec_priced ran sure.priced ordinary.1
  current := step_current (exec_step ran) sure.current fun _ named =>
    step_keeps_id (exec_step ran) sure.priced.anchored sure.priced.tracked named
  behind := step_behind (exec_step ran) sure.priced.anchored sure.current sure.priced.tracked
    sure.behind
  sound := step_sound (exec_step ran) sure.sound ordinary.2

structure Onward (w after : World Address) : Prop where
  named : ∀ text, w.gift.contractGiftId = some text → after.gift.contractGiftId = some text
  grows : ∀ id record, w.escrow.gifts.get id = some record →
    ∃ changed, after.escrow.gifts.get id = some changed ∧ Grows record changed

theorem Onward.refl (w : World Address) : Onward w w where
  named _ held := held
  grows _ record stored := ⟨record, stored, .refl record⟩

theorem Onward.trans {middle : World Address} (first : Onward w middle)
    (second : Onward middle after) : Onward w after where
  named text held := second.named text (first.named text held)
  grows id record stored := by
    rcases first.grows id record stored with ⟨changed, moved, early⟩
    rcases second.grows id changed moved with ⟨last, found, late⟩
    exact ⟨last, found, early.trans late⟩

theorem exec_onward (ran : exec p w act = .ok (after, wrote)) (sure : Sure p draft w) :
    Onward w after where
  named _ held := step_keeps_id (exec_step ran) sure.priced.anchored sure.priced.tracked held
  grows _ _ stored := step_stored_grows (exec_step ran) sure.faithful.counted stored

end Steps

section Runs

variable {Address : Type} [LinearOrder Address] {p : Platform Address} {draft : GiftDocument}
  {past : List (Action Address (Escrow.Call Address))} {now : Instant} {sequence : Nat}

theorem freshly_current (unsent : draft.status = .draft) :
    Current (World.freshly p past now draft sequence) where
  counted := Escrow.run_counted p.escrow past
  reading id member := by cases member
  saving id onChain member := by cases member
  closed status _ shown := by
    have same : draft.status = mapContractStatus status := shown
    rw [unsent] at same
    cases status <;> cases same
  pending shown := by
    have same : draft.status = .refundPending := shown
    rw [unsent] at same
    cases same

theorem freshly_behind (unsent : draft.status = .draft) (unnamed : draft.contractGiftId = none)
    (unopened : draft.condition.stepsCompleted = 0) :
    Behind (World.freshly p past now draft sequence) where
  named submitted := absurd unsent submitted.1
  unnamed _ := unopened
  reading id onChain member := by cases member
  cached id record named := by
    have none_read : bigInt draft.contractGiftId = .ok id := named
    rw [unnamed] at none_read
    cases none_read

theorem freshly_sure {token : Text} {input : CreateGiftInput}
    (drafted : createDraft p.rt now token input = .ok draft)
    (apart : ∀ action ∈ past, NotSelfPaid Escrow.Call.payer p.escrow.self action) :
    Sure p draft (World.freshly p past now draft sequence) := by
  have fresh : draft.status = .draft ∧ draft.contractGiftId = none ∧
      draft.condition.stepsCompleted = 0 := by
    rcases createDraft_eq_ok drafted with ⟨_, _, _, _, rfl⟩
    refine ⟨rfl, rfl, ?_⟩
    cases input.condition <;> rfl
  exact ⟨freshly_faithful, freshly_priced fresh.2.1, freshly_current fresh.1,
    freshly_behind fresh.1 fresh.2.1 fresh.2.2, Escrow.run_sound p.escrow past apart⟩

theorem run_sure {w : World Address} (sure : Sure p draft w) (acts : List (Act Address))
    (ordinary : ∀ entry ∈ (machine p).trace w acts, Ordinary p entry.before entry.call) :
    Sure p draft ((machine p).final w acts) ∧ Onward w ((machine p).final w acts) := by
  apply Runs.Machine.state_invariant (m := machine p) (fun after => Sure p draft after ∧
    Onward w after) (Ordinary p) _ _ acts ordinary
  · exact ⟨sure, .refl w⟩
  · intro before act holds plain
    unfold Runs.Machine.next
    split
    next ran => exact ⟨exec_sure ran holds.1 plain, holds.2.trans (exec_onward ran holds.1)⟩
    next => exact holds

end Runs

section Buttons

variable {Address : Type} [LinearOrder Address] {p : Platform Address} {draft : GiftDocument}
  {w : World Address} {id : Nat} {record : Escrow.GiftRecord Address}

def reclaim (p : Platform Address) (w : World Address) : Except Failure Invocation :=
  buildRefundTransaction w.gift p.sdk w.now w.gift.senderPublicKey

def unlockNext (p : Platform Address) (w : World Address) : Except Failure Invocation :=
  buildUnlockStepTransaction p.sdk (some w.gift) w.gift.senderPublicKey

structure Stands (p : Platform Address) (draft : GiftDocument) (w : World Address) (id : Nat)
    (record : Escrow.GiftRecord Address) : Prop where
  created : id ∈ w.creates
  named : w.gift.contractGiftId = some (Decimal.ofNat id)
  stored : w.escrow.gifts.get id = some record
  lock : asked p draft = some (recordLock record)

theorem Sure.stands (sure : Sure p draft w) {text : Text}
    (named : w.gift.contractGiftId = some text) : ∃ id record, Stands p draft w id record := by
  rcases sure.priced.anchored.pointed text named with ⟨id, created, rfl⟩
  rcases sure.faithful.locked id created with ⟨record, stored, lock⟩
  exact ⟨id, record, created, named, stored, lock⟩

theorem Stands.later (stands : Stands p draft w id record) {later : World Address}
    (sure : Sure p draft later) (onward : Onward w later) :
    ∃ changed, Stands p draft later id changed ∧ Grows record changed := by
  have named := onward.named _ stands.named
  rcases sure.stands named with ⟨other, changed, still⟩
  cases Decimal.ofNat_injective (Option.some.inj (still.named.symm.trans named))
  rcases onward.grows _ record stands.stored with ⟨found, stored, grows⟩
  cases still.stored.symm.trans stored
  exact ⟨changed, still, grows⟩

theorem Stands.meets (stands : Stands p draft w id record) (sure : Sure p draft w) :
    Meets p w.gift (recordLock record) :=
  asked_meets (sure.faithful.document.asked.trans stands.lock)

theorem Stands.sender_named (stands : Stands p draft w id record) (sure : Sure p draft w) :
    ∃ name, p.sdk.address w.gift.senderPublicKey = some (.address name) ∧
      p.address name = some record.sender :=
  account_eq_some (stands.meets sure).sender

theorem reclaimable_iff {giftId : Text} {createdAt now : Instant} {gift : GiftDocument} :
    reclaimable now (toGiftDTO giftId createdAt gift) = true ↔
      gift.status = .refundPending ∨
        gift.status = .active ∧ gift.expiresAt.getTime ≤ now.getTime := by
  rw [reclaimable, Bool.or_eq_true, Bool.and_eq_true, decide_eq_true_iff, decide_eq_true_iff,
    decide_eq_true_iff]
  rfl

theorem Sure.refundable_iff (sure : Sure p draft w) {giftId : Text} {createdAt : Instant} {u : Unit} :
    assertRefundable w.now w.gift = .ok u ↔
      reclaimable w.now (toGiftDTO giftId createdAt w.gift) = true := by
  rw [assertRefundable_eq_ok, reclaimable_iff]
  constructor
  · intro refundable
    rcases refundable with ⟨active | pending, late⟩
    · exact Or.inr ⟨active, late⟩
    · exact Or.inl pending
  · intro shown
    rcases shown with pending | ⟨active, late⟩
    · exact ⟨Or.inr pending, le_of_lt (sure.current.pending pending)⟩
    · exact ⟨Or.inl active, late⟩

theorem Stands.reclaim_eq (stands : Stands p draft w id record) (sure : Sure p draft w)
    {built : Invocation} :
    reclaim p w = .ok built ↔ assertRefundable w.now w.gift = .ok () ∧
      ∃ name, p.sdk.address w.gift.senderPublicKey = some (.address name) ∧
        p.address name = some record.sender ∧
        built = ⟨w.gift.senderPublicKey, "refund", [.u64 id, .address name]⟩ := by
  rcases stands.sender_named sure with ⟨name, encoded, known⟩
  have fits := sure.faithful.bounded id stands.created
  simp only [reclaim, buildRefundTransaction, bind_eq_ok, orApi_eq_ok, orService_eq_ok,
    orFail_eq_ok, refuseIf_eq_ok, buildRefundTx, scU64_eq_ok, orThrow_eq_ok, pure_eq_ok, encoded,
    stands.named, truthy_ofNat, bigInt_ofNat, Option.some.injEq, Except.ok.injEq]
  constructor
  · intro builds
    rcases builds with ⟨_, refundable, _, _, _, rfl, _, ⟨_, rfl⟩, _, rfl, rfl⟩
    exact ⟨refundable, name, rfl, known, rfl⟩
  · intro builds
    rcases builds with ⟨refundable, other, same, _, rfl⟩
    cases same
    exact ⟨(), refundable, (), by decide, id, rfl, _, ⟨fits, rfl⟩, _, rfl, rfl⟩

/-- What becomes, on the ledger of a later world, of the refund that this world's document asks
for: a transaction is answered, and paid out once it is signed, just when the gift can be refunded
by then. -/
structure PaysBack (p : Platform Address) (w later : World Address) (id : Nat)
    (record : Escrow.GiftRecord Address) : Prop where
  answered : ∀ env loaded, (∃ tx, buildRoute p later.escrow env loaded (reclaim p w) = .ok tx) ↔
    loaded = true ∧ Escrow.Refundable p.escrow env record
  call : ∀ env loaded tx, buildRoute p later.escrow env loaded (reclaim p w) = .ok tx →
    readCall p.address tx = some (.refund id record.sender)
  signed : ∀ env : Env Address, (∃ after receipt,
      Escrow.exec p.escrow later.escrow (.invoke env (.refund id record.sender)) =
        .ok (after, receipt) ∧ receipt.transfers = Escrow.refunds p.escrow record) ↔
    env.authorized record.sender = true ∧ Escrow.Refundable p.escrow env record

theorem Stands.paysBack {later : World Address} (stands : Stands p draft later id record)
    (sure : Sure p draft later) {built : Invocation} (passed : reclaim p w = .ok built)
    (read : readCall p.address built = some (.refund id record.sender)) :
    PaysBack p w later id record := by
  have signed : ∀ env : Env Address, (∃ after receipt,
      Escrow.exec p.escrow later.escrow (.invoke env (.refund id record.sender)) =
        .ok (after, receipt) ∧ receipt.transfers = Escrow.refunds p.escrow record) ↔
      env.authorized record.sender = true ∧ Escrow.Refundable p.escrow env record :=
    fun env => Escrow.refund_ok_iff sure.sound stands.stored (Or.inl rfl)
  constructor
  · intro env loaded
    have simulated := signed { env with authorized := fun _ => true }
    constructor
    · intro answers
      rcases answers with ⟨tx, answers⟩
      rcases (buildRoute_eq_ok passed read).mp answers with ⟨found, _, after, receipt, ran⟩
      have paid := Escrow.refund_transfers stands.stored ran
      have refundable := (simulated.mp ⟨after, receipt, ran, paid⟩).2
      exact ⟨found, refundable.isOpen, refundable.expired, refundable.taken⟩
    · intro due
      rcases due with ⟨found, refundable⟩
      rcases simulated.mpr ⟨rfl, refundable.isOpen, refundable.expired, refundable.taken⟩ with
        ⟨after, receipt, ran, _⟩
      exact ⟨built, (buildRoute_eq_ok passed read).mpr ⟨found, rfl, after, receipt, ran⟩⟩
  · intro env loaded tx answers
    rcases (buildRoute_eq_ok passed read).mp answers with ⟨_, rfl, _⟩
    exact read
  · exact signed

def reconciled (p : Platform Address) (w : World Address) : World Address :=
  (machine p).final w [.reconcile, .readChain w.tasks.length, .saveStatus w.tasks.length]

theorem Stands.reconciled_gift (stands : Stands p draft w id record) :
    (reconciled p w).gift = savedStatus w.gift record := by
  have begun : exec p w .reconcile = .ok (w.start (.readingChain id), none) := by
    simp only [exec, reconcile, stands.named, truthy_ofNat, bigInt_ofNat, orRefuse]
    rfl
  have read : exec p (w.start (.readingChain id)) (.readChain w.tasks.length) =
      .ok ((w.start (.readingChain id)).put w.tasks.length (.savingStatus id record), none) := by
    simp [exec, readChain, World.start, stands.stored]
  have saved : ∃ wrote, exec p ((w.start (.readingChain id)).put w.tasks.length
      (.savingStatus id record)) (.saveStatus w.tasks.length) =
      .ok ({ ((w.start (.readingChain id)).put w.tasks.length (.savingStatus id record)).put
        w.tasks.length .done with gift := savedStatus w.gift record }, wrote) := by
    simp [exec, saveStatus, World.start, World.put]
  rcases saved with ⟨wrote, saved⟩
  rw [reconciled, Runs.Machine.final_cons, Runs.Machine.next_of_ok begun,
    Runs.Machine.final_cons, Runs.Machine.next_of_ok read, Runs.Machine.final_cons,
    Runs.Machine.next_of_ok saved]
  rfl

theorem reclaimable_savedStatus (giftId : Text) (createdAt now : Instant) (gift : GiftDocument) :
    reclaimable now (toGiftDTO giftId createdAt (savedStatus gift record)) = true ↔
      record.status = .open ∧ gift.expiresAt.getTime ≤ now.getTime := by
  rw [reclaimable_iff]
  change mapContractStatus record.status = .refundPending ∨
    mapContractStatus record.status = .active ∧ _ ↔ _
  cases record.status <;> simp [mapContractStatus, savedStatus]

theorem Stands.gate_iff (stands : Stands p draft w id record) (sure : Sure p draft w) {total : Nat} :
    record.condition = .stepGate total ↔
      w.gift.condition.type = .stepGate ∧ total = totalSteps w.gift := by
  rcases (stands.meets sure).condition with ⟨encoding, encodes, read⟩
  change readCondition encoding = some record.condition at read
  cases type : w.gift.condition.type with
  | none =>
      simp only [toConditionInput, type, encodeCondition, Except.ok.injEq] at encodes
      rw [← encodes, readCondition, Option.some.injEq] at read
      simp [← read]
  | trivia =>
      simp only [toConditionInput, type, encodeCondition, Except.ok.injEq] at encodes
      rw [← encodes, readCondition] at read
      rcases Option.map_eq_some_iff.mp read with ⟨hash, _, same⟩
      simp [← same]
  | stepGate =>
      simp only [toConditionInput, type, encodeCondition, bind_eq_ok, scU32_eq_ok, pure_eq_ok]
        at encodes
      rcases encodes with ⟨_, ⟨_, rfl⟩, rfl⟩
      rw [readCondition, Option.some.injEq] at read
      rw [← read, Escrow.ClaimCondition.stepGate.injEq, totalSteps, and_iff_right rfl, eq_comm]

theorem Stands.unlockNext_eq (stands : Stands p draft w id record) (sure : Sure p draft w)
    {built : Invocation} :
    unlockNext p w = .ok built ↔ w.gift.condition.type = .stepGate ∧
      ∃ name, p.sdk.address w.gift.senderPublicKey = some (.address name) ∧
        p.address name = some record.sender ∧
        built = ⟨w.gift.senderPublicKey, "unlock_step", [.address name, .u64 id]⟩ := by
  rcases stands.sender_named sure with ⟨name, encoded, known⟩
  have fits := sure.faithful.bounded id stands.created
  simp only [unlockNext, buildUnlockStepTransaction, bind_eq_ok, orApi_eq_ok, orService_eq_ok,
    orFail_eq_ok, findStepGatedGift_eq_ok, buildUnlockStepTx, scU64_eq_ok, orThrow_eq_ok,
    pure_eq_ok, Option.some.injEq]
  constructor
  · intro builds
    rcases builds with ⟨_, ⟨rfl, gated⟩, read, named, _, address, _, ⟨_, rfl⟩, rfl⟩
    rw [stands.named, bigInt_ofNat] at named
    cases named
    cases encoded.symm.trans address
    exact ⟨gated, name, encoded, known, rfl⟩
  · intro builds
    rcases builds with ⟨gated, other, same, _, rfl⟩
    exact ⟨_, ⟨rfl, gated⟩, id, by rw [stands.named, bigInt_ofNat], _, same, _, ⟨fits, rfl⟩, rfl⟩

theorem unlockStep_ok_iff {env : Env Address} {who : Address}
    (stored : w.escrow.gifts.get id = some record) :
    (∃ done, Escrow.exec p.escrow w.escrow (.invoke env (.unlockStep who id)) = .ok done) ↔
      env.authorized who = true ∧ who = record.stepUnlocker ∧
        ∃ total, record.condition = .stepGate total ∧ record.stepsCompleted < total := by
  simp only [Escrow.exec, Escrow.invoke, Escrow.unlockStep, bind_eq_ok, requireAuth_eq_ok,
    Escrow.getGift_eq_ok, panicIf_eq_ok, Escrow.stepTotal_eq_ok, pure_eq_ok, not_not, not_le,
    exists_const]
  constructor
  · intro ran
    rcases ran with ⟨done, authorized, gift, found, own, total, gated, remaining, _⟩
    cases stored.symm.trans found
    exact ⟨authorized, own, total, gated, remaining⟩
  · intro passes
    rcases passes with ⟨authorized, own, total, gated, remaining⟩
    exact ⟨_, authorized, record, stored, own, total, gated, remaining, rfl⟩

end Buttons

section Results

variable {Address : Type} [LinearOrder Address]

/-- In every ordinary run `Reclaim` is offered just when the route's checks pass; what is then asked
for is the refund of the draft's own gift, and on the ledger of any later world it is answered and
paid just when it can be. A gift whose document has been reconciled has the button just when it is
open and expired. -/
theorem reclaim_pays_back (p : Platform Address)
    (past : List (Action Address (Escrow.Call Address)))
    (apart : ∀ action ∈ past, NotSelfPaid Escrow.Call.payer p.escrow.self action) (now : Instant)
    (token : Text)
    (input : CreateGiftInput) (draft : GiftDocument)
    (drafted : createDraft p.rt now token input = .ok draft) (sequence : Nat)
    (acts : List (Act Address))
    (ordinary : ∀ entry ∈ (machine p).trace (World.freshly p past now draft sequence) acts,
      Ordinary p entry.before entry.call) (w : World Address)
    (ran : w = (machine p).final (World.freshly p past now draft sequence) acts)
    (giftId : Text) (createdAt : Instant) :
    (reclaimable w.now (toGiftDTO giftId createdAt w.gift) = true ↔
      ∃ built, reclaim p w = .ok built) ∧
    (∀ built, reclaim p w = .ok built → ∃ id, ∀ later,
      (∀ entry ∈ (machine p).trace w later, Ordinary p entry.before entry.call) →
      ∃ record, Stands p draft ((machine p).final w later) id record ∧
        PaysBack p w ((machine p).final w later) id record) ∧
    ∀ id record, Stands p draft w id record →
      (reclaimable w.now (toGiftDTO giftId createdAt (reconciled p w).gift) = true ↔
        record.status = .open ∧ w.gift.expiresAt.getTime ≤ w.now.getTime) := by
  have sure : Sure p draft w :=
    ran.symm ▸ (run_sure (freshly_sure drafted apart) acts ordinary).1
  have submitted : assertRefundable w.now w.gift = .ok () →
      ∃ id record, Stands p draft w id record := by
    intro refundable
    rcases sure.behind.named (by
      rcases (assertRefundable_eq_ok.mp refundable).1 with active | pending
      · exact active ▸ ⟨nofun, nofun⟩
      · exact pending ▸ ⟨nofun, nofun⟩) with ⟨text, named⟩
    exact sure.stands named
  have refundable : ∀ built, reclaim p w = .ok built → assertRefundable w.now w.gift = .ok () := by
    intro built builds
    simp only [reclaim, buildRefundTransaction, bind_eq_ok, orApi_eq_ok] at builds
    rcases builds with ⟨_, passed, _⟩
    exact passed
  refine ⟨?_, ?_, ?_⟩
  · rw [← sure.refundable_iff (u := ())]
    constructor
    · intro passed
      rcases submitted passed with ⟨id, record, stands⟩
      rcases stands.sender_named sure with ⟨name, encoded, known⟩
      exact ⟨_, (stands.reclaim_eq sure).mpr ⟨passed, name, encoded, known, rfl⟩⟩
    · intro builds
      rcases builds with ⟨built, builds⟩
      exact refundable built builds
  · intro built builds
    rcases submitted (refundable built builds) with ⟨id, record, stands⟩
    rcases (stands.reclaim_eq sure).mp builds with ⟨_, name, _, known, same⟩
    refine ⟨id, ?_⟩
    intro later plain
    have onward := run_sure sure later plain
    rcases stands.later onward.1 onward.2 with ⟨changed, still, grows⟩
    have sender : changed.sender = record.sender := congrArg Lock.sender grows.lock
    refine ⟨changed, still, still.paysBack onward.1 builds ?_⟩
    rw [same, sender]
    simp only [readCall, known, Option.map_some]
  · intro id record stands
    rw [stands.reconciled_gift]
    exact reclaimable_savedStatus giftId createdAt w.now w.gift

def sampleExpired : World Nat :=
  (machine samplePlatform).final sampleWorld
    (sampleActive ++ [.tick ⟨3600002, by decide⟩, .markRefundPending])

theorem reclaim_pays_back_sample :
    ∃ built, reclaim samplePlatform sampleExpired = .ok built ∧
      ∃ record, PaysBack samplePlatform sampleExpired sampleExpired 1 record := by
  have results := reclaim_pays_back samplePlatform samplePast (by decide +kernel) sampleStart []
    (sampleInput "10") sampleDraft rfl 0 _ (by decide +kernel) sampleExpired rfl [] sampleStart
  rcases results.1.mp (by decide +kernel) with ⟨built, builds⟩
  rcases results.2.1 built builds with ⟨id, pays⟩
  rcases pays [] (by simp) with ⟨record, stands, paysBack⟩
  have same : (Option.some (Decimal.ofNat id)) = some (Decimal.ofNat 1) :=
    stands.named.symm.trans (by decide +kernel)
  cases Decimal.ofNat_injective (Option.some.inj same)
  exact ⟨built, builds, record, paysBack⟩

/-- What becomes, on the ledger of a later world, of the step that this world's document asks to
unlock: the contract takes it just when the draft left unlocking to its sender and steps remain. -/
structure Unlocks (p : Platform Address) (w later : World Address) (id : Nat)
    (record : Escrow.GiftRecord Address) : Prop where
  answered : ∀ env loaded, (∃ tx, buildRoute p later.escrow env loaded (unlockNext p w) = .ok tx) ↔
    loaded = true ∧
      p.account (w.gift.condition.stepUnlockerPublicKey.getD w.gift.senderPublicKey) =
        some record.sender ∧ record.stepsCompleted < totalSteps w.gift
  call : ∀ env loaded tx, buildRoute p later.escrow env loaded (unlockNext p w) = .ok tx →
    readCall p.address tx = some (.unlockStep record.sender id)
  signed : ∀ env : Env Address, (∃ after receipt,
      Escrow.exec p.escrow later.escrow (.invoke env (.unlockStep record.sender id)) =
        .ok (after, receipt)) ↔
    env.authorized record.sender = true ∧
      p.account (w.gift.condition.stepUnlockerPublicKey.getD w.gift.senderPublicKey) =
        some record.sender ∧ record.stepsCompleted < totalSteps w.gift

theorem Stands.unlocks {p : Platform Address} {draft : GiftDocument} {w later : World Address}
    {id : Nat} {record : Escrow.GiftRecord Address} (stands : Stands p draft later id record)
    (sure : Sure p draft later) (terms : SameTerms draft w.gift)
    (gated : w.gift.condition.type = .stepGate) {built : Invocation}
    (passed : unlockNext p w = .ok built)
    (read : readCall p.address built = some (.unlockStep record.sender id)) :
    Unlocks p w later id record := by
  have condition : later.gift.condition =
      { w.gift.condition with stepsCompleted := later.gift.condition.stepsCompleted } := by
    rw [sure.faithful.document.condition, terms.condition]
  have unlocker : p.account (w.gift.condition.stepUnlockerPublicKey.getD w.gift.senderPublicKey) =
      some record.stepUnlocker := by
    have named := (stands.meets sure).stepUnlocker
    rw [condition, sure.faithful.document.sender, ← terms.sender] at named
    exact named
  have gate : ∀ total, record.condition = .stepGate total ↔ total = totalSteps w.gift := by
    intro total
    rw [stands.gate_iff sure, condition, totalSteps, totalSteps, condition, gated,
      and_iff_right rfl]
  have signed : ∀ env : Env Address, (∃ after receipt,
      Escrow.exec p.escrow later.escrow (.invoke env (.unlockStep record.sender id)) =
        .ok (after, receipt)) ↔ env.authorized record.sender = true ∧
      p.account (w.gift.condition.stepUnlockerPublicKey.getD w.gift.senderPublicKey) =
        some record.sender ∧ record.stepsCompleted < totalSteps w.gift := by
    intro env
    rw [← Prod.exists', unlockStep_ok_iff stands.stored, unlocker, Option.some.injEq]
    simp only [gate, exists_eq_left, eq_comm]
  constructor
  · intro env loaded
    have simulated := signed { env with authorized := fun _ => true }
    constructor
    · intro answers
      rcases answers with ⟨tx, answers⟩
      rcases (buildRoute_eq_ok passed read).mp answers with ⟨found, _, taken⟩
      exact ⟨found, (simulated.mp taken).2⟩
    · intro due
      exact ⟨built, (buildRoute_eq_ok passed read).mpr
        ⟨due.1, rfl, simulated.mpr ⟨rfl, due.2⟩⟩⟩
  · intro env loaded tx answers
    rcases (buildRoute_eq_ok passed read).mp answers with ⟨_, rfl, _⟩
    exact read
  · exact signed

/-- In every ordinary run the button of a gift that is on the chain is offered as long as steps
remain there, and what it asks for is an unlock of the draft's own gift by its sender. -/
theorem unlock_next_step (p : Platform Address)
    (past : List (Action Address (Escrow.Call Address)))
    (apart : ∀ action ∈ past, NotSelfPaid Escrow.Call.payer p.escrow.self action) (now : Instant)
    (token : Text)
    (input : CreateGiftInput) (draft : GiftDocument)
    (drafted : createDraft p.rt now token input = .ok draft) (sequence : Nat)
    (acts : List (Act Address))
    (ordinary : ∀ entry ∈ (machine p).trace (World.freshly p past now draft sequence) acts,
      Ordinary p entry.before entry.call) (w : World Address)
    (ran : w = (machine p).final (World.freshly p past now draft sequence) acts)
    (giftId : Text) (createdAt : Instant) (id : Nat) (record : Escrow.GiftRecord Address)
    (stands : Stands p draft w id record) :
    w.gift.condition.stepsCompleted ≤ record.stepsCompleted ∧
    ((∃ total, record.condition = .stepGate total ∧ record.stepsCompleted < total) →
      stepsRemaining (toGiftDTO giftId createdAt w.gift) = true) ∧
    (stepsRemaining (toGiftDTO giftId createdAt w.gift) = true → ∀ later,
      (∀ entry ∈ (machine p).trace w later, Ordinary p entry.before entry.call) →
      ∃ changed, Stands p draft ((machine p).final w later) id changed ∧
        Unlocks p w ((machine p).final w later) id changed) := by
  have sure : Sure p draft w :=
    ran.symm ▸ (run_sure (freshly_sure drafted apart) acts ordinary).1
  have behind := sure.behind.cached id record (stands.named ▸ bigInt_ofNat id) stands.stored
  have shown : stepsRemaining (toGiftDTO giftId createdAt w.gift) = true ↔
      w.gift.condition.type = .stepGate ∧ w.gift.condition.stepsCompleted < totalSteps w.gift := by
    rw [stepsRemaining, Bool.and_eq_true, decide_eq_true_iff, decide_eq_true_iff]
    rfl
  refine ⟨behind, ?_, ?_⟩
  · intro remaining
    rcases remaining with ⟨total, gated, left⟩
    rcases (stands.gate_iff sure).mp gated with ⟨type, rfl⟩
    exact shown.mpr ⟨type, lt_of_le_of_lt behind left⟩
  · intro offered later plain
    rcases shown.mp offered with ⟨type, _⟩
    rcases stands.sender_named sure with ⟨name, encoded, known⟩
    have onward := run_sure sure later plain
    rcases stands.later onward.1 onward.2 with ⟨changed, still, grows⟩
    have sender : changed.sender = record.sender := congrArg Lock.sender grows.lock
    refine ⟨changed, still, still.unlocks onward.1 sure.faithful.document type
      ((stands.unlockNext_eq sure).mpr ⟨type, name, encoded, known, rfl⟩) ?_⟩
    simp only [readCall, known, Option.map_some, sender]

def sampleGatedDraft : GiftDocument :=
  { sampleDraft with condition := toStoredCondition sampleRuntime sampleSteps }

def sampleGated : World Nat :=
  (machine samplePlatform).final
    (World.freshly samplePlatform samplePast sampleStart sampleGatedDraft 0) sampleActive

theorem sampleGated_stands :
    ∃ record, Stands samplePlatform sampleGatedDraft sampleGated 1 record ∧
      record.sender = 1 ∧ record.condition = .stepGate 2 ∧ record.stepsCompleted = 0 := by
  refine ⟨_, ⟨by decide +kernel, by decide +kernel, rfl, by decide +kernel⟩, ?_, ?_, ?_⟩
  · decide +kernel
  · decide +kernel
  · decide +kernel

theorem unlock_next_step_sample :
    ∃ record, Unlocks samplePlatform sampleGated sampleGated 1 record := by
  rcases sampleGated_stands with ⟨record, stands, sender, gated, unopened⟩
  have offers := unlock_next_step samplePlatform samplePast (by decide +kernel) sampleStart []
    { sampleInput "10" with condition := sampleSteps } sampleGatedDraft rfl 0 sampleActive
    (by decide +kernel) sampleGated rfl [] sampleStart 1 record stands
  have left : record.stepsCompleted < 2 := by omega
  rcases offers.2.2 (offers.2.1 ⟨2, gated, left⟩) [] (by simp) with ⟨changed, _, unlocks⟩
  exact ⟨changed, unlocks⟩

end Results

end Giffy.Dashboard
