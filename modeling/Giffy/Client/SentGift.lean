import Giffy.Backend.Locked
import Giffy.Client.CreatePage

/-! From the form that the sender reviews to what the contract locks. -/

namespace Giffy.CreatePage

open Backend Chain Client

section Drafts

variable {sdk : Sdk} {settings : Settings} {form : ComposeState} {senderPublicKey : Text}

/-- What the sender reads in the review, as the contract is to keep it. -/
structure Reviewed {Address : Type} (p : Platform Address) (form : ComposeState)
    (senderPublicKey : Text) (draftedAt : Instant) (lock : Lock Address) : Prop where
  sender : p.account senderPublicKey = some lock.sender
  receiver : p.account form.receiverPublicKey = some lock.receiver
  token : p.account xlmTokenContract = some lock.token
  expiresAt : lock.expiresAt = (draftedAt.getTime + form.expiresInSeconds * 1000) / 1000
  condition : lock.condition = onChainCondition p.rt (buildCondition form)
  stepUnlocker : p.account (if form.conditionType = .stepGate ∧
    trim form.stepUnlockerPublicKey ≠ [] then trim form.stepUnlockerPublicKey
    else senderPublicKey) = some lock.stepUnlocker
  messageHash : lock.messageHash = p.rt.sha256 (utf8 (trim form.message))

theorem request_input {input : CreateGiftInput}
    (accepted : createGiftSchema sdk settings (request form senderPublicKey) = .ok input) :
    input = ⟨senderPublicKey, form.receiverPublicKey, form.assetCode, none, form.amount,
      trim form.message, form.theme, form.expiresInSeconds, form.contributionsEnabled,
      (request form senderPublicKey).goalAmount, buildCondition form⟩ := by
  unfold createGiftSchema at accepted
  split at accepted
  next =>
    cases accepted
    simp [request]
  next => cases accepted

theorem after_getTime {now later : Instant} {seconds : Nat}
    (after : now.after seconds = some later) :
    later.getTime = now.getTime + seconds * 1000 := by
  unfold Instant.after at after
  split at after
  next =>
    cases after
    rfl
  next => cases after

theorem buildCondition_unlocker (rt : Runtime) :
    (toStoredCondition rt (buildCondition form)).stepUnlockerPublicKey.getD senderPublicKey =
      if form.conditionType = .stepGate ∧ trim form.stepUnlockerPublicKey ≠ [] then
        trim form.stepUnlockerPublicKey else senderPublicKey := by
  cases type : form.conditionType with
  | none => simp [buildCondition, type, toStoredCondition]
  | trivia => simp [buildCondition, type, toStoredCondition]
  | stepGate =>
      by_cases unnamed : trim form.stepUnlockerPublicKey = []
      · simp [buildCondition, type, toStoredCondition, unnamed]
      · simp [buildCondition, type, toStoredCondition, unnamed]

theorem drafted_reviewed {Address : Type} {p : Platform Address} {draftedAt : Instant}
    {token : Text} {input : CreateGiftInput} {draft : GiftDocument} {lock : Lock Address}
    (accepted : createGiftSchema p.sdk settings (request form senderPublicKey) = .ok input)
    (native : form.assetCode = xlm) (drafted : createDraft p.rt draftedAt token input = .ok draft)
    (asks : asked p draft = some lock) : Reviewed p form senderPublicKey draftedAt lock := by
  rcases createDraft_eq_ok drafted with ⟨tokenContractId, resolved, expiresAt, after, rfl⟩
  have meets := asked_meets asks
  rw [request_input accepted] at meets resolved after
  have contract : tokenContractId = xlmTokenContract := by
    rw [native, resolveTokenContractId_xlm] at resolved
    exact (Except.ok.inj resolved).symm
  subst contract
  rcases meets.condition with ⟨encoding, encodes, read⟩
  constructor
  · exact meets.sender
  · exact meets.receiver
  · exact meets.token
  · rw [meets.expiresAt, ← after_getTime after]
  · exact encoded_condition rfl encodes read
  · rw [← buildCondition_unlocker p.rt]
    exact meets.stepUnlocker
  · exact meets.messageHash

theorem createGiftSchema_asset {body : CreateGiftBody} {input : CreateGiftInput}
    (accepted : createGiftSchema sdk settings body = .ok input) (unissued : body.assetIssuer = none) :
    body.assetCode = xlm := by
  have clean := createGiftSchema_ok_iff.mp ⟨input, accepted⟩
  simp only [createGiftIssues, List.append_eq_nil_iff, check_eq_nil, unissued, truthy,
    Bool.or_false] at clean
  exact of_decide_eq_true clean.2

end Drafts

section Runs

theorem posted_request {events : List Event} {entry : Entry}
    (member : entry ∈ machine.trace Wizard.fresh events) {body : CreateGiftBody}
    (posts : entry.outcome = .ok (some body)) :
    ∃ key, entry.before.publicKey = some key ∧ body = request entry.before.form key := by
  rcases Runs.Machine.trace_member member with ⟨_, event, _, _, same⟩
  rw [same] at posts ⊢
  exact (exec_posted (Runs.Machine.outcome_eq_ok.mp posts)).2

/-- Whatever gift a draft of a posted request becomes, in any run, the contract keeps for good what
its sender reviewed; of the amount it is the text reviewed, in the token's smallest unit. -/
theorem sent_gift_locked {Address : Type} [LinearOrder Address] (p : Platform Address)
    (settings : Settings) (events : List Event) (entry : Entry)
    (member : entry ∈ machine.trace Wizard.fresh events) (body : CreateGiftBody)
    (posts : entry.outcome = .ok (some body)) (input : CreateGiftInput)
    (accepted : createGiftSchema p.sdk settings body = .ok input)
    (past : List (Action Address (Escrow.Call Address))) (draftedAt : Instant) (token : Text)
    (draft : GiftDocument) (drafted : createDraft p.rt draftedAt token input = .ok draft)
    (sequence : Nat) (acts : List (Act Address)) (w : World Address)
    (ran : w = (Backend.machine p).final (World.freshly p past draftedAt draft sequence) acts) :
    ∃ key, entry.before.publicKey = some key ∧ ∀ id ∈ w.creates, ∃ record,
      w.escrow.gifts.get id = some record ∧
      Reviewed p entry.before.form key draftedAt (recordLock record) ∧
      ((∀ entry ∈ (Backend.machine p).trace (World.freshly p past draftedAt draft sequence) acts,
          Regular entry.before entry.call) →
        ∃ amount share, p.sdk.i128 entry.before.form.amount = some amount ∧
          record.contributions.get record.sender = some share ∧ amount.value ≤ share.value) := by
  rcases posted_request member posts with ⟨key, connected, rfl⟩
  refine ⟨key, connected, ?_⟩
  intro id created
  have parts := createDraft_eq_ok drafted
  have unnamed : draft.contractGiftId = none := by
    rcases parts with ⟨_, _, _, _, rfl⟩
    rfl
  have faithful : Faithful p draft w := ran.symm ▸ run_faithful acts
  rcases faithful.locked id created with ⟨record, stored, asks⟩
  refine ⟨record, stored, ?_, ?_⟩
  · exact drafted_reviewed accepted (createGiftSchema_asset accepted rfl) drafted asks
  · intro regular
    have priced : Priced p draft w := ran.symm ▸ run_priced unnamed acts regular
    rcases priced.share id created with ⟨other, amount, share, found, priced, held, enough⟩
    have amount_eq : draft.amount = entry.before.form.amount := by
      rcases parts with ⟨_, _, _, _, rfl⟩
      rw [request_input accepted]
    rw [stored] at found
    cases found
    exact ⟨amount, share, amount_eq ▸ priced, held, enough⟩

theorem sent_gift_locked_sample :
    let w := (Backend.machine samplePlatform).final sampleWorld sampleActive
    ∃ record, w.escrow.gifts.get 1 = some record ∧
      record.messageHash = sampleRuntime.sha256 (utf8 "Happy birthday!".toList) ∧
      ∃ amount share, Backend.sampleSdk.i128 "10".toList = some amount ∧
        record.contributions.get record.sender = some share ∧ amount.value ≤ share.value := by
  have accepted : createGiftSchema Backend.sampleSdk sampleSettings
      (request sampleReview.form sampleSender) = .ok (sampleInput "10") := by
    have clean : createGiftIssues Backend.sampleSdk sampleSettings
        (request sampleReview.form sampleSender) = [] := by decide +kernel
    rw [createGiftSchema, if_pos clean]
    decide +kernel
  rcases sent_gift_locked samplePlatform sampleSettings _ _ sampleReview_sends _
    (Runs.Machine.outcome_of_ok sampleReview_posts) _ accepted samplePast sampleStart [] sampleDraft
    rfl 0 sampleActive _ rfl with ⟨key, _, locked⟩
  have message : trim sampleReview.form.message = "Happy birthday!".toList := by decide +kernel
  have ten : sampleReview.form.amount = "10".toList := by decide +kernel
  rcases locked 1 (by decide +kernel) with ⟨record, stored, reviewed, early⟩
  have hash := reviewed.messageHash
  rw [show (machine.record sampleReview .send).before = sampleReview from rfl] at hash early
  rw [message] at hash
  rw [ten] at early
  exact ⟨record, stored, hash, early (by decide +kernel)⟩

end Runs

end Giffy.CreatePage
