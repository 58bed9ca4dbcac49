import Giffy.Backend.ClaimLinks
import Giffy.Client.Dashboard

/-! The receiver's claim page, and what comes of its button. -/

namespace Giffy.ClaimPage

open Backend Chain Dashboard

section Page

structure ConditionPreview where
  type : ConditionType
  question : Option Text
  steps : Option (List ConditionStep)
  stepsCompleted : Option Nat
  totalSteps : Option Nat

/-- The condition as the page's type has it; the route sends no steps. -/
def conditionPreview (preview : GiftPreviewDTO) : ConditionPreview :=
  ⟨preview.conditionType, preview.question, none, none, none⟩

/-- The input of `TriviaAnswerPrompt`, and how often it has been mounted. -/
structure Prompt where
  mounted : Nat
  answer : Text
  verified : Bool

structure Visit where
  publicKey : Option Text
  /-- the wallet names a network other than the test network -/
  elsewhere : Bool
  preview : Option GiftPreviewDTO
  error : Bool
  claimedTx : Option Text
  countdownDone : Bool
  trustlineOk : Bool
  verifiedAnswer : Option Text
  /-- the body of the claim under way -/
  claiming : Option BuildClaimBody
  prompt : Prompt

def Visit.fresh : Visit :=
  ⟨none, false, none, false, none, false, false, none, none, ⟨0, [], false⟩⟩

variable (visit : Visit)

def expired (preview : GiftPreviewDTO) (now : Instant) : Bool :=
  visit.countdownDone || preview.status = .refunded || preview.status = .refundPending ||
    preview.expiresAt.getTime ≤ now.getTime

def conditionSatisfied (condition : ConditionPreview) : Bool :=
  condition.type = .none || (condition.type = .trivia && visit.verifiedAnswer.isSome) ||
    (condition.type = .stepGate &&
      condition.totalSteps.getD ((condition.steps.map List.length).getD 0) ≤
        condition.stepsCompleted.getD 0)

def claimReady (preview : GiftPreviewDTO) : Bool :=
  conditionSatisfied visit (conditionPreview preview) && visit.trustlineOk

/-- `NetworkGuard` shows a warning in place of its children. -/
def guarded : Bool := visit.publicKey.isSome && visit.elsewhere

def live (now : Instant) : Option GiftPreviewDTO :=
  visit.preview.filter fun preview => !visit.error && visit.claimedTx.isNone &&
    preview.status ≠ .claimed && !expired visit preview now && !guarded visit

/-- A prompt taken off the page comes back empty. -/
def remount : Visit :=
  if visit.error || guarded visit then
    { visit with prompt := ⟨visit.prompt.mounted + 1, [], false⟩ }
  else visit

end Page

section Scenes

structure Check where
  mounted : Nat
  answer : Text
  verified : Option Bool

/-- The page beside the gift's document and its chain, and the answers on their way to it. -/
structure Scene (Address : Type) [LT Address] where
  world : World Address
  visit : Visit
  replies : List (Option GiftPreviewDTO)
  checks : List Check

inductive Event (Address : Type)
  | backend (act : Act Address)
  | wallet (publicKey : Option Text) (elsewhere : Bool)
  | fetch (limited : Bool)
  | arrive (k : Nat)
  | countdown
  | satisfied (now : Instant)
  | type (now : Instant) (answer : Text)
  | check (now : Instant)
  | verify (k : Nat) (limited : Bool)
  | hear (k : Nat)
  | press (now : Instant)
  | settled (txHash : Option Text)

inductive Refused
  | backend (refused : Backend.Refused)
  | unavailable

variable {Address : Type} [LinearOrder Address] (p : Platform Address) (token : Text)

def previewReply (gift : GiftDocument) (limited : Bool) : Option GiftPreviewDTO :=
  match (claimRoute p.rt [gift] limited token).body with
  | .preview preview => some preview
  | .error .. => none

def answerReply (gift : GiftDocument) (limited : Bool) (answer : Text) : Bool :=
  !limited && verifyAnswerIssues answer = [] && (verifyAnswer p.rt [gift] token answer).isOk

abbrev Moved (Address : Type) [LT Address] := Except Refused (Scene Address × Unit)

def exec (s : Scene Address) : Event Address → Moved Address
  | .backend act =>
      match Backend.exec p s.world act with
      | .ok (world, _) => .ok ({ s with world := world }, ())
      | .error refused => .error (.backend refused)
  | .wallet publicKey elsewhere =>
      .ok ({ s with visit := remount { s.visit with
        publicKey := publicKey, elsewhere := elsewhere } }, ())
  | .fetch limited =>
      .ok ({ s with replies := s.replies ++ [previewReply p token s.world.gift limited] }, ())
  | .arrive k =>
      match s.replies[k]? with
      | some (some preview) =>
          .ok ({ s with visit := { s.visit with preview := some preview, error := false } }, ())
      | some none => .ok ({ s with visit := remount { s.visit with error := true } }, ())
      | none => .error .unavailable
  | .countdown => .ok ({ s with visit := { s.visit with countdownDone := true } }, ())
  | .satisfied now =>
      if (live s.visit now).isSome ∧ s.visit.publicKey.isSome then
        .ok ({ s with visit := { s.visit with trustlineOk := true } }, ())
      else .error .unavailable
  | .type now answer =>
      if (live s.visit now).any (·.conditionType = .trivia) ∧ s.visit.prompt.verified = false then
        .ok ({ s with visit := { s.visit with
          prompt := { s.visit.prompt with answer := answer, verified := false } } }, ())
      else .error .unavailable
  | .check now =>
      if (live s.visit now).any (·.conditionType = .trivia) ∧ s.visit.prompt.verified = false ∧
          trim s.visit.prompt.answer ≠ [] then
        .ok ({ s with checks := s.checks ++
          [⟨s.visit.prompt.mounted, trim s.visit.prompt.answer, none⟩] }, ())
      else .error .unavailable
  | .verify k limited =>
      match s.checks[k]? with
      | some ⟨mounted, answer, none⟩ =>
          .ok ({ s with checks := s.checks.set k ⟨mounted, answer,
            some (answerReply p token s.world.gift limited answer)⟩ }, ())
      | _ => .error .unavailable
  | .hear k =>
      match s.checks[k]? with
      | some ⟨mounted, answer, some true⟩ =>
          .ok ({ s with visit := { s.visit with
            verifiedAnswer := some answer
            prompt := if s.visit.prompt.mounted = mounted then
              { s.visit.prompt with verified := true } else s.visit.prompt } }, ())
      | some ⟨_, _, some false⟩ => .ok (s, ())
      | _ => .error .unavailable
  | .press now =>
      match live s.visit now, s.visit.publicKey with
      | some preview, some publicKey =>
          if s.visit.claiming.isNone ∧ claimReady s.visit preview = true then
            .ok ({ s with visit := { s.visit with
              claiming := some ⟨publicKey, s.visit.verifiedAnswer⟩ } }, ())
          else .error .unavailable
      | _, _ => .error .unavailable
  | .settled txHash =>
      if s.visit.claiming.isSome then
        .ok ({ s with visit := { s.visit with
          claiming := none, claimedTx := txHash <|> s.visit.claimedTx } }, ())
      else .error .unavailable

abbrev machine : Runs.Machine (Scene Address) (Event Address) Refused Unit := ⟨exec p token⟩

def Scene.opened (w : World Address) : Scene Address := ⟨w, .fresh, [], []⟩

end Scenes

section Promises

variable {Address : Type} [LinearOrder Address] {p : Platform Address} {token : Text}
  {draft : GiftDocument} {w after : World Address} {act : Act Address} {wrote : Option GiftStatus}
  {s next : Scene Address} {visit : Visit} {preview : GiftPreviewDTO} {body : BuildClaimBody}

structure Right (rt : Runtime) (draft : GiftDocument) (answer : Text) : Prop where
  gated : draft.condition.type = .trivia
  hashed : draft.condition.answerHash = some (hashAnswer rt answer)
  clean : verifyAnswerIssues answer = []

structure Shown (draft : GiftDocument) (w : World Address) (preview : GiftPreviewDTO) : Prop where
  type : preview.conditionType = draft.condition.type
  named : ∃ text, w.gift.contractGiftId = some text

structure Answered (p : Platform Address) (draft : GiftDocument) (w : World Address)
    (body : BuildClaimBody) : Prop where
  key : p.sdk.isValidEd25519PublicKey body.claimantPublicKey = true
  right : ∀ answer, body.answer = some answer → Right p.rt draft answer
  given : draft.condition.type = .trivia → ∃ answer, body.answer = some answer
  named : ∃ text, w.gift.contractGiftId = some text

structure Truthful (p : Platform Address) (draft : GiftDocument) (w : World Address)
    (visit : Visit) : Prop where
  key : ∀ key, visit.publicKey = some key → p.sdk.isValidEd25519PublicKey key = true
  shown : ∀ preview, visit.preview = some preview → Shown draft w preview
  verified : ∀ answer, visit.verifiedAnswer = some answer → Right p.rt draft answer
  claiming : ∀ body, visit.claiming = some body → Answered p draft w body

/-- What the page relies on, of the world, of the answers under way and of itself. -/
structure Honest (p : Platform Address) (draft : GiftDocument) (s : Scene Address) : Prop where
  sure : Sure p draft s.world
  progress : ∀ id record, s.world.escrow.gifts.get id = some record → Escrow.Progress record
  replied : ∀ preview, some preview ∈ s.replies → Shown draft s.world preview
  checked : ∀ check ∈ s.checks, check.verified = some true → Right p.rt draft check.answer
  page : Truthful p draft s.world s.visit

theorem Truthful.remount (truthful : Truthful p draft w visit) :
    Truthful p draft w (remount visit) := by
  unfold ClaimPage.remount
  split
  next => exact ⟨truthful.key, truthful.shown, truthful.verified, truthful.claiming⟩
  next => exact truthful

theorem Honest.turn (honest : Honest p draft s) (truthful : Truthful p draft s.world visit) :
    Honest p draft { s with visit := visit } :=
  ⟨honest.sure, honest.progress, honest.replied, honest.checked, truthful⟩

theorem step_progress (step : Backend.Step p w act after wrote)
    (progress : ∀ id record, w.escrow.gifts.get id = some record → Escrow.Progress record) :
    ∀ id record, after.escrow.gifts.get id = some record → Escrow.Progress record := by
  rcases step_escrow step with same | ⟨action, moved⟩
  · rw [same]
    exact progress
  · rw [moved]
    rcases Escrow.next_cases (d := p.escrow) w.escrow action with ⟨receipt, _, taken⟩ | ⟨_, same⟩
    · exact Escrow.step_progress progress taken
    · rw [same]
      exact progress

theorem Honest.moved (honest : Honest p draft s)
    (ran : Backend.exec p s.world act = .ok (after, wrote))
    (ordinary : Dashboard.Ordinary p s.world act) :
    Honest p draft { s with world := after } := by
  have named : (∃ text, s.world.gift.contractGiftId = some text) →
      ∃ text, after.gift.contractGiftId = some text := by
    intro held
    rcases held with ⟨text, held⟩
    exact ⟨text, (Dashboard.exec_onward ran honest.sure).named text held⟩
  constructor
  · exact exec_sure ran honest.sure ordinary
  · exact step_progress (exec_step ran) honest.progress
  · intro preview member
    exact ⟨(honest.replied preview member).type, named (honest.replied preview member).named⟩
  · exact honest.checked
  · constructor
    · exact honest.page.key
    · intro preview held
      exact ⟨(honest.page.shown preview held).type, named (honest.page.shown preview held).named⟩
    · exact honest.page.verified
    · intro body held
      have answered := honest.page.claiming body held
      exact ⟨answered.key, answered.right, answered.given, named answered.named⟩

omit [LinearOrder Address] in
theorem claimRoute_preview {gifts : List GiftDocument} {limited : Bool}
    (answered : (claimRoute p.rt gifts limited token).body = .preview preview) :
    resolveClaimToken p.rt gifts token = .ok preview := by
  unfold claimRoute claimTokenSchema at answered
  split at answered
  next => cases answered
  next =>
    dsimp only at answered
    split at answered
    next =>
      simp only [validateRequest, Backend.preview] at answered
      split at answered
      next found =>
        cases answered
        exact found
      next => cases answered
    next => cases answered

theorem previewReply_shown {limited : Bool} (sure : Sure p draft w)
    (replied : previewReply p token w.gift limited = some preview) : Shown draft w preview := by
  unfold previewReply at replied
  split at replied
  next shown answered =>
    cases replied
    have resolved := claimRoute_preview answered
    simp only [resolveClaimToken, bind_eq_ok, findGiftByToken_single, refuseIf_eq_ok, pure_eq_ok,
      not_or, exists_const] at resolved
    rcases resolved with ⟨_, ⟨_, _, rfl⟩, submitted, rfl⟩
    constructor
    · rw [toPreview, sure.faithful.document.condition]
    · exact sure.behind.named submitted
  next => cases replied

theorem answerReply_right {answer : Text} {limited : Bool} (sure : Sure p draft w)
    (replied : answerReply p token w.gift limited answer = true) : Right p.rt draft answer := by
  simp only [answerReply, Bool.and_eq_true, decide_eq_true_iff] at replied
  rcases replied with ⟨⟨_, clean⟩, passed⟩
  cases verified : verifyAnswer p.rt [w.gift] token answer with
  | ok u =>
      rcases verifyAnswer_single verified with ⟨type, hashed⟩
      rw [sure.faithful.document.condition] at type hashed
      exact ⟨type, hashed, clean⟩
  | error error =>
      rw [verified] at passed
      cases passed

theorem live_eq_some {now : Instant} (shown : live visit now = some preview) :
    visit.preview = some preview := (Option.filter_eq_some_iff.mp shown).1

theorem claimReady_answered (truthful : Truthful p draft w visit)
    (shown : visit.preview = some preview) (ready : claimReady visit preview = true)
    (gated : draft.condition.type = .trivia) : ∃ answer, visit.verifiedAnswer = some answer := by
  have type : (conditionPreview preview).type = .trivia :=
    (truthful.shown preview shown).type.trans gated
  rw [claimReady, Bool.and_eq_true, conditionSatisfied, type] at ready
  apply Option.isSome_iff_exists.mp
  simpa using ready.1

theorem fresh_truthful : Truthful p draft w .fresh where
  key key held := by cases held
  shown preview held := by cases held
  verified answer held := by cases held
  claiming body held := by cases held

def Ordinary (p : Platform Address) (s : Scene Address) : Event Address → Prop
  | .backend act => Dashboard.Ordinary p s.world act
  | .wallet (some publicKey) _ => p.sdk.isValidEd25519PublicKey publicKey = true
  | _ => True

instance (p : Platform Address) (s : Scene Address) : DecidablePred (Ordinary p s)
  | .backend act => inferInstanceAs (Decidable (Dashboard.Ordinary p s.world act))
  | .wallet (some _) _ => inferInstanceAs (Decidable (_ = true))
  | .wallet none _ | .fetch _ | .arrive _ | .countdown | .satisfied _ | .type .. | .check _
  | .verify .. | .hear _ | .press _ | .settled _ => isTrue trivial

theorem wallet_honest {publicKey : Option Text} {elsewhere : Bool} (honest : Honest p draft s)
    (ordinary : Ordinary p s (.wallet publicKey elsewhere)) :
    Honest p draft { s with visit := remount { s.visit with
      publicKey := publicKey, elsewhere := elsewhere } } := by
  have page := honest.page
  apply honest.turn
  apply Truthful.remount
  refine ⟨?_, page.shown, page.verified, page.claiming⟩
  intro key held
  have same : publicKey = some key := held
  subst same
  exact ordinary

theorem fetch_honest (honest : Honest p draft s) (limited : Bool) :
    Honest p draft
      { s with replies := s.replies ++ [previewReply p token s.world.gift limited] } := by
  refine ⟨honest.sure, honest.progress, ?_, honest.checked, honest.page⟩
  intro preview member
  rcases List.mem_append.mp member with old | new
  · exact honest.replied preview old
  · exact previewReply_shown honest.sure (List.mem_singleton.mp new).symm

theorem arrive_honest {k : Nat} {u : Unit} (ran : exec p token s (.arrive k) = .ok (next, u))
    (honest : Honest p draft s) : Honest p draft next := by
  have page := honest.page
  simp only [exec] at ran
  split at ran
  next preview reply =>
    cases ran
    apply honest.turn
    refine ⟨page.key, ?_, page.verified, page.claiming⟩
    intro shown held
    cases held
    exact honest.replied preview (List.mem_of_getElem? reply)
  next =>
    cases ran
    apply honest.turn
    apply Truthful.remount
    exact ⟨page.key, page.shown, page.verified, page.claiming⟩
  next => cases ran

theorem check_honest {now : Instant} {u : Unit} (ran : exec p token s (.check now) = .ok (next, u))
    (honest : Honest p draft s) : Honest p draft next := by
  simp only [exec] at ran
  split at ran
  next =>
    cases ran
    refine ⟨honest.sure, honest.progress, honest.replied, ?_, honest.page⟩
    intro check member verified
    rcases List.mem_append.mp member with old | new
    · exact honest.checked check old verified
    · rw [List.mem_singleton.mp new] at verified
      cases verified
  next => cases ran

theorem verify_honest {k : Nat} {limited : Bool} {u : Unit}
    (ran : exec p token s (.verify k limited) = .ok (next, u)) (honest : Honest p draft s) :
    Honest p draft next := by
  simp only [exec] at ran
  split at ran
  next =>
    cases ran
    refine ⟨honest.sure, honest.progress, honest.replied, ?_, honest.page⟩
    intro check member verified
    rcases List.mem_or_eq_of_mem_set member with old | rfl
    · exact honest.checked check old verified
    · exact answerReply_right honest.sure (Option.some.inj verified)
  next => cases ran

theorem hear_honest {k : Nat} {u : Unit} (ran : exec p token s (.hear k) = .ok (next, u))
    (honest : Honest p draft s) : Honest p draft next := by
  have page := honest.page
  simp only [exec] at ran
  split at ran
  next mounted answer heard =>
    cases ran
    apply honest.turn
    refine ⟨page.key, page.shown, ?_, page.claiming⟩
    intro other held
    cases held
    exact honest.checked _ (List.mem_of_getElem? heard) rfl
  next =>
    cases ran
    exact honest
  next => cases ran

theorem press_honest {now : Instant} {u : Unit} (ran : exec p token s (.press now) = .ok (next, u))
    (honest : Honest p draft s) : Honest p draft next := by
  have page := honest.page
  simp only [exec] at ran
  split at ran
  next preview publicKey shown connected =>
    split at ran
    next allowed =>
      cases ran
      apply honest.turn
      refine ⟨page.key, page.shown, page.verified, ?_⟩
      intro body held
      cases held
      have seen := live_eq_some shown
      exact ⟨page.key publicKey connected, page.verified,
        claimReady_answered page seen allowed.2, (page.shown preview seen).named⟩
    next => cases ran
  next => cases ran

theorem exec_honest {event : Event Address} {u : Unit} (ran : exec p token s event = .ok (next, u))
    (honest : Honest p draft s) (ordinary : Ordinary p s event) : Honest p draft next := by
  have page := honest.page
  cases event with
  | backend act =>
      simp only [exec] at ran
      split at ran
      next moved =>
        cases ran
        exact honest.moved moved ordinary
      next => cases ran
  | wallet publicKey elsewhere =>
      cases ran
      exact wallet_honest honest ordinary
  | fetch limited =>
      cases ran
      exact fetch_honest honest limited
  | arrive k => exact arrive_honest ran honest
  | countdown =>
      cases ran
      exact honest.turn ⟨page.key, page.shown, page.verified, page.claiming⟩
  | satisfied now =>
      simp only [exec] at ran
      split at ran
      next =>
        cases ran
        exact honest.turn ⟨page.key, page.shown, page.verified, page.claiming⟩
      next => cases ran
  | type now answer =>
      simp only [exec] at ran
      split at ran
      next =>
        cases ran
        exact honest.turn ⟨page.key, page.shown, page.verified, page.claiming⟩
      next => cases ran
  | check now => exact check_honest ran honest
  | verify k limited => exact verify_honest ran honest
  | hear k => exact hear_honest ran honest
  | press now => exact press_honest ran honest
  | settled txHash =>
      simp only [exec] at ran
      split at ran
      next =>
        cases ran
        exact honest.turn ⟨page.key, page.shown, page.verified, fun body held => by cases held⟩
      next => cases ran

theorem exec_onward {event : Event Address} {u : Unit} (ran : exec p token s event = .ok (next, u))
    (honest : Honest p draft s) : Onward s.world next.world := by
  cases event with
  | backend act =>
      simp only [exec] at ran
      split at ran
      next moved =>
        cases ran
        exact Dashboard.exec_onward moved honest.sure
      next => cases ran
  | wallet | fetch | countdown =>
      cases ran
      exact .refl _
  | arrive | satisfied | type | check | verify | hear | press | settled =>
      simp only [exec] at ran
      split at ran <;> (try split at ran) <;> cases ran <;> exact .refl _

variable {past : List (Action Address (Escrow.Call Address))} {now : Instant} {sequence : Nat}

theorem opened_honest {claimTokenHash : Text} {input : CreateGiftInput}
    (drafted : createDraft p.rt now claimTokenHash input = .ok draft)
    (apart : ∀ action ∈ past, NotSelfPaid Escrow.Call.payer p.escrow.self action) :
    Honest p draft (.opened (.freshly p past now draft sequence)) where
  sure := freshly_sure drafted apart
  progress := Escrow.run_progress p.escrow past
  replied preview member := by cases member
  checked check member := by cases member
  page := fresh_truthful

theorem run_honest (honest : Honest p draft s) (events : List (Event Address))
    (ordinary : ∀ entry ∈ (machine p token).trace s events,
      Ordinary p entry.before entry.call) :
    Honest p draft ((machine p token).final s events) ∧
      Onward s.world ((machine p token).final s events).world := by
  apply Runs.Machine.state_invariant (m := machine p token) (fun after => Honest p draft after ∧
    Onward s.world after.world) (Ordinary p) _ _ events ordinary
  · exact ⟨honest, .refl _⟩
  · intro before event holds kept
    unfold Runs.Machine.next
    split
    next ran => exact ⟨exec_honest ran holds.1 kept, holds.2.trans (exec_onward ran holds.1)⟩
    next => exact holds

end Promises

section Presses

variable {Address : Type} [LinearOrder Address] {p : Platform Address} {token : Text}
  {draft : GiftDocument} {w : World Address} {s : Scene Address} {body : BuildClaimBody} {id : Nat}
  {record : Escrow.GiftRecord Address}

def claimBuilt (p : Platform Address) (token : Text) (w : World Address) (body : BuildClaimBody) :
    Except Failure Invocation :=
  buildClaimTransaction p.rt body.answer p.sdk w.now [w.gift] token body.claimantPublicKey

def claimAnswer (p : Platform Address) (w : World Address) (body : BuildClaimBody) :
    Option (List UInt8) :=
  (answerPlaintext p.rt w.gift body.answer).map bufferFrom

/-- The link is the gift's, the gift can still be claimed, its receiver asks, and no steps are left
as far as the document knows. -/
structure Claimable (p : Platform Address) (token : Text) (w : World Address)
    (body : BuildClaimBody) : Prop where
  opens : findGiftByToken p.rt [w.gift] token = .ok w.gift
  active : w.gift.status = .active
  timely : w.now.getTime < w.gift.expiresAt.getTime
  receiver : body.claimantPublicKey = w.gift.receiverPublicKey
  steps : w.gift.condition.type = .stepGate → totalSteps w.gift ≤ w.gift.condition.stepsCompleted

theorem Answered.issues (answered : Answered p draft w body) : buildClaimIssues p.sdk body = [] := by
  rw [buildClaimIssues, List.append_eq_nil_iff, stellarPublicKey_eq_nil]
  constructor
  · exact answered.key
  · cases given : body.answer with
    | none => rfl
    | some answer => exact (answered.right answer given).clean

theorem Answered.verified (answered : Answered p draft w body)
    (document : SameTerms draft w.gift) (gated : w.gift.condition.type = .trivia) :
    verified p.rt w.gift body.answer = true := by
  have asks : draft.condition.type = .trivia := by
    rw [document.condition] at gated
    exact gated
  rcases answered.given asks with ⟨answer, given⟩
  have right := answered.right answer given
  apply verified_eq_true.mpr
  refine ⟨answer, given, ?_, ?_⟩
  · intro empty
    have clean := right.clean
    rw [empty] at clean
    exact absurd clean (by decide)
  · rw [document.condition]
    exact right.hashed

theorem claimBuilt_eq (sure : Sure p draft w) (stands : Stands p draft w id record)
    (answered : Answered p draft w body) {built : Invocation} :
    claimBuilt p token w body = .ok built ↔ Claimable p token w body ∧
      ∃ name, p.sdk.address w.gift.receiverPublicKey = some (.address name) ∧
        p.address name = some record.receiver ∧
        built = ⟨body.claimantPublicKey, "claim", [.u64 id, .address name,
          ((answerPlaintext p.rt w.gift body.answer).map
            fun text => ScVal.bytes (bufferFrom text)).getD .void]⟩ := by
  rcases account_eq_some (stands.meets sure).receiver with ⟨name, encoded, known⟩
  have fits := sure.faithful.bounded id stands.created
  have found : ∀ gift, findGiftByToken p.rt [w.gift] token = .ok gift → gift = w.gift := by
    intro gift looked
    exact (findGiftByToken_single.mp looked).2.2
  simp only [claimBuilt, buildClaimTransaction, bind_eq_ok, orApi_eq_ok, orService_eq_ok,
    orFail_eq_ok, claimGates_eq_ok, buildClaimTx, scU64_eq_ok, orThrow_eq_ok, pure_eq_ok]
  constructor
  · intro builds
    rcases builds with ⟨gift, looked, _, ⟨⟨active, timely⟩, receiver, _, steps, _⟩, read, named, _,
      ⟨_, rfl⟩, claimant, address, rfl⟩
    cases found gift looked
    rw [stands.named, bigInt_ofNat] at named
    cases named
    rw [receiver, encoded] at address
    cases address
    exact ⟨⟨looked, active, timely, receiver, steps⟩, name, encoded, known, rfl⟩
  · intro builds
    rcases builds with ⟨claimable, other, same, _, rfl⟩
    have gates := answered.verified sure.faithful.document
    refine ⟨w.gift, claimable.opens, (), ⟨⟨claimable.active, claimable.timely⟩, claimable.receiver,
      gates, claimable.steps, ?_⟩, id, ?_, _, ⟨fits, rfl⟩, _, ?_, rfl⟩
    · rw [stands.named]
      exact truthy_ofNat id
    · rw [stands.named, bigInt_ofNat]
    · rw [claimable.receiver, same]

theorem claimBuilt_ne_wrongAnswer (sure : Sure p draft w) (answered : Answered p draft w body) :
    claimBuilt p token w body ≠ .error (.api wrongAnswerError) := by
  intro refused
  unfold claimBuilt buildClaimTransaction at refused
  cases looked : findGiftByToken p.rt [w.gift] token with
  | error error =>
      rw [looked] at refused
      have same : error = wrongAnswerError := Failure.api.inj (Except.error.inj refused)
      exact absurd (same ▸ looked) findGiftByToken_ne_wrongAnswer
  | ok gift =>
      cases (findGiftByToken_single.mp looked).2.2
      rw [looked] at refused
      change (orApi (claimGates ..) >>= _) = _ at refused
      cases gates : claimGates p.rt w.gift body.answer w.now body.claimantPublicKey with
      | error error =>
          rw [gates] at refused
          have same : error = wrongAnswerError := Failure.api.inj (Except.error.inj refused)
          rcases claimGates_wrongAnswer (same ▸ gates) with ⟨gated, wrong⟩
          rw [answered.verified sure.faithful.document gated] at wrong
          cases wrong
      | ok u =>
          -- past the gates only the services below can fail
          rw [gates] at refused
          change (orService _ >>= _) = _ at refused
          cases read : bigInt w.gift.contractGiftId with
          | error error =>
              rw [read] at refused
              cases refused
          | ok id =>
              rw [read] at refused
              change orService _ = _ at refused
              unfold orService at refused
              split at refused <;> cases refused

theorem checkCondition_iff (sha256 : p.escrow.sha256 = p.rt.sha256) (sure : Sure p draft w)
    (within : ∀ total, record.condition = .stepGate total → record.stepsCompleted ≤ total)
    {condition : ConditionBody} (drafted : draft.condition = toStoredCondition p.rt condition)
    (stands : Stands p draft w id record) (answered : Answered p draft w body) :
    Escrow.checkCondition p.escrow record (claimAnswer p w body) = .ok () ↔
      ¬Escrow.stepsLeft record := by
  rcases (asked_meets stands.lock).condition with ⟨encoding, encodes, read⟩
  have locked : record.condition = onChainCondition p.rt condition :=
    encoded_condition drafted encodes read
  cases condition with
  | none => simp [Escrow.checkCondition, Escrow.stepsLeft, locked, onChainCondition]
  | trivia question answer =>
      have gated : draft.condition.type = .trivia := by rw [drafted]; rfl
      have asks : w.gift.condition.type = .trivia := by
        rw [sure.faithful.document.condition]
        exact gated
      rcases answered.given gated with ⟨raw, given⟩
      have hashed := (answered.right raw given).hashed
      rw [drafted] at hashed
      have same := hashAnswer_eq_iff.mp (Option.some.inj hashed)
      simp only [Escrow.checkCondition, Escrow.stepsLeft, locked, onChainCondition, claimAnswer,
        answerPlaintext, asks, if_true, given, Option.map_some, panicIf_eq_ok, not_not, sha256,
        not_false_eq_true, iff_true]
      exact same
  | stepGate steps unlocker =>
      have atMost := within steps.length locked
      simp only [Escrow.checkCondition, Escrow.stepsLeft, locked, onChainCondition, panicIf_eq_ok,
        not_not, not_lt]
      omega

theorem stepsLeft_earlier {changed : Escrow.GiftRecord Address} (grows : Grows record changed)
    (left : Escrow.stepsLeft changed) : Escrow.stepsLeft record := by
  have condition : changed.condition = record.condition := congrArg Lock.condition grows.lock
  unfold Escrow.stepsLeft at left ⊢
  rw [condition] at left
  split at left
  next => exact lt_of_le_of_lt grows.steps left
  next => exact left

/-- The document's count of steps is never ahead of the chain's. -/
theorem Claimable.finished (claimable : Claimable p token w body) (sure : Sure p draft w)
    (stands : Stands p draft w id record) : ¬Escrow.stepsLeft record := by
  intro left
  unfold Escrow.stepsLeft at left
  split at left
  next total gated =>
    rcases (stands.gate_iff sure).mp gated with ⟨type, rfl⟩
    have behind := sure.behind.cached id record (stands.named ▸ bigInt_ofNat id) stands.stored
    exact absurd left (not_lt.mpr ((claimable.steps type).trans behind))
  next => exact left

structure Payable (p : Platform Address) (env : Env Address) (record : Escrow.GiftRecord Address) :
    Prop where
  isOpen : record.status = .open
  unexpired : env.timestamp < record.expiresAt
  finished : ¬Escrow.stepsLeft record
  taken : env.refuses (Escrow.payout p.escrow record record.receiver) = false

theorem claim_pays_iff (sha256 : p.escrow.sha256 = p.rt.sha256) (sure : Sure p draft w)
    (progress : ∀ id record, w.escrow.gifts.get id = some record → Escrow.Progress record)
    {condition : ConditionBody} (drafted : draft.condition = toStoredCondition p.rt condition)
    (stands : Stands p draft w id record) (answered : Answered p draft w body) (env : Env Address) :
    (∃ after receipt, Escrow.exec p.escrow w.escrow
        (.invoke env (.claim id record.receiver (claimAnswer p w body))) = .ok (after, receipt) ∧
      receipt.transfers = [Escrow.payout p.escrow record record.receiver]) ↔
      env.authorized record.receiver = true ∧ Payable p env record := by
  have checks := checkCondition_iff sha256 sure (progress id record stands.stored).within drafted
    stands answered
  constructor
  · intro goes
    rcases goes with ⟨after, receipt, ran, _⟩
    rcases Escrow.claim_ok_iff.mp ⟨receipt, Runs.Machine.outcome_of_ok ran⟩ with
      ⟨gift, stored, passes, _, taken⟩
    cases stands.stored.symm.trans stored
    exact ⟨passes.authorized, passes.isOpen, passes.unexpired, checks.mp passes.condition, taken⟩
  · intro due
    rcases due with ⟨signed, payable⟩
    have passes : Escrow.Passes p.escrow env record record.receiver (claimAnswer p w body) :=
      ⟨signed, rfl, payable.isOpen, payable.unexpired, checks.mpr payable.finished⟩
    have funded := sure.sound.covers stands.stored payable.isOpen
    rcases Escrow.claim_ok_iff.mpr ⟨record, stands.stored, passes, funded, payable.taken⟩ with
      ⟨receipt, ran⟩
    have claimed : ∃ after, Escrow.exec p.escrow w.escrow
        (.invoke env (.claim id record.receiver (claimAnswer p w body))) = .ok (after, receipt) :=
      ⟨_, Runs.Machine.outcome_eq_ok.mp ran⟩
    rcases claimed with ⟨after, done⟩
    refine ⟨after, receipt, done, ?_⟩
    cases Escrow.exec_step done with
    | claimed _ stored _ _ _ _ paid =>
        cases stands.stored.symm.trans stored
        rw [paid]
        rfl

/-- What becomes, on the ledger of a later world, of the claim that this world's document lets
through: a transaction is answered, and the gift paid out once it is signed, just when the gift can
be paid out by then. -/
structure PaysOut (p : Platform Address) (token : Text) (w later : World Address)
    (body : BuildClaimBody) (id : Nat) (record : Escrow.GiftRecord Address) : Prop where
  answered : ∀ env loaded,
    (∃ tx, buildRoute p later.escrow env loaded (claimBuilt p token w body) = .ok tx) ↔
      loaded = true ∧ Claimable p token w body ∧ Payable p env record
  call : ∀ env loaded tx,
    buildRoute p later.escrow env loaded (claimBuilt p token w body) = .ok tx →
      readCall p.address tx = some (.claim id record.receiver (claimAnswer p w body))
  finished : Claimable p token w body → ¬Escrow.stepsLeft record
  signed : ∀ env : Env Address, (∃ after receipt, Escrow.exec p.escrow later.escrow
      (.invoke env (.claim id record.receiver (claimAnswer p w body))) = .ok (after, receipt) ∧
      receipt.transfers = [Escrow.payout p.escrow record record.receiver]) ↔
    env.authorized record.receiver = true ∧ Payable p env record

theorem Answered.later (answered : Answered p draft w body) {after : World Address}
    (kept : ∀ text, w.gift.contractGiftId = some text → after.gift.contractGiftId = some text) :
    Answered p draft after body where
  key := answered.key
  right := answered.right
  given := answered.given
  named := by
    rcases answered.named with ⟨text, named⟩
    exact ⟨text, kept text named⟩

theorem claimAnswer_eq {after : World Address} (document : SameTerms draft w.gift)
    (later : SameTerms draft after.gift) : claimAnswer p after body = claimAnswer p w body := by
  rw [claimAnswer, claimAnswer, answerPlaintext, answerPlaintext, later.condition,
    document.condition]

theorem claim_transfers {env : Env Address} {answer : Option (List UInt8)}
    {after : Escrow.State Address} {receipt : Escrow.Receipt Address}
    (stored : w.escrow.gifts.get id = some record)
    (ran : Escrow.exec p.escrow w.escrow (.invoke env (.claim id record.receiver answer)) =
      .ok (after, receipt)) :
    receipt.transfers = [Escrow.payout p.escrow record record.receiver] := by
  cases Escrow.exec_step ran with
  | claimed _ found _ _ _ _ paid =>
      cases stored.symm.trans found
      rw [paid]
      rfl

theorem claimBuilt_reads (sure : Sure p draft w) (stands : Stands p draft w id record)
    (answered : Answered p draft w body) {built : Invocation}
    (builds : claimBuilt p token w body = .ok built) :
    readCall p.address built = some (.claim id record.receiver (claimAnswer p w body)) := by
  rcases (claimBuilt_eq sure stands answered).mp builds with ⟨_, name, _, known, rfl⟩
  rw [claimAnswer]
  cases answerPlaintext p.rt w.gift body.answer <;> simp [readCall, known]

theorem Honest.paysOut {after : Scene Address} (honest : Honest p draft s)
    (late : Honest p draft after) (sha256 : p.escrow.sha256 = p.rt.sha256)
    {condition : ConditionBody} (drafted : draft.condition = toStoredCondition p.rt condition)
    (stands : Stands p draft s.world id record) {changed : Escrow.GiftRecord Address}
    (still : Stands p draft after.world id changed) (grows : Grows record changed)
    (answered : Answered p draft s.world body) (answeredLate : Answered p draft after.world body) :
    PaysOut p token s.world after.world body id changed := by
  have receiver : changed.receiver = record.receiver := congrArg Lock.receiver grows.lock
  have same : claimAnswer p after.world body = claimAnswer p s.world body :=
    claimAnswer_eq honest.sure.faithful.document late.sure.faithful.document
  have signed : ∀ env : Env Address, (∃ state receipt, Escrow.exec p.escrow after.world.escrow
      (.invoke env (.claim id changed.receiver (claimAnswer p s.world body))) =
        .ok (state, receipt) ∧
      receipt.transfers = [Escrow.payout p.escrow changed changed.receiver]) ↔
      env.authorized changed.receiver = true ∧ Payable p env changed := by
    intro env
    rw [← same]
    exact claim_pays_iff sha256 late.sure late.progress drafted still answeredLate env
  have read : ∀ built, claimBuilt p token s.world body = .ok built → readCall p.address built =
      some (.claim id changed.receiver (claimAnswer p s.world body)) := by
    intro built builds
    rw [receiver]
    exact claimBuilt_reads honest.sure stands answered builds
  constructor
  · intro env loaded
    have simulated := signed { env with authorized := fun _ => true }
    constructor
    · intro answers
      rcases answers with ⟨tx, answers⟩
      rcases buildRoute_passed answers with ⟨built, checked⟩
      rcases (buildRoute_eq_ok checked (read built checked)).mp answers with
        ⟨found, _, state, receipt, ran⟩
      have payable := (simulated.mp ⟨state, receipt, ran, claim_transfers still.stored ran⟩).2
      exact ⟨found, ((claimBuilt_eq honest.sure stands answered).mp checked).1,
        payable.isOpen, payable.unexpired, payable.finished, payable.taken⟩
    · intro due
      rcases due with ⟨found, claimable, payable⟩
      rcases account_eq_some (stands.meets honest.sure).receiver with ⟨name, encoded, known⟩
      have checked := (claimBuilt_eq honest.sure stands answered).mpr
        ⟨claimable, name, encoded, known, rfl⟩
      rcases simulated.mpr ⟨rfl, payable.isOpen, payable.unexpired, payable.finished,
        payable.taken⟩ with ⟨state, receipt, ran, _⟩
      exact ⟨_, (buildRoute_eq_ok checked (read _ checked)).mpr
        ⟨found, rfl, state, receipt, ran⟩⟩
  · intro env loaded tx answers
    rcases buildRoute_passed answers with ⟨built, checked⟩
    rcases (buildRoute_eq_ok checked (read built checked)).mp answers with ⟨_, rfl, _⟩
    exact read _ checked
  · intro claimable left
    exact claimable.finished honest.sure stands (stepsLeft_earlier grows left)
  · exact signed

end Presses

section Results

variable {Address : Type} [LinearOrder Address]

/-- In every ordinary run of the page beside the other parties, a claim under way is of the draft's
gift and passes the routes' schema. The route's checks pass just when the link is still the gift's
newest, the gift is active and unexpired, the wallet is the receiver's and no steps are left; they
never take the answer for a wrong one. What is then asked for is the claim of that gift by its
receiver, and on the ledger of any later scene it is answered and paid just when it can be. -/
theorem claim_under_way (p : Platform Address) (sha256 : p.escrow.sha256 = p.rt.sha256)
    (past : List (Action Address (Escrow.Call Address)))
    (apart : ∀ action ∈ past, NotSelfPaid Escrow.Call.payer p.escrow.self action) (now : Instant)
    (claimTokenHash : Text) (input : CreateGiftInput) (draft : GiftDocument)
    (drafted : createDraft p.rt now claimTokenHash input = .ok draft) (sequence : Nat)
    (token : Text) (events : List (Event Address))
    (ordinary : ∀ entry ∈ (machine p token).trace (.opened (.freshly p past now draft sequence))
      events, Ordinary p entry.before entry.call) (s : Scene Address)
    (ran : s = (machine p token).final (.opened (.freshly p past now draft sequence)) events)
    (body : BuildClaimBody) (claiming : s.visit.claiming = some body) :
    buildClaimIssues p.sdk body = [] ∧
    ((∃ built, claimBuilt p token s.world body = .ok built) ↔ Claimable p token s.world body) ∧
    claimBuilt p token s.world body ≠ .error (.api wrongAnswerError) ∧
    ∃ id, ∀ later, (∀ entry ∈ (machine p token).trace s later,
        Ordinary p entry.before entry.call) →
      ∃ record, Stands p draft ((machine p token).final s later).world id record ∧
        PaysOut p token s.world ((machine p token).final s later).world body id record := by
  have honest : Honest p draft s :=
    ran.symm ▸ (run_honest (opened_honest drafted apart) events ordinary).1
  have answered := honest.page.claiming body claiming
  rcases answered.named with ⟨text, named⟩
  rcases honest.sure.stands named with ⟨id, record, stands⟩
  refine ⟨answered.issues, ?_, claimBuilt_ne_wrongAnswer honest.sure answered, id, ?_⟩
  · constructor
    · intro builds
      rcases builds with ⟨built, builds⟩
      exact ((claimBuilt_eq honest.sure stands answered).mp builds).1
    · intro claimable
      rcases account_eq_some (stands.meets honest.sure).receiver with ⟨name, encoded, known⟩
      exact ⟨_, (claimBuilt_eq honest.sure stands answered).mpr
        ⟨claimable, name, encoded, known, rfl⟩⟩
  · intro later plain
    have onward := run_honest honest later plain
    rcases stands.later onward.1.sure onward.2 with ⟨changed, still, grows⟩
    have condition : draft.condition = toStoredCondition p.rt input.condition := by
      rcases createDraft_eq_ok drafted with ⟨_, _, _, _, rfl⟩
      rfl
    exact ⟨changed, still, honest.paysOut onward.1 sha256 condition stands still grows answered
      (answered.later onward.2.named)⟩

deriving instance DecidableEq for BuildClaimBody

def sampleTrivia : CreateGiftInput :=
  { sampleInput "10" with condition := .trivia "Where did we meet?".toList "Rome".toList }

def sampleAsked : GiftDocument :=
  { sampleDraft with condition := toStoredCondition sampleRuntime sampleTrivia.condition }

def sampleVisit : List (Event Nat) :=
  (sampleHandOver 0 0).map .backend ++
  [.backend (.settle 0 (Escrow.sampleEnv 5)), .backend (.poll 1),
    .backend (.saveSubmit 1 (hashClaimToken sampleRuntime sampleToken)),
    .wallet (some sampleReceiver) false, .fetch false, .arrive 0, .satisfied sampleStart,
    .type sampleStart " Rome".toList, .check sampleStart, .verify 0 false, .hear 0,
    .press sampleStart]

def sampleScene : Scene Nat :=
  (machine samplePlatform sampleToken).final
    (.opened (.freshly samplePlatform samplePast sampleStart sampleAsked 0)) sampleVisit

theorem claim_under_way_sample :
    Claimable samplePlatform sampleToken sampleScene.world ⟨sampleReceiver, some "Rome".toList⟩ ∧
    ∃ id record, PaysOut samplePlatform sampleToken sampleScene.world sampleScene.world
      ⟨sampleReceiver, some "Rome".toList⟩ id record := by
  have claimable : Claimable samplePlatform sampleToken sampleScene.world
      ⟨sampleReceiver, some "Rome".toList⟩ :=
    ⟨findGiftByToken_single.mpr ⟨by decide +kernel, by decide +kernel, rfl⟩, by decide +kernel,
      by decide +kernel, by decide +kernel, by decide +kernel⟩
  have drafted : createDraft samplePlatform.rt sampleStart [] sampleTrivia = .ok sampleAsked := rfl
  rcases claim_under_way samplePlatform rfl samplePast (by decide +kernel) sampleStart []
    sampleTrivia sampleAsked drafted 0 sampleToken sampleVisit (by decide +kernel) sampleScene rfl
    ⟨sampleReceiver, some "Rome".toList⟩ (by decide +kernel) with ⟨_, _, _, id, becomes⟩
  rcases becomes [] (by simp) with ⟨record, _, paysOut⟩
  rw [Runs.Machine.final_nil] at paysOut
  exact ⟨claimable, id, record, paysOut⟩

end Results

end Giffy.ClaimPage
