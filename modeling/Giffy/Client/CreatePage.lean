import Giffy.Backend.Amounts
import Giffy.Client.Trustline
import Giffy.Foundation.Runs

/-! The sender's wizard, and what the gift route says to the request it sends. -/

namespace Giffy.CreatePage

open Backend Chain Client

section Form

inductive WizardStep
  | connect
  | compose
  | trustline
  | review
  | success
deriving DecidableEq

structure ComposeState where
  assetCode : Text
  amount : Text
  message : Text
  theme : GiftTheme
  receiverPublicKey : Text
  expiresInSeconds : Nat
  contributionsEnabled : Bool
  goalAmount : Text
  sealAmount : Bool
  conditionType : ConditionType
  triviaQuestion : Text
  triviaAnswer : Text
  steps : List ConditionStep
  stepUnlockerPublicKey : Text

def initialCompose : ComposeState :=
  ⟨xlm, [], [], .birthday, [], 86400, false, [], false, .none, [], [], [], []⟩

def EXPIRY_PRESETS : List Nat := [3600, 86400, 3 * 86400, 7 * 86400]

def MESSAGE_MAX : Nat := 280

inductive Edit
  | assetCode (value : Text)
  | amount (value : Text)
  | receiverPublicKey (value : Text)
  | message (value : Text)
  | theme (value : GiftTheme)
  | expiresInSeconds (seconds : Nat)
  | contributionsEnabled (value : Bool)
  | goalAmount (value : Text)
  | sealAmount (value : Bool)
  | conditionType (value : ConditionType)
  | triviaQuestion (value : Text)
  | triviaAnswer (value : Text)
  | addStep
  | updateLabel (i : Nat) (value : Text)
  | updateDescription (i : Nat) (value : Text)
  | removeStep (i : Nat)
  | stepUnlockerPublicKey (value : Text)

/-- What the inputs let through: an option of a list, a text no longer than its limit. -/
def Edit.possible : Edit → Bool
  | .assetCode value => value ∈ GIFTABLE_ASSETS.map GiftableAsset.code
  | .message value => utf16Length value ≤ MESSAGE_MAX
  | .expiresInSeconds seconds => seconds ∈ EXPIRY_PRESETS
  | _ => true

def ComposeState.edit (form : ComposeState) : Edit → ComposeState
  | .assetCode value => { form with assetCode := value }
  | .amount value => { form with amount := trim value }
  | .receiverPublicKey value => { form with receiverPublicKey := trim value }
  | .message value => { form with message := value }
  | .theme value => { form with theme := value }
  | .expiresInSeconds seconds => { form with expiresInSeconds := seconds }
  | .contributionsEnabled value => { form with contributionsEnabled := value }
  | .goalAmount value => { form with goalAmount := trim value }
  | .sealAmount value => { form with sealAmount := value }
  | .conditionType value => { form with conditionType := value }
  | .triviaQuestion value => { form with triviaQuestion := value }
  | .triviaAnswer value => { form with triviaAnswer := value }
  | .addStep => { form with steps := form.steps ++ [⟨[], []⟩] }
  | .updateLabel i value =>
      { form with steps := form.steps.modify i fun step => { step with label := value } }
  | .updateDescription i value =>
      { form with steps := form.steps.modify i fun step => { step with description := value } }
  | .removeStep i => { form with steps := form.steps.eraseIdx i }
  | .stepUnlockerPublicKey value => { form with stepUnlockerPublicKey := trim value }

def amountAdmissible (amount : Text) : Bool :=
  Decimal.isDecimal 7 amount && decide (0 < number amount)

variable (publicKey : Option Text) (form : ComposeState)

def receiverValid : Bool := isValidPublicKey form.receiverPublicKey

def receiverIsSelf : Bool := receiverValid form && some form.receiverPublicKey = publicKey

def goalValid : Bool :=
  !form.contributionsEnabled || form.goalAmount = [] || amountAdmissible form.goalAmount

def triviaValid : Bool :=
  form.conditionType ≠ .trivia || (trim form.triviaQuestion ≠ [] && trim form.triviaAnswer ≠ [])

def stepGateValid : Bool :=
  form.conditionType ≠ .stepGate ||
    (form.steps ≠ [] && form.steps.all fun step => trim step.label ≠ [])

def composeValid : Bool :=
  amountAdmissible form.amount && trim form.message ≠ [] && receiverValid form &&
    !receiverIsSelf publicKey form && goalValid form && triviaValid form && stepGateValid form

def buildCondition : ConditionBody :=
  match form.conditionType with
  | .trivia => .trivia (trim form.triviaQuestion) (trim form.triviaAnswer)
  | .stepGate =>
      .stepGate form.steps (if trim form.stepUnlockerPublicKey = [] then none
        else some (trim form.stepUnlockerPublicKey))
  | .none => .none

/-- The body that `sendGift` posts; it names no issuer. -/
def request (senderPublicKey : Text) : CreateGiftBody :=
  ⟨senderPublicKey, form.receiverPublicKey, form.assetCode, none, form.amount, trim form.message,
    form.theme, form.expiresInSeconds, some form.contributionsEnabled,
    if form.contributionsEnabled && form.goalAmount ≠ [] then some form.goalAmount else none,
    some (buildCondition form)⟩

end Form

section Wizard

structure Wizard where
  publicKey : Option Text
  step : WizardStep
  form : ComposeState
  trustlineOk : Bool
  isSubmitting : Bool

inductive Event
  | wallet (publicKey : Option Text)
  | edit (edit : Edit)
  | proceed
  /-- the asset needs no trustline, or the account has it -/
  | satisfied
  | back
  | send
  | answered (submitted : Bool)
  | restart

/-- The effect that follows a change of the wallet. -/
def stepFor (publicKey : Option Text) (step : WizardStep) : WizardStep :=
  if publicKey.isSome ∧ step = .connect then .compose
  else if publicKey.isNone ∧ step ≠ .success then .connect
  else step

inductive Refused
  | unavailable

def exec (w : Wizard) : Event → Except Refused (Wizard × Option CreateGiftBody)
  | .wallet publicKey =>
      .ok ({ w with publicKey := publicKey, step := stepFor publicKey w.step }, none)
  | .edit edit =>
      if w.step = .compose ∧ edit.possible = true then
        .ok ({ w with form := w.form.edit edit }, none)
      else .error .unavailable
  | .proceed =>
      if w.step = .compose ∧ composeValid w.publicKey w.form = true then
        .ok ({ w with step := .trustline }, none)
      else .error .unavailable
  | .satisfied =>
      if w.step = .trustline then .ok ({ w with step := .review, trustlineOk := true }, none)
      else .error .unavailable
  | .back =>
      if w.step = .review then .ok ({ w with step := .compose }, none) else .error .unavailable
  | .send =>
      match w.publicKey with
      | none => .error .unavailable
      | some publicKey =>
          if w.step = .review ∧ w.form.sealAmount = false ∧ w.isSubmitting = false then
            .ok ({ w with isSubmitting := true }, some (request w.form publicKey))
          else .error .unavailable
  | .answered submitted =>
      if w.isSubmitting = true then
        .ok ({ w with isSubmitting := false, step := if submitted then .success else w.step }, none)
      else .error .unavailable
  | .restart =>
      if w.step = .success then
        .ok ({ w with
          form := initialCompose
          trustlineOk := false
          step := if w.publicKey.isSome then .compose else .connect }, none)
      else .error .unavailable

abbrev machine : Runs.Machine Wizard Event Refused (Option CreateGiftBody) := ⟨exec⟩

abbrev Entry := Runs.Record Wizard Event Refused (Option CreateGiftBody)

def Wizard.fresh : Wizard := ⟨none, .connect, initialCompose, false, false⟩

end Wizard

section Texts

end Texts

section Requests

variable {sdk : Sdk} {settings : Settings} {form : ComposeState} {senderPublicKey : Text}

structure Ready (form : ComposeState) : Prop where
  amount : amountAdmissible form.amount = true
  message : trim form.message ≠ []
  receiver : receiverValid form = true
  goal : goalValid form = true
  trivia : triviaValid form = true
  steps : stepGateValid form = true

theorem createGiftSchema_ok_iff {body : CreateGiftBody} :
    (∃ input, createGiftSchema sdk settings body = .ok input) ↔
      createGiftIssues sdk settings body = [] := by
  unfold createGiftSchema
  split
  next clean => exact iff_of_true ⟨_, rfl⟩ clean
  next dirty =>
    constructor
    · intro parsed
      rcases parsed with ⟨_, parsed⟩
      cases parsed
    · intro clean
      exact absurd clean dirty

end Requests

section Runs

variable {w after : Wizard} {event : Event} {posted : Option CreateGiftBody}

/-- Past the compose step the form is ready, and its choices are always those offered. -/
structure Composed (w : Wizard) : Prop where
  asset : w.form.assetCode ∈ GIFTABLE_ASSETS.map GiftableAsset.code
  lasts : w.form.expiresInSeconds ∈ EXPIRY_PRESETS
  ready : w.step = .trustline ∨ w.step = .review → Ready w.form

theorem Composed.kept (composed : Composed w) (same : after.form = w.form)
    (past : after.step = .trustline ∨ after.step = .review → w.step = .trustline ∨ w.step = .review) :
    Composed after where
  asset := same ▸ composed.asset
  lasts := same ▸ composed.lasts
  ready here := same ▸ composed.ready (past here)

theorem exec_posted {body : CreateGiftBody} (ran : exec w event = .ok (after, some body)) :
    w.step = .review ∧ ∃ key, w.publicKey = some key ∧ body = request w.form key := by
  cases event with
  | send =>
      simp only [exec] at ran
      split at ran
      next => cases ran
      next publicKey connected =>
        split at ran
        next allowed =>
          cases ran
          exact ⟨allowed.1, publicKey, connected, rfl⟩
        next => cases ran
  | wallet publicKey => cases ran
  | _ =>
      simp only [exec] at ran
      split at ran
      next => cases ran
      next => cases ran

def sampleEdits : List Event :=
  [.wallet (some sampleSender), .edit (.amount " 10".toList),
    .edit (.message "Happy birthday!".toList), .edit (.receiverPublicKey sampleReceiver),
    .edit (.expiresInSeconds 3600), .proceed, .satisfied]

def sampleReview : Wizard := machine.final Wizard.fresh sampleEdits

theorem sampleReview_sends : machine.record sampleReview .send ∈
    machine.trace Wizard.fresh (sampleEdits ++ [.send]) := by
  rw [Runs.Machine.trace_append]
  exact List.mem_append_right _ (List.mem_singleton_self _)

theorem sampleReview_posts : machine.exec sampleReview .send =
    .ok ({ sampleReview with isSubmitting := true },
      some (request sampleReview.form sampleSender)) := by
  have connected : sampleReview.publicKey = some sampleSender := by decide +kernel
  have ready : sampleReview.step = .review ∧ sampleReview.form.sealAmount = false ∧
      sampleReview.isSubmitting = false := by decide +kernel
  simp only [exec, connected, if_pos ready]

end Runs

end Giffy.CreatePage
