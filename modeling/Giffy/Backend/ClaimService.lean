import Giffy.Backend.SubmitCreate

/-! Claim links: how a token is looked up, what its preview shows, and what is checked before a
claim or a refund is built. -/

namespace Giffy.Backend

open Chain

section Errors

structure ApiError where
  code : String
  status : Nat
  message : String
deriving DecidableEq

def giftNotFoundError : ApiError := ⟨"GIFT_NOT_FOUND", 404, "This gift link isn't valid."⟩

def invalidGiftStateError (message : String) : ApiError := ⟨"INVALID_GIFT_STATE", 409, message⟩

def claimWindowExpiredError : ApiError :=
  ⟨"CLAIM_EXPIRED", 410, "This gift's claim window has passed."⟩

def notClaimantError : ApiError :=
  ⟨"NOT_CLAIMANT", 403, "This gift can only be claimed by the wallet it was addressed to."⟩

def wrongAnswerError : ApiError :=
  ⟨"WRONG_ANSWER", 409, "That answer isn't quite right — try again."⟩

def stepsNotCompleteError : ApiError :=
  ⟨"STEPS_NOT_COMPLETE", 409, "Not all unlock steps have been completed yet."⟩

def refundNotEligibleError (message : String) : ApiError := ⟨"REFUND_NOT_ELIGIBLE", 409, message⟩

def notYetExpired : String := "This gift hasn't expired yet."

def refuseIf (condition : Prop) [Decidable condition] (error : ApiError) : Except ApiError Unit :=
  if condition then .error error else .ok ()

inductive Failure
  | api (error : ApiError)
  | service (error : ServiceError)

def orApi {α : Type} : Except ApiError α → Except Failure α
  | .ok x => .ok x
  | .error error => .error (.api error)

def orService {α : Type} : Except ServiceError α → Except Failure α
  | .ok x => .ok x
  | .error error => .error (.service error)

theorem refuseIf_eq_ok {condition : Prop} [Decidable condition] {error : ApiError} {u : Unit} :
    refuseIf condition error = .ok u ↔ ¬condition := by
  unfold refuseIf
  split <;> simp_all

theorem refuseIf_eq_error {condition : Prop} [Decidable condition] {refusal error : ApiError} :
    refuseIf condition refusal = .error error ↔ condition ∧ refusal = error := by
  by_cases holds : condition <;> simp [refuseIf, holds]

theorem refuseIf_bind_eq_error {condition : Prop} [Decidable condition] {refusal error : ApiError}
    {α : Type} {rest : Unit → Except ApiError α} :
    (refuseIf condition refusal >>= rest) = .error error ↔
      (condition ∧ refusal = error) ∨ (¬condition ∧ rest () = .error error) := by
  by_cases holds : condition <;> simp [refuseIf, holds, bind, Except.bind]

theorem orApi_eq_ok {α : Type} {ran : Except ApiError α} {x : α} :
    orApi ran = .ok x ↔ ran = .ok x := by
  cases ran <;> simp [orApi]

theorem orService_eq_ok {α : Type} {ran : Except ServiceError α} {x : α} :
    orService ran = .ok x ↔ ran = .ok x := by
  cases ran <;> simp [orService]

end Errors

section Tokens

/-- `^[A-Za-z0-9_-]+$` -/
def isTokenText (token : Text) : Bool :=
  token ≠ [] && token.all fun c => isAlphanumeric c || c = '_' || c = '-'

def isWellFormedClaimToken (rawToken : Text) : Bool :=
  0 < utf16Length rawToken && utf16Length rawToken ≤ 128 && isTokenText rawToken

/-- `gifts` is the collection, and the hash is looked up in it. -/
def findGiftByToken (rt : Runtime) (gifts : List GiftDocument) (rawToken : Text) :
    Except ApiError GiftDocument :=
  if isWellFormedClaimToken rawToken then
    match gifts.find? fun gift => gift.claimTokenHash = hashClaimToken rt rawToken with
    | some gift => .ok gift
    | none => .error giftNotFoundError
  else .error giftNotFoundError

end Tokens

section Preview

structure GiftPreviewDTO where
  assetCode : Text
  amount : Text
  message : Text
  theme : GiftTheme
  senderLabel : Text
  status : GiftStatus
  /-- shown by `toISOString` -/
  expiresAt : Instant
  conditionType : ConditionType
  question : Option Text
deriving DecidableEq

/-- `${publicKey.slice(0, 4)}…${publicKey.slice(-4)}` -/
def toSenderLabel (publicKey : Text) : Text :=
  publicKey.take 4 ++ '…' :: publicKey.drop (publicKey.length - 4)

def toPreview (gift : GiftDocument) : GiftPreviewDTO :=
  ⟨gift.assetCode, gift.amount, gift.message, gift.theme, toSenderLabel gift.senderPublicKey,
    gift.status, gift.expiresAt, gift.condition.type,
    if gift.condition.type = .trivia then gift.condition.question else none⟩

def resolveClaimToken (rt : Runtime) (gifts : List GiftDocument) (rawToken : Text) :
    Except ApiError GiftPreviewDTO := do
  let gift ← findGiftByToken rt gifts rawToken
  refuseIf (gift.status = .draft ∨ gift.status = .pendingChain) giftNotFoundError
  return toPreview gift

end Preview

section Gates

def assertClaimable (now : Instant) (gift : GiftDocument) : Except ApiError Unit :=
  match gift.status with
  | .active => refuseIf (gift.expiresAt.getTime ≤ now.getTime) claimWindowExpiredError
  | .claimed => .error (invalidGiftStateError "This gift has already been claimed.")
  | .refundPending => .error claimWindowExpiredError
  | .refunded => .error claimWindowExpiredError
  | .draft => .error giftNotFoundError
  | .pendingChain => .error giftNotFoundError

def assertRefundable (now : Instant) (gift : GiftDocument) : Except ApiError Unit :=
  match gift.status with
  | .active => refuseIf (now.getTime < gift.expiresAt.getTime) (refundNotEligibleError notYetExpired)
  | .refundPending =>
      refuseIf (now.getTime < gift.expiresAt.getTime) (refundNotEligibleError notYetExpired)
  | .claimed =>
      .error (refundNotEligibleError "This gift was already claimed by its receiver.")
  | .refunded => .error (refundNotEligibleError "This gift has already been reclaimed.")
  | .draft => .error (refundNotEligibleError "This gift was never locked on-chain.")
  | .pendingChain => .error (refundNotEligibleError "This gift was never locked on-chain.")

variable (rt : Runtime) (gift : GiftDocument) (rawAnswer : Option Text)

/-- `Boolean(rawAnswer) && hashAnswer(rawAnswer) === answerHash` -/
def verified : Bool :=
  match rawAnswer with
  | some raw => raw ≠ [] && some (hashAnswer rt raw) = gift.condition.answerHash
  | none => false

/-- The answer goes out as it was hashed, and only for a trivia gift. -/
def answerPlaintext : Option Text :=
  if gift.condition.type = .trivia then rawAnswer.map (normalizeAnswer rt) else none

def totalSteps : Nat := (gift.condition.steps.map List.length).getD 0

variable (sdk : Sdk) (now : Instant)

def claimGates (claimantPublicKey : Text) : Except ApiError Unit := do
  assertClaimable now gift
  refuseIf (claimantPublicKey ≠ gift.receiverPublicKey) notClaimantError
  refuseIf (gift.condition.type = .trivia ∧ verified rt gift rawAnswer = false) wrongAnswerError
  refuseIf (gift.condition.type = .stepGate ∧ gift.condition.stepsCompleted < totalSteps gift)
    stepsNotCompleteError
  refuseIf (truthy gift.contractGiftId = false)
    (invalidGiftStateError "This gift has no on-chain record to claim.")

/-- Advisory: the contract checks the answer of a claim itself. -/
def verifyAnswer (gifts : List GiftDocument) (rawToken answer : Text) : Except ApiError Unit := do
  let gift ← findGiftByToken rt gifts rawToken
  refuseIf (gift.condition.type ≠ .trivia)
    (invalidGiftStateError "This gift has no trivia condition to verify.")
  refuseIf (some (hashAnswer rt answer) ≠ gift.condition.answerHash) wrongAnswerError

def buildClaimTransaction (gifts : List GiftDocument) (rawToken claimantPublicKey : Text) :
    Except Failure Invocation := do
  let gift ← orApi (findGiftByToken rt gifts rawToken)
  orApi (claimGates rt gift rawAnswer now claimantPublicKey)
  let contractGiftId ← orService (bigInt gift.contractGiftId)
  orService (orFail (buildClaimTx sdk
    ⟨claimantPublicKey, contractGiftId, answerPlaintext rt gift rawAnswer⟩))

def buildRefundTransaction (callerPublicKey : Text) : Except Failure Invocation := do
  orApi (assertRefundable now gift)
  orApi (refuseIf (truthy gift.contractGiftId = false)
    (refundNotEligibleError "This gift was never locked on-chain."))
  let contractGiftId ← orService (bigInt gift.contractGiftId)
  orService (orFail (buildRefundTx sdk ⟨callerPublicKey, contractGiftId⟩))

end Gates

section Bodies

def verifyAnswerIssues (answer : Text) : List Issue :=
  stringMin ["body", "answer"] 1 answer ++ stringMax ["body", "answer"] 280 answer

structure BuildClaimBody where
  claimantPublicKey : Text
  answer : Option Text

def buildClaimIssues (sdk : Sdk) (body : BuildClaimBody) : List Issue :=
  stellarPublicKey sdk ["body", "claimantPublicKey"] body.claimantPublicKey ++
    nullish (fun answer => stringMin ["body", "answer"] 1 answer ++
      stringMax ["body", "answer"] 280 answer) body.answer

end Bodies

section Steps

variable {rt : Runtime} {now : Instant} {gift : GiftDocument} {rawAnswer : Option Text}

theorem assertClaimable_eq_ok {u : Unit} :
    assertClaimable now gift = .ok u ↔
      gift.status = .active ∧ now.getTime < gift.expiresAt.getTime := by
  unfold assertClaimable
  split
  next active => rw [refuseIf_eq_ok, not_le, and_iff_right active]
  all_goals
    next other => simp [other]

theorem assertRefundable_eq_ok {u : Unit} :
    assertRefundable now gift = .ok u ↔
      (gift.status = .active ∨ gift.status = .refundPending) ∧
        gift.expiresAt.getTime ≤ now.getTime := by
  unfold assertRefundable
  split
  next active => rw [refuseIf_eq_ok, not_lt, and_iff_right (Or.inl active)]
  next pending => rw [refuseIf_eq_ok, not_lt, and_iff_right (Or.inr pending)]
  all_goals
    next other => simp [other]

theorem claimGates_eq_ok {claimantPublicKey : Text} {u : Unit} :
    claimGates rt gift rawAnswer now claimantPublicKey = .ok u ↔
      (gift.status = .active ∧ now.getTime < gift.expiresAt.getTime) ∧
      claimantPublicKey = gift.receiverPublicKey ∧
      (gift.condition.type = .trivia → verified rt gift rawAnswer = true) ∧
      (gift.condition.type = .stepGate → totalSteps gift ≤ gift.condition.stepsCompleted) ∧
      truthy gift.contractGiftId = true := by
  simp only [claimGates, bind_eq_ok, assertClaimable_eq_ok, refuseIf_eq_ok, exists_const, not_not,
    not_and, Bool.not_eq_false, not_lt]

theorem assertClaimable_ne_wrongAnswer :
    assertClaimable now gift ≠ .error wrongAnswerError := by
  unfold assertClaimable
  intro refused
  split at refused
  next => exact absurd (refuseIf_eq_error.mp refused).2 (by decide)
  all_goals
    exact absurd (Except.error.inj refused) (by decide)

theorem claimGates_wrongAnswer {claimantPublicKey : Text}
    (refused : claimGates rt gift rawAnswer now claimantPublicKey = .error wrongAnswerError) :
    gift.condition.type = .trivia ∧ verified rt gift rawAnswer = false := by
  unfold claimGates at refused
  cases claimable : assertClaimable now gift with
  | error error =>
      rw [claimable] at refused
      have same : error = wrongAnswerError := Except.error.inj refused
      exact absurd (same ▸ claimable) assertClaimable_ne_wrongAnswer
  | ok u =>
      rw [claimable] at refused
      change (refuseIf _ _ >>= _) = _ at refused
      simp only [refuseIf_bind_eq_error, refuseIf_eq_error] at refused
      rcases refused with ⟨_, same⟩ | ⟨_, ⟨wrong, _⟩ | ⟨_, ⟨_, same⟩ | ⟨_, _, same⟩⟩⟩
      · exact absurd same (by decide)
      · exact wrong
      · exact absurd same (by decide)
      · exact absurd same (by decide)

theorem findGiftByToken_single {token : Text} {found : GiftDocument} :
    findGiftByToken rt [gift] token = .ok found ↔
      isWellFormedClaimToken token = true ∧ gift.claimTokenHash = hashClaimToken rt token ∧
        found = gift := by
  simp only [findGiftByToken, List.find?_singleton]
  split
  next wellFormed =>
    rw [and_iff_right wellFormed]
    by_cases hashed : gift.claimTokenHash = hashClaimToken rt token
    · simp [hashed, eq_comm]
    · simp [hashed]
  next malformed => simp [malformed]

theorem findGiftByToken_ne_wrongAnswer {gifts : List GiftDocument} {token : Text} :
    findGiftByToken rt gifts token ≠ .error wrongAnswerError := by
  intro refused
  have same : giftNotFoundError = wrongAnswerError := by
    unfold findGiftByToken at refused
    split at refused
    · split at refused
      · cases refused
      · exact Except.error.inj refused
    · exact Except.error.inj refused
  exact absurd same (by decide)

theorem verifyAnswer_single {token answer : Text} {u : Unit} :
    verifyAnswer rt [gift] token answer = .ok u →
      gift.condition.type = .trivia ∧
        gift.condition.answerHash = some (hashAnswer rt answer) := by
  intro passed
  simp only [verifyAnswer, bind_eq_ok, findGiftByToken_single, refuseIf_eq_ok, not_not,
    exists_const] at passed
  rcases passed with ⟨_, ⟨_, _, rfl⟩, type, hashed⟩
  exact ⟨type, hashed.symm⟩

theorem verified_eq_true :
    verified rt gift rawAnswer = true ↔
      ∃ raw, rawAnswer = some raw ∧ raw ≠ [] ∧
        gift.condition.answerHash = some (hashAnswer rt raw) := by
  cases rawAnswer with
  | none => simp [verified]
  | some raw =>
      simp only [verified, Bool.and_eq_true, decide_eq_true_eq, Option.some.injEq,
        exists_eq_left']
      rw [eq_comm (a := some (hashAnswer rt raw))]

end Steps

end Giffy.Backend
