import Giffy.Backend.Schemas
import Mathlib.Data.List.DropRight

/-! Gift documents and the build half of the create and contribute handshakes. -/

namespace Giffy.Backend

open Chain

inductive GiftStatus
  | draft
  | pendingChain
  | active
  | claimed
  | refundPending
  | refunded
deriving DecidableEq, Repr

structure Instant where
  getTime : Nat
  inRange : getTime ≤ 8640000000000000
deriving DecidableEq

/-- `new Date(now + seconds * 1000)`; outside the range it is an invalid date. -/
def Instant.after (now : Instant) (seconds : Nat) : Option Instant :=
  if inRange : now.getTime + seconds * 1000 ≤ 8640000000000000 then
    some ⟨now.getTime + seconds * 1000, inRange⟩
  else none

inductive ConditionType
  | none
  | trivia
  | stepGate
deriving DecidableEq

structure StoredCondition where
  type : ConditionType
  question : Option Text
  answerHash : Option Text
  steps : Option (List ConditionStep)
  stepsCompleted : Nat
  stepUnlockerPublicKey : Option Text

structure Contribution where
  contributorPublicKey : Text
  amount : Text
  txHash : Text
  contributedAt : Instant

structure GiftDocument where
  senderPublicKey : Text
  receiverPublicKey : Text
  assetCode : Text
  assetIssuer : Option Text
  tokenContractId : Text
  amount : Text
  message : Text
  theme : GiftTheme
  contractGiftId : Option Text
  claimTokenHash : Text
  status : GiftStatus
  txHashCreate : Option Text
  txHashClaim : Option Text
  txHashRefund : Option Text
  expiresAt : Instant
  isGroupGift : Bool
  goalAmount : Option Text
  contributions : List Contribution
  condition : StoredCondition

inductive ServiceError
  | giftNotDraft (message : String)
  | giftNotOpen (message : String)
  | invalidGiftState (message : String)
  /-- `Contributions must be at least ${minimum}.` -/
  | contributionTooSmall (minimum : WithTop ℚ)
  | thrown (thrown : Thrown)
  | error (message : String)
  /-- The document fails its schema and is not saved. -/
  | unsaved
  | badBigInt

def orFail {α : Type} : Except Thrown α → Except ServiceError α
  | .ok x => .ok x
  | .error thrown => .error (.thrown thrown)

structure Runtime where
  sha256 : List UInt8 → BytesN 32
  toLowerCase : Text → Text

def utf8 (text : Text) : List UInt8 := (String.ofList text).toUTF8.toList

/-- White space and line terminators, which `trim` removes. -/
def isTrimmed (c : Char) : Bool :=
  c.toNat ∈ [0x9, 0xA, 0xB, 0xC, 0xD, 0x20, 0xA0, 0x1680, 0x2028, 0x2029, 0x202F, 0x205F, 0x3000,
    0xFEFF] || (0x2000 ≤ c.toNat && c.toNat ≤ 0x200A)

def trim (text : Text) : Text := (text.dropWhile isTrimmed).rdropWhile isTrimmed

section Conditions

variable (rt : Runtime)

def normalizeAnswer (rawAnswer : Text) : Text := rt.toLowerCase (trim rawAnswer)

def hashAnswer (rawAnswer : Text) : Text :=
  Hex.encode (rt.sha256 (utf8 (normalizeAnswer rt rawAnswer))).data

def toStoredCondition : ConditionBody → StoredCondition
  | .none => ⟨.none, none, none, none, 0, none⟩
  | .trivia question answer =>
      ⟨.trivia, some question, some (hashAnswer rt answer), none, 0, none⟩
  | .stepGate steps stepUnlockerPublicKey =>
      ⟨.stepGate, none, none, some steps, 0, stepUnlockerPublicKey⟩

end Conditions

def toConditionInput (gift : GiftDocument) : ConditionInput :=
  match gift.condition.type with
  | .trivia => ⟨.trivia, some (Hex.decode (gift.condition.answerHash.getD [])), none⟩
  | .stepGate => ⟨.stepGate, none, some ((gift.condition.steps.map List.length).getD 0)⟩
  | .none => ⟨.none, none, none⟩

/-- The stellar asset contract of native XLM on the test network. -/
def xlmTokenContract : Text := "CDLZFC3SYJYDZT7K67VZ75HPJVIEUVNIXF47ZG2FB2RMQQVU2HHGCYSC".toList

/-- The table of known contracts is looked up by its own keys only. -/
def resolveTokenContractId (assetCode : Text) (assetIssuer : Option Text) :
    Except ServiceError Text :=
  if assetCode = xlm then .ok xlmTokenContract
  else match assetIssuer with
    | none => .error (.invalidGiftState ("Unknown asset \"" ++ String.ofList assetCode ++
        "\" with no issuer to resolve a SAC for."))
    | some issuer => .ok ("SAC_".toList ++ assetCode ++ "_".toList ++ issuer)

/-- `claimTokenHash` is the hash of a fresh token that nobody is given. -/
def createDraft (rt : Runtime) (now : Instant) (claimTokenHash : Text) (input : CreateGiftInput) :
    Except ServiceError GiftDocument := do
  let tokenContractId ← resolveTokenContractId input.assetCode input.assetIssuer
  match now.after input.expiresInSeconds with
  | none => .error .unsaved
  | some expiresAt =>
      return ⟨input.senderPublicKey, input.receiverPublicKey, input.assetCode, input.assetIssuer,
        tokenContractId, input.amount, input.message, input.theme, none, claimTokenHash, .draft,
        none, none, none, expiresAt, input.isGroupGift, input.goalAmount, [],
        toStoredCondition rt input.condition⟩

def assertBuildable (now : Instant) (gift : GiftDocument) : Except ServiceError Unit :=
  if gift.status ≠ .draft ∧ gift.status ≠ .pendingChain then
    .error (.giftNotDraft "This gift has already been submitted.")
  else if gift.expiresAt.getTime ≤ now.getTime then
    .error (.invalidGiftState
      "This gift draft has expired before it was sent. Please compose it again.")
  else .ok ()

def createGiftParams (rt : Runtime) (gift : GiftDocument) : BuildCreateGiftTxParams :=
  ⟨gift.senderPublicKey, gift.receiverPublicKey, gift.tokenContractId, gift.amount,
    gift.expiresAt.getTime, toConditionInput gift,
    gift.condition.stepUnlockerPublicKey.getD gift.senderPublicKey,
    (rt.sha256 (utf8 gift.message)).data⟩

/-- The built invocation and the document as saved. -/
def buildCreateTransaction (sdk : Sdk) (rt : Runtime) (now : Instant) (gift : GiftDocument) :
    Except ServiceError (Invocation × GiftDocument) := do
  assertBuildable now gift
  let built ← orFail (buildCreateGiftTx sdk (createGiftParams rt gift))
  return (built, { gift with status := .pendingChain })

/-- `BigInt(_)` of a stored id. -/
def bigInt (id : Option Text) : Except ServiceError Nat :=
  match id with
  | some text => if Decimal.isRun text then .ok (Decimal.natural text) else .error .badBigInt
  | none => .error .badBigInt

/-- `Number(_)` of a schema-checked decimal. -/
def number (text : Text) : WithTop ℚ := Decimal.toBinary64 (Decimal.value text)

def buildContributeTransaction (sdk : Sdk) (settings : Settings) (gift : Option GiftDocument)
    (contributorPublicKey amount : Text) : Except ServiceError Invocation :=
  match gift with
  | none => .error (.giftNotOpen "This gift is not currently accepting contributions.")
  | some gift =>
      if gift.status ≠ .active then
        .error (.giftNotOpen "This gift is not currently accepting contributions.")
      else if number amount < settings.minContributionAmount then
        .error (.contributionTooSmall settings.minContributionAmount)
      else do
        let contractGiftId ← bigInt gift.contractGiftId
        orFail (buildContributeTx sdk ⟨contributorPublicKey, contractGiftId, amount⟩)

section Steps

theorem resolveTokenContractId_xlm (issuer : Option Text) :
    resolveTokenContractId xlm issuer = .ok xlmTokenContract := by
  unfold resolveTokenContractId
  exact if_pos rfl

variable {sdk : Sdk} {rt : Runtime} {settings : Settings}

theorem orFail_eq_ok {α : Type} {ran : Except Thrown α} {x : α} :
    orFail ran = .ok x ↔ ran = .ok x := by
  cases ran <;> simp [orFail]

theorem assertBuildable_eq_ok {now : Instant} {gift : GiftDocument} {u : Unit} :
    assertBuildable now gift = .ok u ↔
      (gift.status = .draft ∨ gift.status = .pendingChain) ∧ now.getTime < gift.expiresAt.getTime := by
  unfold assertBuildable
  split
  next closed => simp [closed.1, closed.2]
  next opened =>
    have status : gift.status = .draft ∨ gift.status = .pendingChain := by
      by_cases draft : gift.status = .draft
      · exact Or.inl draft
      · exact Or.inr (not_not.mp fun other => opened ⟨draft, other⟩)
    split
    next late => simp [not_lt.mpr late]
    next timely => simp [status, not_le.mp timely]

theorem buildCreateTransaction_eq_ok {now : Instant} {gift saved : GiftDocument}
    {built : Invocation} :
    buildCreateTransaction sdk rt now gift = .ok (built, saved) ↔
      assertBuildable now gift = .ok () ∧
      buildCreateGiftTx sdk (createGiftParams rt gift) = .ok built ∧
      saved = { gift with status := .pendingChain } := by
  simp only [buildCreateTransaction, bind_eq_ok, orFail_eq_ok, pure_eq_ok, Prod.mk.injEq]
  constructor
  · intro built
    rcases built with ⟨_, buildable, _, made, rfl, rfl⟩
    exact ⟨buildable, made, rfl⟩
  · intro passes
    rcases passes with ⟨buildable, made, rfl⟩
    exact ⟨(), buildable, built, made, rfl, rfl⟩

theorem buildContributeTransaction_eq_ok {gift : Option GiftDocument} {contributor amount : Text}
    {built : Invocation}
    (made : buildContributeTransaction sdk settings gift contributor amount = .ok built) :
    settings.minContributionAmount ≤ number amount ∧
      ∃ encoded, sdk.i128 amount = some encoded ∧ built.args[2]? = some (.i128 encoded) := by
  unfold buildContributeTransaction at made
  cases gift with
  | none => cases made
  | some gift =>
      simp only at made
      split at made
      next => cases made
      next =>
        split at made
        next => cases made
        next enough =>
          rw [bind_eq_ok] at made
          rcases made with ⟨id, _, sent⟩
          exact ⟨not_lt.mp enough, buildContributeTx_eq_ok (orFail_eq_ok.mp sent)⟩

theorem createDraft_eq_ok {now : Instant} {token : Text} {input : CreateGiftInput}
    {gift : GiftDocument} (drafted : createDraft rt now token input = .ok gift) :
    ∃ tokenContractId, resolveTokenContractId input.assetCode input.assetIssuer = .ok tokenContractId ∧
      ∃ expiresAt, now.after input.expiresInSeconds = some expiresAt ∧
      gift = ⟨input.senderPublicKey, input.receiverPublicKey, input.assetCode, input.assetIssuer,
        tokenContractId, input.amount, input.message, input.theme, none, token, .draft,
        none, none, none, expiresAt, input.isGroupGift, input.goalAmount, [],
        toStoredCondition rt input.condition⟩ := by
  rw [createDraft, bind_eq_ok] at drafted
  rcases drafted with ⟨tokenContractId, resolved, drafted⟩
  cases later : now.after input.expiresInSeconds with
  | none =>
      rw [later] at drafted
      cases drafted
  | some expiresAt =>
      rw [later] at drafted
      cases drafted
      exact ⟨tokenContractId, resolved, expiresAt, rfl, rfl⟩

end Steps

end Giffy.Backend
