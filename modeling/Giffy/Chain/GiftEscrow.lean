import Giffy.Foundation.Decimal
import Giffy.Host

/-! The chain layer's builders of escrow invocations, over the parts of the Stellar SDK
they call. -/

namespace Giffy.Chain

inductive ScVal
  | void
  | symbol (name : String)
  | bytes (data : List UInt8)
  | u32 (n : Nat)
  | u64 (n : Nat)
  | i128 (n : I128)
  | address (key : Text)
  | vec (items : List ScVal)

inductive Thrown
  | chain (message : String)
  | sdk
deriving DecidableEq

/-- What the layer calls in the SDK: `StrKey.isValidEd25519PublicKey(_)`,
`new Address(_).toScVal()` and `nativeToScVal(_, { type: 'i128' })`, the last two with
`none` where they throw. -/
structure Sdk where
  isValidEd25519PublicKey : Text → Bool
  address : Text → Option ScVal
  i128 : Text → Option I128

structure Sdk.Documented (sdk : Sdk) : Prop where
  address_of_key : ∀ key, sdk.isValidEd25519PublicKey key = true → (sdk.address key).isSome
  i128_of_digits : ∀ text, Decimal.isRun text = true →
    sdk.i128 text = I128.ofInt? (Decimal.natural text)
  i128_of_point : ∀ text, '.' ∈ text → sdk.i128 text = none

def orThrow {α : Type} : Option α → Except Thrown α
  | some x => .ok x
  | none => .error .sdk

/-- `nativeToScVal(_, { type: 'u32' })` -/
def scU32 (n : Nat) : Except Thrown ScVal :=
  if n < 2 ^ 32 then .ok (.u32 n) else .error .sdk

/-- `nativeToScVal(_, { type: 'u64' })` -/
def scU64 (n : Nat) : Except Thrown ScVal :=
  if n < 2 ^ 64 then .ok (.u64 n) else .error .sdk

inductive ClaimConditionType
  | none
  | trivia
  | stepGate
deriving DecidableEq

structure ConditionInput where
  type : ClaimConditionType
  answerHash : Option (List UInt8)
  totalSteps : Option Nat

def encodeCondition (condition : ConditionInput) : Except Thrown ScVal :=
  match condition.type with
  | .none => .ok (.vec [.symbol "None"])
  | .trivia =>
      match condition.answerHash with
      | none => .error (.chain "A trivia condition requires an answerHash.")
      | some answerHash => .ok (.vec [.symbol "AnswerHash", .bytes answerHash])
  | .stepGate =>
      match condition.totalSteps with
      | none => .error (.chain "A stepGate condition requires totalSteps.")
      | some totalSteps => do
          let total ← scU32 totalSteps
          return .vec [.symbol "StepGate", total]

structure Invocation where
  sourcePublicKey : Text
  method : String
  args : List ScVal

structure BuildCreateGiftTxParams where
  sourcePublicKey : Text
  receiverPublicKey : Text
  tokenContractId : Text
  initialAmount : Text
  /-- `expiresAt.getTime()` -/
  expiresAt : Nat
  condition : ConditionInput
  stepUnlockerPublicKey : Text
  messageHash : List UInt8

section Builders

variable (sdk : Sdk)

def buildCreateGiftTx (params : BuildCreateGiftTxParams) : Except Thrown Invocation := do
  let sender ← orThrow (sdk.address params.sourcePublicKey)
  let receiver ← orThrow (sdk.address params.receiverPublicKey)
  let token ← orThrow (sdk.address params.tokenContractId)
  let initialAmount ← orThrow (sdk.i128 params.initialAmount)
  let expiresAt ← scU64 (params.expiresAt / 1000)
  let condition ← encodeCondition params.condition
  let stepUnlocker ← orThrow (sdk.address params.stepUnlockerPublicKey)
  return ⟨params.sourcePublicKey, "create_gift",
    [sender, receiver, token, .i128 initialAmount, expiresAt, condition, stepUnlocker,
      .bytes params.messageHash]⟩

structure BuildContributeTxParams where
  contributorPublicKey : Text
  contractGiftId : Nat
  amount : Text

def buildContributeTx (params : BuildContributeTxParams) : Except Thrown Invocation := do
  let contributor ← orThrow (sdk.address params.contributorPublicKey)
  let id ← scU64 params.contractGiftId
  let amount ← orThrow (sdk.i128 params.amount)
  return ⟨params.contributorPublicKey, "contribute", [contributor, id, .i128 amount]⟩

structure BuildUnlockStepTxParams where
  unlockerPublicKey : Text
  contractGiftId : Nat

def buildUnlockStepTx (params : BuildUnlockStepTxParams) : Except Thrown Invocation := do
  let unlocker ← orThrow (sdk.address params.unlockerPublicKey)
  let id ← scU64 params.contractGiftId
  return ⟨params.unlockerPublicKey, "unlock_step", [unlocker, id]⟩

structure BuildClaimTxParams where
  claimantPublicKey : Text
  contractGiftId : Nat
  answerPlaintext : Option Text

/-- `Buffer.from(_, 'utf-8')` -/
def bufferFrom (text : Text) : List UInt8 := (String.ofList text).toUTF8.toList

def buildClaimTx (params : BuildClaimTxParams) : Except Thrown Invocation := do
  let id ← scU64 params.contractGiftId
  let claimant ← orThrow (sdk.address params.claimantPublicKey)
  let answer := (params.answerPlaintext.map fun text => ScVal.bytes (bufferFrom text)).getD .void
  return ⟨params.claimantPublicKey, "claim", [id, claimant, answer]⟩

structure BuildRefundTxParams where
  callerPublicKey : Text
  contractGiftId : Nat

def buildRefundTx (params : BuildRefundTxParams) : Except Thrown Invocation := do
  let id ← scU64 params.contractGiftId
  let caller ← orThrow (sdk.address params.callerPublicKey)
  return ⟨params.callerPublicKey, "refund", [id, caller]⟩

end Builders

section Encoding

variable {sdk : Sdk}

theorem orThrow_eq_ok {α : Type} {item : Option α} {x : α} :
    orThrow item = .ok x ↔ item = some x := by
  cases item <;> simp [orThrow]

theorem scU64_eq_ok {n : Nat} {encoded : ScVal} :
    scU64 n = .ok encoded ↔ n < 2 ^ 64 ∧ encoded = .u64 n := by
  unfold scU64
  by_cases fits : n < 2 ^ 64
  · rw [if_pos fits, and_iff_right fits, Except.ok.injEq, eq_comm]
  · rw [if_neg fits]
    exact iff_of_false nofun fun encodes => fits encodes.1

theorem scU32_eq_ok {n : Nat} {encoded : ScVal} :
    scU32 n = .ok encoded ↔ n < 2 ^ 32 ∧ encoded = .u32 n := by
  unfold scU32
  by_cases fits : n < 2 ^ 32
  · rw [if_pos fits, and_iff_right fits, Except.ok.injEq, eq_comm]
  · rw [if_neg fits]
    exact iff_of_false nofun fun encodes => fits encodes.1

theorem encodeCondition_stepGate {total : Nat} (fits : total < 2 ^ 32) :
    encodeCondition ⟨.stepGate, none, some total⟩ =
      .ok (.vec [.symbol "StepGate", .u32 total]) := by
  have encoded : scU32 total = .ok (.u32 total) := scU32_eq_ok.mpr ⟨fits, rfl⟩
  simp only [encodeCondition, encoded]
  rfl

theorem Sdk.Documented.address_ok (documented : sdk.Documented) {key : Text}
    (valid : sdk.isValidEd25519PublicKey key = true) :
    ∃ encoded, orThrow (sdk.address key) = .ok encoded := by
  cases found : sdk.address key with
  | none =>
      have some := documented.address_of_key key valid
      rw [found] at some
      cases some
  | some encoded => exact ⟨encoded, rfl⟩

theorem Sdk.Documented.no_point (documented : sdk.Documented) {text : Text} {a : I128}
    (encoded : sdk.i128 text = some a) : '.' ∉ text := by
  intro point
  rw [documented.i128_of_point text point] at encoded
  cases encoded

/-- A decimal that is encoded at all is encoded as the number it spells, without a unit. -/
theorem Sdk.Documented.i128_unscaled (documented : sdk.Documented) {places : Nat} {text : Text}
    {a : I128} (decimal : Decimal.isDecimal places text = true)
    (encoded : sdk.i128 text = some a) : (a.value : ℚ) = Decimal.value text := by
  have noPoint := documented.no_point encoded
  have run : Decimal.isRun text = true := by
    rw [← Decimal.isDecimal_of_integer noPoint]
    exact decimal
  rw [documented.i128_of_digits text run, I128.ofInt?_eq_some] at encoded
  rw [Decimal.value_of_integer noPoint, encoded, Int.cast_natCast]

theorem buildCreateGiftTx_eq_ok {params : BuildCreateGiftTxParams} {built : Invocation}
    (made : buildCreateGiftTx sdk params = .ok built) :
    ∃ amount, sdk.i128 params.initialAmount = some amount ∧
      built.args[3]? = some (.i128 amount) := by
  simp only [buildCreateGiftTx, bind_eq_ok, orThrow_eq_ok, pure_eq_ok] at made
  rcases made with ⟨_, _, _, _, _, _, amount, encoded, _, _, _, _, _, _, rfl⟩
  exact ⟨amount, encoded, rfl⟩

theorem buildContributeTx_eq_ok {params : BuildContributeTxParams} {built : Invocation}
    (made : buildContributeTx sdk params = .ok built) :
    ∃ amount, sdk.i128 params.amount = some amount ∧ built.args[2]? = some (.i128 amount) := by
  simp only [buildContributeTx, bind_eq_ok, orThrow_eq_ok, pure_eq_ok] at made
  rcases made with ⟨_, _, _, _, amount, encoded, rfl⟩
  exact ⟨amount, encoded, rfl⟩

end Encoding

end Giffy.Chain
