import Giffy.Chain.GiftEscrow

/-! Claim conditions read back from the contract, through the SDK's `scValToNative`. -/

namespace Giffy.Chain

/-- A JavaScript number, without the sign of zero. -/
inductive Number
  | finite (x : ℚ)
  | infinite (negative : Bool)
  | nan
deriving DecidableEq

inductive Native
  | undefined
  | null
  | string (text : String)
  | number (n : Number)
  | bigint (n : Int)
  | buffer (bytes : List UInt8)
  | array (items : List Native)
  | object

/-- The language's `Buffer.from(_)`, `Number(_)` and `String(_)` of any other value than a
buffer, a number and a string. -/
structure Coercions where
  bufferFrom : Native → Except Thrown (List UInt8)
  number : Native → Number
  string : Native → String

structure ClaimCondition where
  type : ClaimConditionType
  answerHash : Option (List UInt8)
  totalSteps : Option Number
deriving DecidableEq

section Decoding

variable (js : Coercions)

def toBuffer : Native → Except Thrown (List UInt8)
  | .buffer bytes => .ok bytes
  | raw => js.bufferFrom raw

def toNumber : Native → Number
  | .number n => n
  | value => js.number value

def toText : Native → String
  | .string text => text
  | value => js.string value

/-- `values[0]` -/
def firstOf (values : List Native) : Native := values.head?.getD .undefined

def decodeCondition : Native → Except Thrown ClaimCondition
  | .array (tag :: values) =>
      match tag with
      | .string "AnswerHash" => do
          let answerHash ← toBuffer js (firstOf values)
          return ⟨.trivia, some answerHash, none⟩
      | .string "StepGate" => .ok ⟨.stepGate, none, some (toNumber js (firstOf values))⟩
      | .string "None" => .ok ⟨.none, none, none⟩
      | tag => .error (.chain ("Unknown ClaimCondition variant returned by the contract: " ++
          toText js tag))
  | _ => .error (.chain "Malformed ClaimCondition value returned by the contract.")

end Decoding

/-- What is documented of `scValToNative` on the values a condition is made of. -/
structure ReadsConditions (scValToNative : ScVal → Native) : Prop where
  symbol : ∀ name, scValToNative (.symbol name) = .string name
  bytes : ∀ data, scValToNative (.bytes data) = .buffer data
  u32 : ∀ n, n < 2 ^ 32 → scValToNative (.u32 n) = .number (.finite n)
  vec : ∀ items, scValToNative (.vec items) = .array (items.map scValToNative)

inductive ConditionInput.Encodable : ConditionInput → Prop
  | none : Encodable ⟨.none, none, none⟩
  | trivia {answerHash : List UInt8} (width : answerHash.length = 32) :
      Encodable ⟨.trivia, some answerHash, none⟩
  | stepGate {totalSteps : Nat} (fits : totalSteps < 2 ^ 32) :
      Encodable ⟨.stepGate, none, some totalSteps⟩

def ConditionInput.toClaimCondition (condition : ConditionInput) : ClaimCondition :=
  ⟨condition.type, condition.answerHash, condition.totalSteps.map fun n => .finite n⟩

section RoundTrip

variable {js : Coercions} {scValToNative : ScVal → Native}

theorem decode_none (reads : ReadsConditions scValToNative) :
    decodeCondition js (scValToNative (.vec [.symbol "None"])) = .ok ⟨.none, none, none⟩ := by
  rw [reads.vec, List.map_singleton, reads.symbol]
  rfl

theorem decode_answerHash (reads : ReadsConditions scValToNative) (answerHash : List UInt8) :
    decodeCondition js (scValToNative (.vec [.symbol "AnswerHash", .bytes answerHash])) =
      .ok ⟨.trivia, some answerHash, none⟩ := by
  rw [reads.vec, List.map_cons, List.map_singleton, reads.symbol, reads.bytes]
  rfl

theorem decode_stepGate (reads : ReadsConditions scValToNative) {total : Nat}
    (fits : total < 2 ^ 32) :
    decodeCondition js (scValToNative (.vec [.symbol "StepGate", .u32 total])) =
      .ok ⟨.stepGate, none, some (.finite total)⟩ := by
  rw [reads.vec, List.map_cons, List.map_singleton, reads.symbol, reads.u32 total fits]
  rfl

theorem decode_encode (reads : ReadsConditions scValToNative) {condition : ConditionInput}
    (encodable : condition.Encodable) :
    ∃ encoded, encodeCondition condition = .ok encoded ∧
      decodeCondition js (scValToNative encoded) = .ok condition.toClaimCondition := by
  cases encodable with
  | none => exact ⟨_, rfl, decode_none reads⟩
  | trivia => exact ⟨_, rfl, decode_answerHash reads _⟩
  | stepGate fits => exact ⟨_, encodeCondition_stepGate fits, decode_stepGate reads fits⟩

end RoundTrip

end Giffy.Chain
