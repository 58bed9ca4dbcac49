import Giffy.Backend.Gates
import Giffy.Chain.ClaimConditions

/-! A gift's claim condition from the request to the chain and back. -/

namespace Giffy.Backend

open Chain

section Contract

def writeCondition : Escrow.ClaimCondition → ScVal
  | .none => .vec [.symbol "None"]
  | .answerHash expected => .vec [.symbol "AnswerHash", .bytes expected.data]
  | .stepGate total => .vec [.symbol "StepGate", .u32 total]

def FitsU32 : Escrow.ClaimCondition → Prop
  | .stepGate total => total < 2 ^ 32
  | _ => True

theorem readCondition_writeCondition (condition : Escrow.ClaimCondition) :
    readCondition (writeCondition condition) = some condition := by
  cases condition with
  | none => rfl
  | answerHash expected =>
      rw [writeCondition, readCondition, readBytes32_data]
      rfl
  | stepGate total => rfl

end Contract

section RoundTrip

variable {js : Coercions} {scValToNative : ScVal → Native}

/-- What the contract writes is decoded, and is encoded again as it was. -/
theorem encode_decode (reads : ReadsConditions scValToNative) {onChain : Escrow.ClaimCondition}
    (fits : FitsU32 onChain) :
    ∃ condition : ConditionInput, condition.Encodable ∧
      decodeCondition js (scValToNative (writeCondition onChain)) =
        .ok condition.toClaimCondition ∧
      encodeCondition condition = .ok (writeCondition onChain) := by
  cases onChain with
  | none => exact ⟨_, .none, decode_none reads, rfl⟩
  | answerHash expected =>
      exact ⟨_, .trivia expected.width, decode_answerHash reads expected.data, rfl⟩
  | stepGate total =>
      exact ⟨_, .stepGate fits, decode_stepGate reads fits, encodeCondition_stepGate fits⟩

end RoundTrip

section Pipeline

variable {sdk : Sdk} {rt : Runtime}

/-- What the chain layer is to give back for the condition of a request. -/
def ofRequest (rt : Runtime) : ConditionBody → ClaimCondition
  | .none => ⟨.none, none, none⟩
  | .trivia _ answer =>
      ⟨.trivia, some (rt.sha256 (utf8 (normalizeAnswer rt answer))).data, none⟩
  | .stepGate steps _ => ⟨.stepGate, none, some (.finite steps.length)⟩

theorem onChainCondition_fits {path : List String} {body : ConditionBody}
    (checked : conditionInput sdk path body = []) : FitsU32 (onChainCondition rt body) := by
  cases body with
  | none => trivial
  | trivia question answer => trivial
  | stepGate steps unlocker =>
      simp only [conditionInput, List.append_eq_nil_iff, check_eq_nil, decide_eq_true_eq] at checked
      exact lt_of_le_of_lt checked.1.1.2 (by decide)

theorem stored_encodes {body : ConditionBody} (fits : FitsU32 (onChainCondition rt body))
    {gift : GiftDocument} (stored : gift.condition = toStoredCondition rt body) :
    encodeCondition (toConditionInput gift) = .ok (writeCondition (onChainCondition rt body)) := by
  cases body with
  | none =>
      rw [toConditionInput, stored]
      rfl
  | trivia question answer =>
      have input : toConditionInput gift =
          ⟨.trivia, some (rt.sha256 (utf8 (normalizeAnswer rt answer))).data, none⟩ := by
        simp only [toConditionInput, stored, toStoredCondition, Option.getD_some, hashAnswer,
          Hex.decode_encode]
      rw [input]
      rfl
  | stepGate steps unlocker =>
      have input : toConditionInput gift = ⟨.stepGate, none, some steps.length⟩ := by
        rw [toConditionInput, stored]
        rfl
      rw [input]
      exact encodeCondition_stepGate fits

theorem onChain_decodes {js : Coercions} {scValToNative : ScVal → Native}
    (reads : ReadsConditions scValToNative) {body : ConditionBody}
    (fits : FitsU32 (onChainCondition rt body)) :
    decodeCondition js (scValToNative (writeCondition (onChainCondition rt body))) =
      .ok (ofRequest rt body) := by
  cases body with
  | none => exact decode_none reads
  | trivia question answer => exact decode_answerHash reads _
  | stepGate steps unlocker => exact decode_stepGate reads fits

variable {Address : Type} [LinearOrder Address] {p : Platform Address} {settings : Settings}

theorem CreatedGift.decodes (made : CreatedGift p settings) {js : Coercions}
    {scValToNative : ScVal → Native} (reads : ReadsConditions scValToNative) :
    Escrow.getGift made.escrow made.id = .ok made.record ∧
      decodeCondition js (scValToNative (writeCondition made.record.condition)) =
        .ok (ofRequest p.rt made.input.condition) := by
  have checked := (createGiftSchema_checked made.parsed).condition
  constructor
  · have stored : made.escrow.gifts.get made.id = some made.record := made.stored
    rw [Escrow.getGift, stored]
    rfl
  · rw [made.condition_eq]
    exact onChain_decodes reads (onChainCondition_fits checked)

/-- The condition of an accepted request comes back from the chain: stored, encoded, read by the
contract, written in its record and decoded; and so it does from the record of any gift that was
created, whatever happened since. Encoding and decoding undo each other on the conditions the
contract has. -/
theorem conditions_survive (p : Platform Address) (settings : Settings) (js : Coercions)
    (scValToNative : ScVal → Native) (reads : ReadsConditions scValToNative) :
    (∀ body input gift, createGiftSchema p.sdk settings body = .ok input →
      gift.condition = toStoredCondition p.rt input.condition →
      ∃ encoded onChain, encodeCondition (toConditionInput gift) = .ok encoded ∧
        readCondition encoded = some onChain ∧
        decodeCondition js (scValToNative (writeCondition onChain)) =
          .ok (ofRequest p.rt input.condition)) ∧
    (∀ made : CreatedGift p settings, Escrow.getGift made.escrow made.id = .ok made.record ∧
      decodeCondition js (scValToNative (writeCondition made.record.condition)) =
        .ok (ofRequest p.rt made.input.condition)) ∧
    (∀ condition : ConditionInput, condition.Encodable →
      ∃ encoded, encodeCondition condition = .ok encoded ∧
        decodeCondition js (scValToNative encoded) = .ok condition.toClaimCondition) ∧
    (∀ onChain, FitsU32 onChain →
      ∃ condition : ConditionInput, condition.Encodable ∧
        decodeCondition js (scValToNative (writeCondition onChain)) =
          .ok condition.toClaimCondition ∧
        encodeCondition condition = .ok (writeCondition onChain)) := by
  refine ⟨?_, ?_, ?_, ?_⟩
  · intro body input gift parsed stored
    have fits : FitsU32 (onChainCondition p.rt input.condition) :=
      onChainCondition_fits (createGiftSchema_checked parsed).condition
    exact ⟨_, _, stored_encodes fits stored, readCondition_writeCondition _,
      onChain_decodes reads fits⟩
  · intro made
    exact made.decodes reads
  · intro condition encodable
    exact decode_encode reads encodable
  · intro onChain fits
    exact encode_decode reads fits

def sampleNative : ScVal → Native
  | .void => .null
  | .symbol name => .string name
  | .bytes data => .buffer data
  | .u32 n => .number (.finite n)
  | .u64 n => .bigint n
  | .i128 n => .bigint n.value
  | .address key => .string (String.ofList key)
  | .vec items => .array (items.map sampleNative)

theorem sampleNative_reads : ReadsConditions sampleNative where
  symbol name := by rw [sampleNative]
  bytes data := by rw [sampleNative]
  u32 n _ := by rw [sampleNative]
  vec items := by rw [sampleNative]

def sampleCoercions : Coercions := ⟨fun _ => .error .sdk, fun _ => .nan, fun _ => ""⟩

def sampleSteps : ConditionBody :=
  .stepGate [⟨"Museum".toList, "Find the blue door.".toList⟩,
    ⟨"Harbour".toList, "Count the boats.".toList⟩] none

theorem conditions_survive_sample :
    ∃ encoded onChain,
      encodeCondition (toConditionInput { sampleDraft with
        condition := toStoredCondition sampleRuntime sampleSteps }) = .ok encoded ∧
      readCondition encoded = some onChain ∧
      decodeCondition sampleCoercions (sampleNative (writeCondition onChain)) =
        .ok ⟨.stepGate, none, some (.finite 2)⟩ :=
  (conditions_survive samplePlatform sampleSettings sampleCoercions sampleNative
    sampleNative_reads).1 { sampleBody "10" with condition := some sampleSteps }
    { sampleInput "10" with condition := sampleSteps } _ (by decide +kernel) rfl

end Pipeline

section Unlocking

def notStepGatedError : ApiError :=
  ⟨"NOT_STEP_GATED", 409, "This gift has no step-based condition."⟩

def findStepGatedGift (gift : Option GiftDocument) : Except ApiError GiftDocument :=
  match gift with
  | none => .error notStepGatedError
  | some gift =>
      if gift.condition.type ≠ .stepGate then .error notStepGatedError else .ok gift

def buildUnlockStepTransaction (sdk : Sdk) (found : Option GiftDocument)
    (unlockerPublicKey : Text) : Except Failure Invocation := do
  let gift ← orApi (findStepGatedGift found)
  let contractGiftId ← orService (bigInt gift.contractGiftId)
  orService (orFail (buildUnlockStepTx sdk ⟨unlockerPublicKey, contractGiftId⟩))

theorem findStepGatedGift_eq_ok {found : Option GiftDocument} {gift : GiftDocument} :
    findStepGatedGift found = .ok gift ↔ found = some gift ∧ gift.condition.type = .stepGate := by
  cases found with
  | none => simp [findStepGatedGift]
  | some read =>
      simp only [findStepGatedGift, Option.some.injEq]
      split
      next other =>
        apply iff_of_false
        · simp
        · intro same
          exact other (same.1 ▸ same.2)
      next gated =>
        constructor
        · intro same
          cases same
          exact ⟨rfl, not_not.mp gated⟩
        · intro same
          rw [same.1]

end Unlocking

end Giffy.Backend
