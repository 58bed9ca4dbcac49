import Giffy.Chain.GiftEscrow

/-! The request schemas of the gift and contribution routes: what they check, the issues
they report and the defaults they fill in. -/

namespace Giffy.Backend

open Chain

/-- A failed check, by the path of its field; `none` is zod's own text. -/
structure Issue where
  path : List String
  message : Option String
deriving DecidableEq

def check (path : List String) (message : Option String) (holds : Bool) : List Issue :=
  if holds then [] else [⟨path, message⟩]

/-- `length` of a string: its UTF-16 code units. -/
def utf16Length (text : Text) : Nat := (text.map fun c => if c.toNat < 0x10000 then 1 else 2).sum

def stringMin (path : List String) (least : Nat) (text : Text) : List Issue :=
  check path none (least ≤ utf16Length text)

def stringMax (path : List String) (most : Nat) (text : Text) : List Issue :=
  check path none (utf16Length text ≤ most)

def nullish {α : Type} (schema : α → List Issue) : Option α → List Issue
  | none => []
  | some x => schema x

def stellarPublicKey (sdk : Sdk) (path : List String) (value : Text) : List Issue :=
  check path (some "Not a well-formed Stellar public key.") (sdk.isValidEd25519PublicKey value)

/-- `^\d+(\.\d{1,7})?$` without the matches of `^0(\.0{1,7})?$`; both routes' schema files
hold this check. -/
def stellarAmount (path : List String) (value : Text) : List Issue :=
  check path (some "Expected a decimal amount with at most 7 decimal places.")
      (Decimal.isDecimal 7 value) ++
    check path (some "Amount must be greater than zero.") (!Decimal.isPlainZero 7 value)

def isAlphanumeric (c : Char) : Bool := c.isDigit || c.isUpper || c.isLower

def assetCode (path : List String) (value : Text) : List Issue :=
  stringMin path 1 value ++ stringMax path 12 value ++
    check path (some "Asset codes are alphanumeric, 1-12 characters.")
      (value ≠ [] && value.all isAlphanumeric)

def MAX_EXPIRY_SECONDS : Nat := 365 * 24 * 60 * 60

def MIN_EXPIRY_SECONDS : Nat := 60

inductive GiftTheme
  | birthday
  | congrats
  | thankyou
  | custom
deriving DecidableEq

structure ConditionStep where
  label : Text
  description : Text
deriving DecidableEq

inductive ConditionBody
  | none
  | trivia (question answer : Text)
  | stepGate (steps : List ConditionStep) (stepUnlockerPublicKey : Option Text)
deriving DecidableEq

/-- A body whose fields have their JSON types and which has no other fields. -/
structure CreateGiftBody where
  senderPublicKey : Text
  receiverPublicKey : Text
  assetCode : Text
  assetIssuer : Option Text
  amount : Text
  message : Text
  theme : GiftTheme
  expiresInSeconds : ℚ
  isGroupGift : Option Bool
  goalAmount : Option Text
  condition : Option ConditionBody

structure CreateGiftInput where
  senderPublicKey : Text
  receiverPublicKey : Text
  assetCode : Text
  assetIssuer : Option Text
  amount : Text
  message : Text
  theme : GiftTheme
  expiresInSeconds : Nat
  isGroupGift : Bool
  goalAmount : Option Text
  condition : ConditionBody
deriving DecidableEq

/-- The settings the schemas and services read, as the environment's own schema admits them. -/
structure Settings where
  giftMessageMaxLength : Nat
  minContributionAmount : WithTop ℚ
  minContributionAmount_pos : 0 < minContributionAmount

def xlm : Text := "XLM".toList

def conditionStep (path : List String) (step : ConditionStep) : List Issue :=
  stringMin (path ++ ["label"]) 1 step.label ++ stringMax (path ++ ["label"]) 120 step.label ++
    stringMin (path ++ ["description"]) 1 step.description ++
    stringMax (path ++ ["description"]) 280 step.description

def conditionInput (sdk : Sdk) (path : List String) : ConditionBody → List Issue
  | .none => []
  | .trivia question answer =>
      stringMin (path ++ ["question"]) 1 question ++ stringMax (path ++ ["question"]) 280 question ++
        stringMin (path ++ ["answer"]) 1 answer ++ stringMax (path ++ ["answer"]) 280 answer
  | .stepGate steps stepUnlockerPublicKey =>
      check (path ++ ["steps"]) none (1 ≤ steps.length) ++
        check (path ++ ["steps"]) none (steps.length ≤ 20) ++
        (steps.mapIdx fun i step => conditionStep (path ++ ["steps", toString i]) step).flatten ++
        nullish (stellarPublicKey sdk (path ++ ["stepUnlockerPublicKey"])) stepUnlockerPublicKey

/-- A JavaScript string is truthy unless it is missing or empty. -/
def truthy : Option Text → Bool
  | none => false
  | some text => text ≠ []

section Gifts

variable (sdk : Sdk) (settings : Settings)

def createGiftIssues (body : CreateGiftBody) : List Issue :=
  stellarPublicKey sdk ["body", "senderPublicKey"] body.senderPublicKey ++
  stellarPublicKey sdk ["body", "receiverPublicKey"] body.receiverPublicKey ++
  assetCode ["body", "assetCode"] body.assetCode ++
  nullish (stellarPublicKey sdk ["body", "assetIssuer"]) body.assetIssuer ++
  stellarAmount ["body", "amount"] body.amount ++
  stringMin ["body", "message"] 1 body.message ++
  stringMax ["body", "message"] settings.giftMessageMaxLength body.message ++
  check ["body", "expiresInSeconds"] none (body.expiresInSeconds.den = 1) ++
  check ["body", "expiresInSeconds"] none (MIN_EXPIRY_SECONDS ≤ body.expiresInSeconds) ++
  check ["body", "expiresInSeconds"] none (body.expiresInSeconds ≤ MAX_EXPIRY_SECONDS) ++
  nullish (stellarAmount ["body", "goalAmount"]) body.goalAmount ++
  nullish (conditionInput sdk ["body", "condition"]) body.condition ++
  check ["body", "receiverPublicKey"]
    (some "A gift cannot be sent to the sending account itself.")
    (body.senderPublicKey ≠ body.receiverPublicKey) ++
  check ["body", "assetIssuer"] (some "Native XLM has no issuer.")
    (body.assetCode ≠ xlm || !truthy body.assetIssuer) ++
  check ["body", "assetIssuer"] (some "An issuer is required for any asset other than XLM.")
    (body.assetCode = xlm || truthy body.assetIssuer)

def createGiftSchema (body : CreateGiftBody) : Except (List Issue) CreateGiftInput :=
  if createGiftIssues sdk settings body = [] then
    .ok ⟨body.senderPublicKey, body.receiverPublicKey, body.assetCode, body.assetIssuer,
      body.amount, body.message, body.theme, body.expiresInSeconds.num.toNat,
      body.isGroupGift.getD false, body.goalAmount, body.condition.getD .none⟩
  else
    .error (createGiftIssues sdk settings body)

end Gifts

section Contributions

structure ContributeBody where
  contributorPublicKey : Text
  amount : Text

def contributeIssues (sdk : Sdk) (body : ContributeBody) : List Issue :=
  stellarPublicKey sdk ["body", "contributorPublicKey"] body.contributorPublicKey ++
  stellarAmount ["body", "amount"] body.amount

def contributeSchema (sdk : Sdk) (body : ContributeBody) : Except (List Issue) ContributeBody :=
  if contributeIssues sdk body = [] then .ok body else .error (contributeIssues sdk body)

end Contributions

section Accepted

variable {sdk : Sdk} {settings : Settings}

theorem check_eq_nil {path : List String} {message : Option String} {holds : Bool} :
    check path message holds = [] ↔ holds = true := by
  unfold check
  split <;> simp_all

theorem stellarPublicKey_eq_nil {path : List String} {value : Text} :
    stellarPublicKey sdk path value = [] ↔ sdk.isValidEd25519PublicKey value = true :=
  check_eq_nil

theorem stellarAmount_eq_nil {path : List String} {value : Text} :
    stellarAmount path value = [] ↔
      Decimal.isDecimal 7 value = true ∧ Decimal.isPlainZero 7 value = false := by
  rw [stellarAmount, List.append_eq_nil_iff, check_eq_nil, check_eq_nil, Bool.not_eq_true']

structure CreateGiftInput.Checked (sdk : Sdk) (input : CreateGiftInput) : Prop where
  sender : sdk.isValidEd25519PublicKey input.senderPublicKey = true
  receiver : sdk.isValidEd25519PublicKey input.receiverPublicKey = true
  decimal : Decimal.isDecimal 7 input.amount = true
  notPlainZero : Decimal.isPlainZero 7 input.amount = false
  lasts : MIN_EXPIRY_SECONDS ≤ input.expiresInSeconds
  bounded : input.expiresInSeconds ≤ MAX_EXPIRY_SECONDS
  condition : conditionInput sdk ["body", "condition"] input.condition = []

theorem createGiftSchema_checked {body : CreateGiftBody} {input : CreateGiftInput}
    (parsed : createGiftSchema sdk settings body = .ok input) : input.Checked sdk := by
  unfold createGiftSchema at parsed
  split at parsed
  next clean =>
    cases parsed
    simp only [createGiftIssues, List.append_eq_nil_iff, check_eq_nil, stellarPublicKey_eq_nil,
      stellarAmount_eq_nil, decide_eq_true_eq] at clean
    obtain ⟨⟨⟨⟨⟨⟨⟨⟨⟨⟨⟨⟨⟨⟨sender, receiver⟩, _⟩, _⟩, amount⟩, _⟩, _⟩, whole⟩, least⟩, most⟩, _⟩,
      condition⟩, _⟩, _⟩, _⟩ := clean
    have exact : (body.expiresInSeconds.num : ℚ) = body.expiresInSeconds := by
      rw [← Rat.den_eq_one_iff]
      exact whole
    rw [← exact] at least most
    have lower : (MIN_EXPIRY_SECONDS : Int) ≤ body.expiresInSeconds.num := by exact_mod_cast least
    have upper : body.expiresInSeconds.num ≤ (MAX_EXPIRY_SECONDS : Int) := by exact_mod_cast most
    constructor
    · exact sender
    · exact receiver
    · exact amount.1
    · exact amount.2
    · change MIN_EXPIRY_SECONDS ≤ body.expiresInSeconds.num.toNat
      omega
    · change body.expiresInSeconds.num.toNat ≤ MAX_EXPIRY_SECONDS
      omega
    · cases given : body.condition with
      | none => rfl
      | some condition' => simpa [given, nullish] using condition
  next => cases parsed

theorem contributeSchema_decimal {body input : ContributeBody}
    (parsed : contributeSchema sdk body = .ok input) :
    Decimal.isDecimal 7 input.amount = true := by
  unfold contributeSchema at parsed
  split at parsed
  next clean =>
    cases parsed
    rw [contributeIssues, List.append_eq_nil_iff, stellarAmount_eq_nil] at clean
    exact clean.2.1
  next => cases parsed

end Accepted

end Giffy.Backend
