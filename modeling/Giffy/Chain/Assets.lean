import Giffy.Chain.GiftEscrow
import Giffy.Foundation.Patterns

/-! The chain layer's assets and its check of an amount held as a text. -/

namespace Giffy.Chain

structure Asset where
  code : Text
  issuer : Option Text
deriving DecidableEq

def NATIVE_ASSET_CODE : Text := "XLM".toList

def Asset.native : Asset := ⟨NATIVE_ASSET_CODE, none⟩

def Asset.isNative (asset : Asset) : Bool := asset.issuer.isNone

/-- `new Asset(_, _)` of a code and an issuer. -/
def newAsset (sdk : Sdk) (code issuer : Text) : Except Thrown Asset :=
  if code ≠ [] ∧ code.length ≤ 12 ∧ code.all Char.isAlphanum ∧
      sdk.isValidEd25519PublicKey issuer then
    .ok ⟨if code.map Char.toLower = "xlm".toList then NATIVE_ASSET_CODE else code, some issuer⟩
  else .error .sdk

theorem newAsset_eq_ok {sdk : Sdk} {code issuer : Text} {asset : Asset}
    (made : newAsset sdk code issuer = .ok asset) (notNative : code.map Char.toLower ≠ "xlm".toList) :
    asset = ⟨code, some issuer⟩ := by
  rw [newAsset, if_neg notNative] at made
  split at made
  · cases made
    rfl
  · cases made

section Amounts

open Pattern RegularExpression

def anyDigit : RegularExpression Char := oneOf "0123456789".toList

/-- `^\d+(\.\d{1,7})?$` -/
def AMOUNT_PATTERN : RegularExpression Char :=
  oneOrMore anyDigit * optional (char '.' * oneTo anyDigit 7)

def zeroDigit : RegularExpression Char := oneOf ['0']

/-- `^0(\.0{1,7})?$` -/
def ZERO_PATTERN : RegularExpression Char := zeroDigit * optional (char '.' * oneTo zeroDigit 7)

def assertValidAmount (amount : Text) : Except Thrown Unit :=
  if !AMOUNT_PATTERN.rmatch amount then
    .error (.chain ("Invalid amount \"" ++ String.ofList amount ++
      "\": expected a positive decimal string with at most 7 decimal places."))
  else if ZERO_PATTERN.rmatch amount then .error (.chain "Amount must be greater than zero.")
  else .ok ()

example : assertValidAmount "9999999999.9999999".toList = .ok () := by decide +kernel

theorem mem_digits {c : Char} : c ∈ "0123456789".toList ↔ c.isDigit = true := by
  constructor
  · intro member
    exact List.all_eq_true.mp (by decide : "0123456789".toList.all Char.isDigit = true) c member
  · intro isDigit
    have every : ∀ n : Fin 10, Char.ofNat (48 + n) ∈ "0123456789".toList := by decide
    have range : 48 ≤ c.toNat ∧ c.toNat ≤ 57 := by
      simp only [Char.isDigit, Bool.and_eq_true, decide_eq_true_eq] at isDigit
      exact isDigit
    have member := every ⟨c.toNat - 48, by omega⟩
    rwa [Nat.add_sub_cancel' range.1, Char.ofNat_toNat] at member

theorem digits_rmatch {text : Text} :
    (oneOrMore anyDigit).rmatch text ↔ Decimal.isRun text = true := by
  rw [anyDigit, oneOrMore_oneOf_rmatch, Decimal.isRun_iff]
  simp only [mem_digits]

theorem places_rmatch {places : Nat} (positive : 0 < places) {text : Text} :
    (oneTo anyDigit places).rmatch text ↔ Decimal.isRun text = true ∧ text.length ≤ places := by
  rw [anyDigit, oneTo_oneOf_rmatch positive, Decimal.isRun_iff]
  simp only [mem_digits]
  tauto

theorem AMOUNT_PATTERN_rmatch (amount : Text) :
    AMOUNT_PATTERN.rmatch amount = Decimal.isDecimal 7 amount := by
  rw [Bool.eq_iff_iff, AMOUNT_PATTERN, marked_rmatch, Decimal.isDecimal_iff, digits_rmatch]
  simp only [digits_rmatch, places_rmatch (show 0 < 7 by decide)]

theorem zeroDigit_rmatch {text : Text} : zeroDigit.rmatch text ↔ text = ['0'] := by
  rw [zeroDigit, oneOf_rmatch]
  simp only [List.mem_singleton, exists_eq_left]

theorem ZERO_PATTERN_rmatch (amount : Text) :
    ZERO_PATTERN.rmatch amount = Decimal.isPlainZero 7 amount := by
  have zeros : ∀ {text : Text}, (oneTo zeroDigit 7).rmatch text ↔
      text ≠ [] ∧ text.length ≤ 7 ∧ ∀ c ∈ text, c = '0' := by
    intro text
    rw [zeroDigit, oneTo_oneOf_rmatch (by decide)]
    simp only [List.mem_singleton]
  rw [Bool.eq_iff_iff, ZERO_PATTERN, marked_rmatch, Decimal.isPlainZero_iff, zeroDigit_rmatch]
  apply or_congr Iff.rfl
  constructor
  · intro split
    rcases split with ⟨front, fraction, rfl, single, rest⟩
    rw [zeroDigit_rmatch.mp single]
    exact ⟨fraction, rfl, zeros.mp rest⟩
  · intro split
    rcases split with ⟨fraction, rfl, rest⟩
    exact ⟨['0'], fraction, rfl, zeroDigit_rmatch.mpr rfl, zeros.mpr rest⟩

theorem assertValidAmount_eq_ok {amount : Text} : assertValidAmount amount = .ok () ↔
    Decimal.isDecimal 7 amount = true ∧ Decimal.isPlainZero 7 amount = false := by
  rw [assertValidAmount, AMOUNT_PATTERN_rmatch, ZERO_PATTERN_rmatch]
  cases Decimal.isDecimal 7 amount <;> cases Decimal.isPlainZero 7 amount <;> simp

end Amounts

end Giffy.Chain
