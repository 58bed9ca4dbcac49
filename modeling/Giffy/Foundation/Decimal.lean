import Giffy.Foundation.Bytes
import Mathlib.Data.Int.Log
import Mathlib.Data.List.TakeWhile
import Mathlib.Data.Rat.Floor
import Mathlib.Algebra.Order.Monoid.Unbundled.WithTop

/-! Decimal texts: their grammar, the rationals they spell, and the binary64 value read
from one. -/

namespace Decimal

def natural (digits : Text) : Nat := Nat.ofDigitChars 10 digits 0

def ofNat (n : Nat) : Text := Nat.toDigits 10 n

def split (text : Text) : Text × Option Text :=
  (text.takeWhile (· ≠ '.'),
    match text.dropWhile (· ≠ '.') with
    | [] => none
    | _ :: fraction => some fraction)

def isRun (digits : Text) : Bool := digits ≠ [] && digits.all Char.isDigit

/-- A run of digits, or one with a point and one to `places` digits after it. -/
def isDecimal (places : Nat) (text : Text) : Bool :=
  isRun (split text).1 &&
    (split text).2.all fun fraction => isRun fraction && fraction.length ≤ places

/-- The decimals of value zero written with a single digit before the point. -/
def isPlainZero (places : Nat) (text : Text) : Bool :=
  isDecimal places text && (split text).1 = ['0'] &&
    (split text).2.all fun fraction => fraction.all (· = '0')

def value (text : Text) : ℚ :=
  natural (split text).1 +
    match (split text).2 with
    | none => 0
    | some fraction => natural fraction / 10 ^ fraction.length

section Value

theorem split_of_integer {text : Text} (noPoint : '.' ∉ text) : split text = (text, none) := by
  have before : ∀ c ∈ text, (c ≠ '.') := by
    intro c member same
    exact noPoint (same ▸ member)
  have taken : text.takeWhile (· ≠ '.') = text := by
    rw [List.takeWhile_eq_self_iff]
    simpa using before
  have dropped : text.dropWhile (· ≠ '.') = [] := by
    rw [List.dropWhile_eq_nil_iff]
    simpa using before
  rw [split, taken, dropped]

theorem value_of_integer {text : Text} (noPoint : '.' ∉ text) : value text = natural text := by
  rw [value, split_of_integer noPoint, add_zero]

theorem isDecimal_of_integer {places : Nat} {text : Text} (noPoint : '.' ∉ text) :
    isDecimal places text = isRun text := by
  rw [isDecimal, split_of_integer noPoint]
  simp

theorem isPlainZero_of_integer {places : Nat} {text : Text} (noPoint : '.' ∉ text) :
    isPlainZero places text = (text = ['0'] : Bool) := by
  rw [isPlainZero, isDecimal_of_integer noPoint, split_of_integer noPoint]
  by_cases single : text = ['0']
  · subst single
    rfl
  · simp [single]

theorem natural_append_singleton (digits : Text) (c : Char) :
    natural (digits ++ [c]) = 10 * natural digits + (c.toNat - 48) := by
  rw [natural, natural, Nat.ofDigitChars_append, Nat.ofDigitChars_cons, Nat.ofDigitChars_nil]
  rfl

@[simp] theorem natural_ofNat (n : Nat) : natural (ofNat n) = n := Nat.ofDigitChars_ten_toDigits

theorem isRun_ofNat (n : Nat) : isRun (ofNat n) = true := by
  simp only [isRun, Bool.and_eq_true, decide_eq_true_eq, List.all_eq_true]
  exact ⟨Nat.toDigits_ne_nil, fun _ member =>
    Nat.isDigit_of_mem_toDigits (by decide) (by decide) member⟩

theorem ofNat_injective : Function.Injective ofNat := Function.LeftInverse.injective natural_ofNat

theorem digit_eq_zero {c : Char} (digit : c.isDigit = true) (zero : c.toNat - 48 = 0) :
    c = '0' := by
  have range : 48 ≤ c.toNat := by
    simp only [Char.isDigit, Bool.and_eq_true, decide_eq_true_eq] at digit
    exact digit.1
  apply Char.toNat_inj.mp
  change c.toNat = 48
  omega

theorem natural_eq_zero {digits : Text} (run : digits.all Char.isDigit = true) :
    natural digits = 0 ↔ ∀ c ∈ digits, c = '0' := by
  induction digits using List.reverseRecOn with
  | nil => simp [natural]
  | append_singleton digits c ih =>
      rw [List.all_append, Bool.and_eq_true] at run
      have last : c.isDigit = true := by simpa using run.2
      rw [natural_append_singleton]
      constructor
      · intro zero d member
        have front : natural digits = 0 := by omega
        rcases List.mem_append.mp member with inside | isLast
        · exact (ih run.1).mp front d inside
        · rw [List.mem_singleton.mp isLast]
          apply digit_eq_zero last
          omega
      · intro zeros
        have front : natural digits = 0 := by
          apply (ih run.1).mpr
          intro d member
          exact zeros d (List.mem_append_left _ member)
        rw [front, zeros c (List.mem_append_right _ List.mem_cons_self)]
        rfl

end Value

section Grammar

inductive Spells (places : Nat) : Text → ℚ → Prop
  | integer {digits : Text} (run : isRun digits = true) : Spells places digits (natural digits)
  | point {whole fraction : Text} (run : isRun whole = true) (run' : isRun fraction = true)
      (short : fraction.length ≤ places) :
      Spells places (whole ++ '.' :: fraction)
        (natural whole + natural fraction / 10 ^ fraction.length)

variable {places : Nat} {text whole fraction : Text}

theorem isRun_iff : isRun text = true ↔ text ≠ [] ∧ ∀ c ∈ text, c.isDigit = true := by
  rw [isRun, Bool.and_eq_true, decide_eq_true_eq, List.all_eq_true]

theorem isRun_of_zeros (nonempty : text ≠ []) (zeros : ∀ c ∈ text, c = '0') :
    isRun text = true := by
  rw [isRun_iff]
  constructor
  · exact nonempty
  · intro c member
    rw [zeros c member]
    rfl

theorem no_point_of_zeros (zeros : ∀ c ∈ text, c = '0') : '.' ∉ text := by
  intro point
  have same := zeros '.' point
  cases same

theorem value_of_zeros (zeros : ∀ c ∈ text, c = '0') : value text = 0 := by
  have digits : text.all Char.isDigit = true := by
    rw [List.all_eq_true]
    intro c member
    rw [zeros c member]
    rfl
  rw [value_of_integer (no_point_of_zeros zeros), (natural_eq_zero digits).mpr zeros,
    Nat.cast_zero]

theorem no_point_of_run (run : isRun whole = true) : '.' ∉ whole := by
  intro point
  exact absurd ((isRun_iff.mp run).2 '.' point) (by decide)

theorem split_of_point (noPoint : '.' ∉ whole) :
    split (whole ++ '.' :: fraction) = (whole, some fraction) := by
  have before : ∀ c ∈ whole, (c ≠ '.' : Bool) = true := by
    intro c member
    rw [decide_eq_true_eq]
    intro same
    exact noPoint (same ▸ member)
  rw [split, List.takeWhile_append_of_pos before, List.dropWhile_append_of_pos before]
  simp

theorem point_cases (text : Text) :
    '.' ∉ text ∨ ∃ whole fraction, text = whole ++ '.' :: fraction ∧ '.' ∉ whole := by
  by_cases point : '.' ∈ text
  · exact Or.inr (List.eq_append_cons_of_mem point)
  · exact Or.inl point

theorem isDecimal_of_point (noPoint : '.' ∉ whole) :
    isDecimal places (whole ++ '.' :: fraction) = true ↔
      isRun whole = true ∧ isRun fraction = true ∧ fraction.length ≤ places := by
  rw [isDecimal, split_of_point noPoint, Option.all_some, Bool.and_eq_true, Bool.and_eq_true,
    decide_eq_true_eq]

theorem isDecimal_iff : isDecimal places text = true ↔
    isRun text = true ∨ ∃ whole fraction, text = whole ++ '.' :: fraction ∧
      isRun whole = true ∧ isRun fraction = true ∧ fraction.length ≤ places := by
  constructor
  · intro decimal
    rcases point_cases text with noPoint | ⟨whole, fraction, rfl, noPoint⟩
    · rw [isDecimal_of_integer noPoint] at decimal
      exact Or.inl decimal
    · exact Or.inr ⟨whole, fraction, rfl, (isDecimal_of_point noPoint).mp decimal⟩
  · intro form
    rcases form with run | ⟨whole, fraction, rfl, parts⟩
    · rw [isDecimal_of_integer (no_point_of_run run)]
      exact run
    · exact (isDecimal_of_point (no_point_of_run parts.1)).mpr parts

theorem isPlainZero_of_point (noPoint : '.' ∉ whole) :
    isPlainZero places (whole ++ '.' :: fraction) = true ↔
      whole = ['0'] ∧ fraction ≠ [] ∧ fraction.length ≤ places ∧ ∀ c ∈ fraction, c = '0' := by
  rw [isPlainZero, Bool.and_eq_true, Bool.and_eq_true, isDecimal_of_point noPoint,
    split_of_point noPoint, decide_eq_true_eq, Option.all_some, List.all_eq_true]
  simp only [decide_eq_true_eq]
  constructor
  · intro plain
    rcases plain with ⟨⟨⟨_, run, short⟩, single⟩, zeros⟩
    exact ⟨single, (isRun_iff.mp run).1, short, zeros⟩
  · intro plain
    rcases plain with ⟨rfl, nonempty, short, zeros⟩
    exact ⟨⟨⟨rfl, isRun_of_zeros nonempty zeros, short⟩, rfl⟩, zeros⟩

theorem isPlainZero_iff : isPlainZero places text = true ↔
    text = ['0'] ∨ ∃ fraction, text = ['0'] ++ '.' :: fraction ∧ fraction ≠ [] ∧
      fraction.length ≤ places ∧ ∀ c ∈ fraction, c = '0' := by
  constructor
  · intro plain
    rcases point_cases text with noPoint | ⟨whole, fraction, rfl, noPoint⟩
    · rw [isPlainZero_of_integer noPoint, decide_eq_true_eq] at plain
      exact Or.inl plain
    · rcases (isPlainZero_of_point noPoint).mp plain with ⟨rfl, rest⟩
      exact Or.inr ⟨fraction, rfl, rest⟩
  · intro form
    rcases form with rfl | ⟨fraction, rfl, rest⟩
    · rfl
    · exact (isPlainZero_of_point (by decide)).mpr ⟨rfl, rest⟩

theorem value_of_point (noPoint : '.' ∉ whole) : value (whole ++ '.' :: fraction) =
    natural whole + natural fraction / 10 ^ fraction.length := by
  rw [value, split_of_point noPoint]

theorem spells_iff {x : ℚ} :
    Spells places text x ↔ isDecimal places text = true ∧ x = value text := by
  constructor
  · intro spells
    cases spells with
    | integer run =>
        have noPoint := no_point_of_run run
        rw [isDecimal_of_integer noPoint, value_of_integer noPoint]
        exact ⟨run, rfl⟩
    | point run run' short =>
        have noPoint := no_point_of_run run
        rw [isDecimal_of_point noPoint, value_of_point noPoint]
        exact ⟨⟨run, run', short⟩, rfl⟩
  · intro decimal
    rcases decimal with ⟨decimal, rfl⟩
    rcases isDecimal_iff.mp decimal with run | ⟨whole, fraction, rfl, run, run', short⟩
    · rw [value_of_integer (no_point_of_run run)]
      exact .integer run
    · rw [value_of_point (no_point_of_run run)]
      exact .point run run' short

theorem value_nonneg (text : Text) : 0 ≤ value text := by
  unfold value
  split <;> positivity

/-- A decimal with a point has value zero exactly when it has no digit but zeros. -/
theorem value_of_point_eq_zero (run : isRun whole = true) (run' : isRun fraction = true) :
    value (whole ++ '.' :: fraction) = 0 ↔ (∀ c ∈ whole, c = '0') ∧ ∀ c ∈ fraction, c = '0' := by
  rw [isRun, Bool.and_eq_true] at run run'
  have noPoint := no_point_of_run (by rw [isRun, Bool.and_eq_true]; exact run)
  have left : (0 : ℚ) ≤ natural whole := Nat.cast_nonneg _
  have right : (0 : ℚ) ≤ natural fraction / 10 ^ fraction.length := by positivity
  have power : (10 : ℚ) ^ fraction.length ≠ 0 := by positivity
  rw [value_of_point noPoint, add_eq_zero_iff_of_nonneg left right, div_eq_zero_iff,
    or_iff_left power, Nat.cast_eq_zero, Nat.cast_eq_zero, natural_eq_zero run.2,
    natural_eq_zero run'.2]

end Grammar

section Binary64

/-- The nearest integer, the even one of two at the same distance. -/
def roundHalfEven (x : ℚ) : Int :=
  let below := ⌊x⌋
  if x - below < 1 / 2 then below
  else if 1 / 2 < x - below then below + 1
  else if below % 2 = 0 then below
  else below + 1

/-- The binary64 value nearest to a nonnegative rational; `⊤` is infinity. -/
def toBinary64 (x : ℚ) : WithTop ℚ :=
  let exponent := max (Int.log 2 x - 52) (-1074)
  let rounded : ℚ := roundHalfEven (x / 2 ^ exponent) * 2 ^ exponent
  if 2 ^ 1024 ≤ rounded then ⊤ else (rounded : WithTop ℚ)

theorem toBinary64_zero : toBinary64 0 = 0 := by
  have whole : roundHalfEven 0 = 0 := by simp [roundHalfEven]
  simp only [toBinary64, zero_div, whole, Int.cast_zero, zero_mul]
  rw [if_neg (by norm_num)]
  rfl

end Binary64

end Decimal
