import Mathlib.Data.List.Induction
import Mathlib.Tactic.Ring

/-! Fixed-width big-endian integers and lowercase hexadecimal text. -/

abbrev Text := List Char

namespace Bytes

/-- The unsigned integer a byte string spells, first byte most significant. -/
def value (bytes : List UInt8) : Nat := bytes.foldl (fun acc b => acc * 256 + b.toNat) 0

/-- The last `width` big-endian bytes of `n`. -/
def encode : Nat → Nat → List UInt8
  | 0, _ => []
  | width + 1, n => encode width (n / 256) ++ [UInt8.ofNat n]

theorem value_append_singleton (bytes : List UInt8) (b : UInt8) :
    value (bytes ++ [b]) = value bytes * 256 + b.toNat := by
  simp [value, List.foldl_append]

@[simp] theorem encode_length (width n : Nat) : (encode width n).length = width := by
  induction width generalizing n with
  | zero => rfl
  | succ width ih => simp [encode, ih]

theorem value_zeros_append (pad : Nat) (bytes : List UInt8) :
    value (List.replicate pad 0 ++ bytes) = value bytes := by
  have zeros : (List.replicate pad (0 : UInt8)).foldl (fun acc b => acc * 256 + b.toNat) 0 = 0 := by
    induction pad with
    | zero => rfl
    | succ pad ih => simpa [List.replicate_succ] using ih
  rw [value, List.foldl_append, zeros, value]

theorem value_lt (bytes : List UInt8) : value bytes < 256 ^ bytes.length := by
  induction bytes using List.reverseRecOn with
  | nil => simp [value]
  | append_singleton bytes b ih =>
      rw [value_append_singleton, List.length_append, List.length_singleton, pow_succ]
      have small : b.toNat < 256 := b.toNat_lt
      omega

theorem value_encode (width n : Nat) : value (encode width n) = n % 256 ^ width := by
  induction width generalizing n with
  | zero => simp [encode, value, Nat.mod_one]
  | succ width ih =>
      calc
        value (encode (width + 1) n) =
            value (encode width (n / 256)) * 256 + (UInt8.ofNat n).toNat :=
          value_append_singleton _ _
        _ = n / 256 % 256 ^ width * 256 + n % 256 := by
          rw [ih, UInt8.toNat_ofNat']
        _ = n % (256 * 256 ^ width) := by
          rw [Nat.mod_mul]
          ring
        _ = n % 256 ^ (width + 1) := by
          rw [pow_succ, Nat.mul_comm]

theorem value_encode_of_lt {width n : Nat} (bound : n < 256 ^ width) :
    value (encode width n) = n := by
  rw [value_encode, Nat.mod_eq_of_lt bound]

theorem encode_value (bytes : List UInt8) : encode bytes.length (value bytes) = bytes := by
  induction bytes using List.reverseRecOn with
  | nil => rfl
  | append_singleton bytes b ih =>
      have small : b.toNat < 256 := b.toNat_lt
      have quotient : (value bytes * 256 + b.toNat) / 256 = value bytes := by omega
      have low : UInt8.ofNat (value bytes * 256 + b.toNat) = b := by
        apply UInt8.toNat_inj.mp
        rw [UInt8.toNat_ofNat']
        omega
      calc
        encode (bytes ++ [b]).length (value (bytes ++ [b])) =
            encode (bytes.length + 1) (value bytes * 256 + b.toNat) := by
          rw [List.length_append, List.length_singleton, value_append_singleton]
        _ = encode bytes.length (value bytes) ++ [b] := by
          rw [encode, quotient, low]
        _ = bytes ++ [b] := by
          rw [ih]

theorem value_injective {left right : List UInt8} (width : left.length = right.length)
    (same : value left = value right) : left = right := by
  rw [← encode_value left, ← encode_value right, width, same]

end Bytes

namespace Hex

def digit (n : Nat) : Char := if n < 10 then Char.ofNat (48 + n) else Char.ofNat (87 + n)

def digitValue (c : Char) : Option Nat :=
  if '0' ≤ c ∧ c ≤ '9' then some (c.toNat - 48)
  else if 'a' ≤ c ∧ c ≤ 'f' then some (c.toNat - 87)
  else if 'A' ≤ c ∧ c ≤ 'F' then some (c.toNat - 55)
  else none

def pair (b : UInt8) : Text := [digit (b.toNat / 16), digit (b.toNat % 16)]

def encode (bytes : List UInt8) : Text := bytes.flatMap pair

/-- Reads two digits a byte and stops at the first pair that is not hex. -/
def decode : Text → List UInt8
  | high :: low :: rest =>
      match digitValue high, digitValue low with
      | some h, some l => UInt8.ofNat (h * 16 + l) :: decode rest
      | _, _ => []
  | _ => []

theorem digit_cases {P : Char → Nat → Prop} (every : ∀ n : Fin 16, P (digit n) n) {n : Nat}
    (bound : n < 16) : P (digit n) n := every ⟨n, bound⟩

theorem digitValue_digit {n : Nat} (bound : n < 16) : digitValue (digit n) = some n :=
  digit_cases (P := fun c n => digitValue c = some n) (by decide) bound

theorem toLower_digit {n : Nat} (bound : n < 16) : (digit n).toLower = digit n :=
  digit_cases (P := fun c _ => c.toLower = c) (by decide) bound

theorem digit_ne_newline {n : Nat} (bound : n < 16) : digit n ≠ '\n' :=
  digit_cases (P := fun c _ => c ≠ '\n') (by decide) bound

theorem digit_ne_x {n : Nat} (bound : n < 16) : digit n ≠ 'x' :=
  digit_cases (P := fun c _ => c ≠ 'x') (by decide) bound

theorem digit_ne_plus {n : Nat} (bound : n < 16) : digit n ≠ '+' :=
  digit_cases (P := fun c _ => c ≠ '+') (by decide) bound

theorem high_lt (b : UInt8) : b.toNat / 16 < 16 := by
  have small : b.toNat < 256 := b.toNat_lt
  omega

theorem low_lt (b : UInt8) : b.toNat % 16 < 16 := Nat.mod_lt _ (by decide)

theorem decode_encode (bytes : List UInt8) : decode (encode bytes) = bytes := by
  induction bytes with
  | nil => rfl
  | cons b bytes ih =>
      have halves : UInt8.ofNat (b.toNat / 16 * 16 + b.toNat % 16) = b := by
        rw [Nat.div_add_mod', UInt8.ofNat_toNat]
      change decode (digit (b.toNat / 16) :: digit (b.toNat % 16) :: encode bytes) = _
      rw [decode, digitValue_digit (high_lt b), digitValue_digit (low_lt b)]
      simp only [halves, ih]

theorem encode_injective {left right : List UInt8} (same : encode left = encode right) :
    left = right := by
  have decoded := congrArg decode same
  rwa [decode_encode, decode_encode] at decoded

@[simp] theorem encode_length (bytes : List UInt8) : (encode bytes).length = 2 * bytes.length := by
  induction bytes with
  | nil => rfl
  | cons b bytes ih =>
      change (pair b ++ encode bytes).length = _
      simp only [List.length_append, List.length_cons, ih, pair, List.length_nil]
      omega

theorem encode_chars {P : Char → Prop} (every : ∀ n, n < 16 → P (digit n)) (bytes : List UInt8) :
    ∀ c ∈ encode bytes, P c := by
  intro c member
  rcases List.mem_flatMap.mp member with ⟨b, _, inPair⟩
  simp only [pair, List.mem_cons, List.not_mem_nil, or_false] at inPair
  rcases inPair with rfl | rfl
  · exact every _ (high_lt b)
  · exact every _ (low_lt b)

theorem map_toLower_encode (bytes : List UInt8) :
    (encode bytes).map Char.toLower = encode bytes := by
  conv_rhs => rw [← List.map_id (encode bytes)]
  exact List.map_congr_left fun c member =>
    encode_chars (P := fun c => c.toLower = c) (fun n => toLower_digit) bytes c member

section Numbers

def lastDigits : Nat → Nat → Text
  | 0, _ => []
  | width + 1, n => lastDigits width (n / 16) ++ [digit (n % 16)]

theorem lastDigits_zero (width : Nat) : lastDigits width 0 = List.replicate width '0' := by
  induction width with
  | zero => rfl
  | succ width ih =>
      calc
        lastDigits (width + 1) 0 = lastDigits width 0 ++ ['0'] := rfl
        _ = List.replicate (width + 1) '0' := by
          rw [ih, List.replicate_succ']

theorem digitChar_eq {n : Nat} (bound : n < 16) : n.digitChar = digit n :=
  (by decide : ∀ n : Fin 16, n.val.digitChar = digit n) ⟨n, bound⟩

theorem leftpad_append_singleton (width : Nat) (pad last : Char) (text : Text) :
    (text ++ [last]).leftpad (width + 1) pad = text.leftpad width pad ++ [last] := by
  simp [List.leftpad]

theorem leftpad_toDigits {width n : Nat} (bound : n < 16 ^ (width + 1)) :
    (Nat.toDigits 16 n).leftpad (width + 1) '0' = lastDigits (width + 1) n := by
  induction width generalizing n with
  | zero =>
      have small : n < 16 := by simpa using bound
      rw [Nat.toDigits_of_lt_base small, lastDigits, Nat.mod_eq_of_lt small, digitChar_eq small]
      rfl
  | succ width ih =>
      by_cases small : n < 16
      · rw [Nat.toDigits_of_lt_base small, lastDigits, Nat.div_eq_of_lt small, lastDigits_zero,
          Nat.mod_eq_of_lt small, digitChar_eq small]
        rfl
      · have upper : n / 16 < 16 ^ (width + 1) := by
          apply Nat.div_lt_of_lt_mul
          rwa [← Nat.pow_succ']
        rw [Nat.toDigits_of_base_le (by decide) (Nat.le_of_not_lt small), leftpad_append_singleton,
          ih upper, digitChar_eq (Nat.mod_lt _ (by decide))]
        rfl

theorem encode_bytes (width n : Nat) :
    encode (Bytes.encode width n) = lastDigits (2 * width) n := by
  induction width generalizing n with
  | zero => rfl
  | succ width ih =>
      have low : (UInt8.ofNat n).toNat = n % 256 := UInt8.toNat_ofNat'
      have high_digit : n % 256 / 16 = n / 16 % 16 := by omega
      have low_digit : n % 256 % 16 = n % 16 := by omega
      have rest : n / 256 = n / 16 / 16 := by omega
      calc
        encode (Bytes.encode (width + 1) n) =
            encode (Bytes.encode width (n / 256)) ++ pair (UInt8.ofNat n) := by
          rw [Bytes.encode, encode, List.flatMap_append]
          simp [encode]
        _ = lastDigits (2 * width) (n / 16 / 16) ++ [digit (n / 16 % 16), digit (n % 16)] := by
          rw [ih, pair, low, high_digit, low_digit, rest]
        _ = lastDigits (2 * (width + 1)) n := by
          rw [Nat.mul_succ, lastDigits, lastDigits, List.append_assoc]
          rfl

end Numbers

section Reading

theorem digit_digitValue {c : Char} {n : Nat} (read : digitValue c = some n) :
    n < 16 ∧ digit n = c.toLower := by
  have ascii : c.toNat < 128 := by
    by_contra wide
    have none : digitValue c = none := by
      have above : ∀ last : Char, last.toNat < 128 → ¬c ≤ last := by
        intro last small below
        have : c.toNat ≤ last.toNat := below
        omega
      simp [digitValue, above]
    rw [none] at read
    cases read
  have every : ∀ k : Fin 128, (digitValue (Char.ofNat k)).all
      (fun n => n < 16 && digit n == (Char.ofNat k).toLower) = true := by
    decide +kernel
  have here := every ⟨c.toNat, ascii⟩
  rw [Char.ofNat_toNat, read] at here
  simpa using here

theorem digitValue_toLower (c : Char) : digitValue c.toLower = digitValue c := by
  by_cases ascii : c.toNat < 128
  · have every : ∀ k : Fin 128, digitValue (Char.ofNat k).toLower = digitValue (Char.ofNat k) := by
      decide +kernel
    have here := every ⟨c.toNat, ascii⟩
    rwa [Char.ofNat_toNat] at here
  · have same : c.toLower = c := by
      unfold Char.toLower
      rw [dif_neg]
      rintro ⟨_, below⟩
      have high : c.toNat ≤ 90 := below
      omega
    rw [same]

theorem decode_lower (text : Text) : decode (text.map Char.toLower) = decode text := by
  fun_induction decode text with
  | case1 high low rest h l highRead lowRead ih =>
      rw [List.map_cons, List.map_cons, decode, digitValue_toLower, digitValue_toLower, highRead,
        lowRead, ih]
  | case2 high low rest unread =>
      rw [List.map_cons, List.map_cons, decode, digitValue_toLower, digitValue_toLower]
      split
      next h l highRead lowRead => exact absurd lowRead (unread h l highRead)
      next => rfl
  | case3 text short =>
      match text, short with
      | [], _ => rfl
      | [_], _ => rfl
      | high :: low :: rest, short => exact absurd rfl (short high low rest)

theorem encode_decode {size : Nat} {text : Text} (length : text.length = 2 * size)
    (digits : ∀ c ∈ text, (digitValue c).isSome = true) :
    encode (decode text) = text.map Char.toLower := by
  induction size generalizing text with
  | zero =>
      rw [List.length_eq_zero_iff.mp length]
      rfl
  | succ size ih =>
      match text with
      | high :: low :: rest =>
          rcases Option.isSome_iff_exists.mp (digits high (by simp)) with ⟨h, highRead⟩
          rcases Option.isSome_iff_exists.mp (digits low (by simp)) with ⟨l, lowRead⟩
          rcases digit_digitValue highRead with ⟨hSmall, hDigit⟩
          rcases digit_digitValue lowRead with ⟨lSmall, lDigit⟩
          have shorter : rest.length = 2 * size := by
            simp only [List.length_cons] at length
            omega
          have tail := ih shorter fun c member =>
            digits c (List.mem_cons_of_mem _ (List.mem_cons_of_mem _ member))
          have byte : (UInt8.ofNat (h * 16 + l)).toNat = h * 16 + l := by
            rw [UInt8.toNat_ofNat', Nat.mod_eq_of_lt (by omega)]
          have upper : (h * 16 + l) / 16 = h := by omega
          have lower : (h * 16 + l) % 16 = l := by omega
          have pairs : pair (UInt8.ofNat (h * 16 + l)) = [high.toLower, low.toLower] := by
            rw [pair, byte, upper, lower, hDigit, lDigit]
          rw [decode, highRead, lowRead, List.map_cons, List.map_cons, ← tail]
          exact congrArg (· ++ encode (decode rest)) pairs

end Reading

end Hex
