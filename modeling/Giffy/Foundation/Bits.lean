import Mathlib.Data.List.Induction
import Mathlib.Data.Nat.Bitwise

/-! Runs of bits, most significant first, and the fixed-width digits they are cut into. -/

namespace Bits

/-- The last `width` binary digits of `n`. -/
def ofNat : Nat → Nat → List Bool
  | 0, _ => []
  | width + 1, n => n.testBit width :: ofNat width n

def value : List Bool → Nat
  | [] => 0
  | bit :: bits => 2 ^ bits.length * bit.toNat + value bits

/-- The bits of digits of one width, one digit after the other. -/
def spread (width : Nat) (digits : List Nat) : List Bool := digits.flatMap (ofNat width)

/-- The first `count` digits of one width in a run of bits. -/
def gather (width : Nat) : Nat → List Bool → List Nat
  | 0, _ => []
  | count + 1, bits => value (bits.take width) :: gather width count (bits.drop width)

def xor (left right : List Bool) : List Bool := List.zipWith (· ^^ ·) left right

section Numbers

@[simp] theorem length_ofNat (width n : Nat) : (ofNat width n).length = width := by
  induction width with
  | zero => rfl
  | succ width ih => simp [ofNat, ih]

theorem ofNat_add (high low n : Nat) :
    ofNat (high + low) n = ofNat high (n / 2 ^ low) ++ ofNat low n := by
  induction high with
  | zero => simp [ofNat]
  | succ high ih =>
      calc
        ofNat (high + 1 + low) n = n.testBit (high + low) :: ofNat (high + low) n := by
          rw [Nat.add_right_comm, ofNat]
        _ = (n / 2 ^ low).testBit high :: (ofNat high (n / 2 ^ low) ++ ofNat low n) := by
          rw [ih, Nat.testBit_div_two_pow]
        _ = ofNat (high + 1) (n / 2 ^ low) ++ ofNat low n := rfl

theorem ofNat_congr {width m n : Nat} (same : ∀ i < width, m.testBit i = n.testBit i) :
    ofNat width m = ofNat width n := by
  induction width with
  | zero => rfl
  | succ width ih =>
      rw [ofNat, ofNat, same width (Nat.lt_succ_self _),
        ih fun i below => same i (Nat.lt_succ_of_lt below)]

theorem ofNat_mod {width bound : Nat} (fits : width ≤ bound) (n : Nat) :
    ofNat width (n % 2 ^ bound) = ofNat width n := by
  apply ofNat_congr
  intro i below
  have inside : i < bound := Nat.lt_of_lt_of_le below fits
  simp [Nat.testBit_mod_two_pow, inside]

theorem ofNat_xor (width m n : Nat) :
    ofNat width (m ^^^ n) = xor (ofNat width m) (ofNat width n) := by
  induction width with
  | zero => rfl
  | succ width ih => simp only [ofNat, ih, Nat.testBit_xor, xor, List.zipWith_cons_cons]

@[simp] theorem ofNat_zero (width : Nat) : ofNat width 0 = List.replicate width false := by
  induction width with
  | zero => rfl
  | succ width ih => simp [ofNat, ih, List.replicate_succ]

theorem value_lt (bits : List Bool) : value bits < 2 ^ bits.length := by
  induction bits with
  | nil => exact Nat.zero_lt_one
  | cons bit bits ih =>
      have small : bit.toNat ≤ 1 := Bool.toNat_le bit
      have scaled := Nat.mul_le_mul_left (2 ^ bits.length) small
      rw [value, List.length_cons, pow_succ]
      omega

theorem value_ofNat (width n : Nat) : value (ofNat width n) = n % 2 ^ width := by
  induction width with
  | zero => simp [ofNat, value, Nat.mod_one]
  | succ width ih =>
      rw [ofNat, value, length_ofNat, ih, Nat.mod_pow_succ, Nat.toNat_testBit, Nat.add_comm]

theorem value_ofNat_of_lt {width n : Nat} (bound : n < 2 ^ width) :
    value (ofNat width n) = n := by
  rw [value_ofNat, Nat.mod_eq_of_lt bound]

theorem ofNat_value (bits : List Bool) : ofNat bits.length (value bits) = bits := by
  induction bits with
  | nil => rfl
  | cons bit bits ih =>
      have first : (2 ^ bits.length * bit.toNat + value bits).testBit bits.length = bit := by
        rw [Nat.testBit_two_pow_mul_add _ (value_lt bits), if_neg (lt_irrefl _), Nat.sub_self]
        cases bit <;> rfl
      have others : ofNat bits.length (2 ^ bits.length * bit.toNat + value bits) = bits := by
        rw [← ofNat_mod le_rfl, Nat.mul_add_mod, Nat.mod_eq_of_lt (value_lt bits), ih]
      rw [List.length_cons, value, ofNat, first, others]

theorem ofNat_injective {width m n : Nat} (below : m < 2 ^ width) (below' : n < 2 ^ width)
    (same : ofNat width m = ofNat width n) : m = n := by
  rw [← value_ofNat_of_lt below, same, value_ofNat_of_lt below']

theorem true_mem_ofNat {width n : Nat} (bound : n < 2 ^ width) (positive : n ≠ 0) :
    true ∈ ofNat width n := by
  by_contra absent
  have quiet : ofNat width n = ofNat width 0 := by
    rw [ofNat_zero, List.eq_replicate_iff]
    refine ⟨length_ofNat _ _, ?_⟩
    intro bit member
    cases bit with
    | true => exact absurd member absent
    | false => rfl
  exact positive (ofNat_injective bound (Nat.two_pow_pos width) quiet)

end Numbers

section Digits

variable {width : Nat}

@[simp] theorem spread_nil : spread width [] = [] := rfl

@[simp] theorem spread_cons (digit : Nat) (digits : List Nat) :
    spread width (digit :: digits) = ofNat width digit ++ spread width digits := rfl

theorem spread_append (left right : List Nat) :
    spread width (left ++ right) = spread width left ++ spread width right :=
  List.flatMap_append

@[simp] theorem length_spread (digits : List Nat) :
    (spread width digits).length = width * digits.length := by
  induction digits with
  | nil => rfl
  | cons digit digits ih =>
      rw [spread_cons, List.length_append, length_ofNat, ih, List.length_cons, Nat.mul_succ,
        Nat.add_comm]

theorem gather_lt (count : Nat) (bits : List Bool) :
    ∀ digit ∈ gather width count bits, digit < 2 ^ width := by
  induction count generalizing bits with
  | zero => exact fun _ member => absurd member List.not_mem_nil
  | succ count ih =>
      intro digit member
      rcases List.mem_cons.mp member with rfl | later
      · calc
          value (bits.take width) < 2 ^ (bits.take width).length := value_lt _
          _ ≤ 2 ^ width := Nat.pow_le_pow_right (by decide) (List.length_take_le _ _)
      · exact ih _ digit later

theorem spread_gather {count : Nat} {bits : List Bool} (enough : width * count ≤ bits.length) :
    spread width (gather width count bits) = bits.take (width * count) := by
  induction count generalizing bits with
  | zero => rfl
  | succ count ih =>
      rw [Nat.mul_succ] at enough
      have first : (bits.take width).length = width := by
        rw [List.length_take]
        omega
      have rest : width * count ≤ (bits.drop width).length := by
        rw [List.length_drop]
        omega
      have head : ofNat width (value (bits.take width)) = bits.take width := by
        have whole := ofNat_value (bits.take width)
        rwa [first] at whole
      calc
        spread width (gather width (count + 1) bits) =
            bits.take width ++ (bits.drop width).take (width * count) := by
          rw [gather, spread_cons, head, ih rest]
        _ = bits.take (width * (count + 1)) := by
          rw [← List.take_add, Nat.mul_succ, Nat.add_comm]

theorem gather_spread {digits : List Nat} (bounded : ∀ digit ∈ digits, digit < 2 ^ width) :
    gather width digits.length (spread width digits) = digits := by
  induction digits with
  | nil => rfl
  | cons digit digits ih =>
      have first : value (ofNat width digit) = digit :=
        value_ofNat_of_lt (bounded digit List.mem_cons_self)
      have others := ih fun other member => bounded other (List.mem_cons_of_mem _ member)
      rw [spread_cons, List.length_cons, gather, List.take_left' (length_ofNat _ _),
        List.drop_left' (length_ofNat _ _), first, others]

theorem spread_injective {left right : List Nat} (width_pos : 0 < width)
    (bounded : ∀ digit ∈ left, digit < 2 ^ width) (bounded' : ∀ digit ∈ right, digit < 2 ^ width)
    (same : spread width left = spread width right) : left = right := by
  have lengths := congrArg List.length same
  rw [length_spread, length_spread] at lengths
  have count : left.length = right.length := Nat.eq_of_mul_eq_mul_left width_pos lengths
  rw [← gather_spread bounded, ← gather_spread bounded', same, count]

end Digits

section Differences

theorem xor_append {left right left' right' : List Bool} (count : left.length = right.length) :
    xor (left ++ left') (right ++ right') = xor left right ++ xor left' right' :=
  List.zipWith_append count

theorem xor_self (bits : List Bool) : xor bits bits = List.replicate bits.length false := by
  induction bits with
  | nil => rfl
  | cons bit bits ih =>
      calc
        xor (bit :: bits) (bit :: bits) = (bit ^^ bit) :: xor bits bits := rfl
        _ = List.replicate (bits.length + 1) false := by
          rw [ih, Bool.xor_self, List.replicate_succ]

theorem xor_comm (left right : List Bool) : xor left right = xor right left := by
  unfold xor
  rw [List.zipWith_comm]
  simp only [Bool.xor_comm]

end Differences

end Bits
