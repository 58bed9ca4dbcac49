import Giffy.Foundation.Bits
import Mathlib.Logic.Function.Iterate

/-! Cyclic redundancy checks: the remainder of a run of bits, read as a polynomial over the
field with two elements, modulo a polynomial whose leading term is left out. -/

namespace Crc

variable {w : Nat} (poly : BitVec w)

/-- Multiplication by the variable. -/
def shift (crc : BitVec w) : BitVec w :=
  if crc.msb then (crc <<< 1) ^^^ poly else crc <<< 1

def top (bit : Bool) : BitVec w := if bit then BitVec.twoPow w (w - 1) else 0#w

def feed (crc : BitVec w) (bit : Bool) : BitVec w := shift poly (crc ^^^ top bit)

def run (crc : BitVec w) (bits : List Bool) : BitVec w := bits.foldl (feed poly) crc

/-- Bits written from the leading place down. -/
def place : List Bool → BitVec w
  | [] => 0#w
  | bit :: bits => top bit ^^^ (place bits >>> 1)

section Linearity

theorem xor_exchange (a b c d : BitVec w) : (a ^^^ b) ^^^ (c ^^^ d) = (a ^^^ c) ^^^ (b ^^^ d) := by
  ac_rfl

theorem shift_xor (left right : BitVec w) :
    shift poly (left ^^^ right) = shift poly left ^^^ shift poly right := by
  unfold shift
  rw [BitVec.msb_xor, BitVec.shiftLeft_xor_distrib]
  cases left.msb <;> cases right.msb
  · rfl
  · exact BitVec.xor_assoc _ _ _
  · calc
      left <<< 1 ^^^ right <<< 1 ^^^ poly = left <<< 1 ^^^ (right <<< 1 ^^^ poly) :=
        BitVec.xor_assoc _ _ _
      _ = left <<< 1 ^^^ poly ^^^ right <<< 1 := by
        rw [BitVec.xor_comm (right <<< 1), BitVec.xor_assoc]
  · calc
      left <<< 1 ^^^ right <<< 1 = left <<< 1 ^^^ right <<< 1 ^^^ (poly ^^^ poly) := by
        rw [BitVec.xor_self, BitVec.xor_zero]
      _ = left <<< 1 ^^^ poly ^^^ (right <<< 1 ^^^ poly) := xor_exchange _ _ _ _

theorem top_xor (left right : Bool) : (top (left ^^ right) : BitVec w) = top left ^^^ top right := by
  cases left <;> cases right <;> simp [top]

theorem feed_xor (left right : BitVec w) (bit bit' : Bool) :
    feed poly (left ^^^ right) (bit ^^ bit') = feed poly left bit ^^^ feed poly right bit' := by
  rw [feed, top_xor, xor_exchange, shift_xor]
  rfl

theorem run_xor {left right : List Bool} (count : left.length = right.length)
    (crc crc' : BitVec w) :
    run poly (crc ^^^ crc') (Bits.xor left right) = run poly crc left ^^^ run poly crc' right := by
  induction left generalizing right crc crc' with
  | nil =>
      rw [List.length_nil, eq_comm, List.length_eq_zero_iff] at count
      subst count
      rfl
  | cons bit bits ih =>
      cases right with
      | nil => cases count
      | cons bit' bits' =>
          have count' : bits.length = bits'.length := Nat.succ.inj count
          calc
            run poly (crc ^^^ crc') (Bits.xor (bit :: bits) (bit' :: bits')) =
                run poly (feed poly (crc ^^^ crc') (bit ^^ bit')) (Bits.xor bits bits') := rfl
            _ = run poly (feed poly crc bit ^^^ feed poly crc' bit') (Bits.xor bits bits') := by
              rw [feed_xor]
            _ = run poly (feed poly crc bit) bits ^^^ run poly (feed poly crc' bit') bits' :=
              ih count' _ _

theorem run_append (crc : BitVec w) (bits bits' : List Bool) :
    run poly crc (bits ++ bits') = run poly (run poly crc bits) bits' := List.foldl_append

end Linearity

section Bursts

@[simp] theorem shift_zero : shift poly 0#w = 0#w := by simp [shift]

@[simp] theorem feed_false (crc : BitVec w) : feed poly crc false = shift poly crc := by
  simp [feed, top]

theorem run_zeros (crc : BitVec w) (count : Nat) :
    run poly crc (List.replicate count false) = (shift poly)^[count] crc := by
  induction count generalizing crc with
  | zero => rfl
  | succ count ih =>
      calc
        run poly crc (List.replicate (count + 1) false) =
            run poly (feed poly crc false) (List.replicate count false) := rfl
        _ = (shift poly)^[count + 1] crc := by
          rw [ih, feed_false, Function.iterate_succ_apply]

theorem getMsbD_top (bit : Bool) (i : Nat) :
    (top bit : BitVec w).getMsbD i = (bit && decide (i < w) && decide (i = 0)) := by
  cases bit
  · simp [top]
  · simp only [top, if_true, BitVec.getMsbD_twoPow, Bool.true_and]
    rw [Bool.eq_iff_iff]
    simp only [Bool.and_eq_true, decide_eq_true_eq]
    omega

theorem getMsbD_place (bits : List Bool) (i : Nat) :
    (place bits : BitVec w).getMsbD i = (decide (i < w) && bits.getD i false) := by
  induction bits generalizing i with
  | nil => simp [place]
  | cons bit bits ih =>
      rw [place, BitVec.getMsbD_xor, getMsbD_top, BitVec.getMsbD_ushiftRight, ih]
      cases i with
      | zero => simp [Bool.and_comm]
      | succ i =>
          by_cases inside : i + 1 < w
          · have before : i < w := Nat.lt_of_succ_lt inside
            simp [inside, before]
          · simp [inside]

theorem shift_place {bits : List Bool} (room : bits.length < w) :
    shift poly (place bits >>> 1) = place bits := by
  have clear : (place bits >>> 1 : BitVec w).msb = false := by simp [BitVec.msb_ushiftRight]
  rw [shift, clear, if_neg Bool.false_ne_true]
  apply BitVec.eq_of_getMsbD_eq
  intro i inside
  rw [BitVec.getMsbD_shiftLeft, BitVec.getMsbD_ushiftRight, Nat.add_sub_cancel, getMsbD_place]
  by_cases last : i + 1 < w
  · simp [last]
  · have beyond : bits.length ≤ i := by omega
    simp [last, beyond]

/-- Up to a word of bits may be added at once and shifted through afterwards. -/
theorem run_eq_iterate {bits : List Bool} (fits : bits.length ≤ w) (crc : BitVec w) :
    run poly crc bits = (shift poly)^[bits.length] (crc ^^^ place bits) := by
  induction bits generalizing crc with
  | nil => simp [run, place]
  | cons bit bits ih =>
      have room : bits.length < w := fits
      calc
        run poly crc (bit :: bits) = run poly (feed poly crc bit) bits := rfl
        _ = (shift poly)^[bits.length] (shift poly (crc ^^^ top bit) ^^^ place bits) :=
          ih room.le _
        _ = (shift poly)^[bits.length]
            (shift poly (crc ^^^ top bit) ^^^ shift poly (place bits >>> 1)) := by
          rw [shift_place poly room]
        _ = (shift poly)^[bits.length + 1] (crc ^^^ place (bit :: bits)) := by
          rw [← shift_xor, BitVec.xor_assoc, Function.iterate_succ_apply]
          rfl

theorem place_eq_zero {bits : List Bool} (fits : bits.length ≤ w) (zero : place bits = 0#w) :
    true ∉ bits := by
  intro member
  rcases List.mem_iff_getElem.mp member with ⟨i, inside, found⟩
  have placed := getMsbD_place (w := w) bits i
  have within : i < w := Nat.lt_of_lt_of_le inside fits
  simp [zero, within, inside, found] at placed

variable {poly}

theorem shift_eq_zero (constant : poly.getLsbD 0 = true) {crc : BitVec w}
    (zero : shift poly crc = 0#w) : crc = 0#w := by
  cases leading : crc.msb with
  | true =>
      have low := congrArg (fun word : BitVec w => word.getLsbD 0) zero
      simp [shift, leading, BitVec.getLsbD_xor, constant] at low
  | false =>
      rw [shift, leading, if_neg Bool.false_ne_true] at zero
      apply BitVec.eq_of_getMsbD_eq
      intro i inside
      cases i with
      | zero => rw [← BitVec.msb_eq_getMsbD_zero, leading, BitVec.getMsbD_zero]
      | succ i =>
          have moved := congrArg (fun word : BitVec w => word.getMsbD i) zero
          simpa using moved

theorem iterate_eq_zero (constant : poly.getLsbD 0 = true) {count : Nat} {crc : BitVec w}
    (zero : (shift poly)^[count] crc = 0#w) : crc = 0#w := by
  induction count generalizing crc with
  | zero => exact zero
  | succ count ih => exact shift_eq_zero constant (ih zero)

/-- An error confined to a word's length is never divisible by the polynomial. -/
theorem burst_detected (constant : poly.getLsbD 0 = true) {bits : List Bool}
    (fits : bits.length ≤ w) (error : true ∈ bits) (before after : Nat) :
    run poly 0#w (List.replicate before false ++ bits ++ List.replicate after false) ≠ 0#w := by
  intro zero
  have quiet : (shift poly)^[before] 0#w = 0#w := Function.iterate_fixed (shift_zero poly) before
  rw [run_append, run_append, run_zeros, run_zeros, quiet, run_eq_iterate poly fits,
    BitVec.zero_xor] at zero
  exact place_eq_zero fits (iterate_eq_zero constant (iterate_eq_zero constant zero)) error

end Bursts

end Crc
