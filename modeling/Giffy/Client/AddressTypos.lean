import Giffy.Client.StellarAddress

/-! A mistyped letter, or two neighbours exchanged, never leaves an address valid. -/

namespace Giffy.Client

def Codeword (bits : List Bool) : Prop :=
  bits.drop 264 = Bytes.bits (littleEndian (Crc.run xmodem 0#16 (bits.take 264)))

instance (bits : List Bool) : Decidable (Codeword bits) := inferInstanceAs (Decidable (_ = _))

/-- A run of zeros with one stretch of other bits in it. -/
def burst (before : Nat) (bits : List Bool) (after : Nat) : List Bool :=
  List.replicate before false ++ bits ++ List.replicate after false

section Codewords

theorem bits_littleEndian (word : BitVec 16) : Bytes.bits (littleEndian word) =
    Bits.ofNat 8 word.toNat ++ Bits.ofNat 8 (word.toNat / 2 ^ 8) := by
  have low : Bits.ofNat 8 (UInt8.ofNat word.toNat).toNat = Bits.ofNat 8 word.toNat := by
    exact Bits.ofNat_mod le_rfl _
  have high : Bits.ofNat 8 (UInt8.ofNat (word.toNat / 256)).toNat =
      Bits.ofNat 8 (word.toNat / 2 ^ 8) := by
    exact Bits.ofNat_mod le_rfl _
  calc
    Bytes.bits (littleEndian word) = Bits.ofNat 8 (UInt8.ofNat word.toNat).toNat ++
        (Bits.ofNat 8 (UInt8.ofNat (word.toNat / 256)).toNat ++ []) := rfl
    _ = Bits.ofNat 8 word.toNat ++ Bits.ofNat 8 (word.toNat / 2 ^ 8) := by
      rw [low, high, List.append_nil]

theorem bits_littleEndian_xor (left right : BitVec 16) :
    Bytes.bits (littleEndian (left ^^^ right)) =
      Bits.xor (Bytes.bits (littleEndian left)) (Bytes.bits (littleEndian right)) := by
  have high : (left.toNat ^^^ right.toNat) / 2 ^ 8 = left.toNat / 2 ^ 8 ^^^ right.toNat / 2 ^ 8 :=
    Nat.xor_div_two_pow
  rw [bits_littleEndian, bits_littleEndian, bits_littleEndian, BitVec.toNat_xor, high,
    Bits.ofNat_xor, Bits.ofNat_xor, Bits.xor_append (by simp)]

theorem littleEndian_injective {left right : BitVec 16}
    (same : littleEndian left = littleEndian right) : left = right := by
  have left_lt := left.isLt
  have right_lt := right.isLt
  rw [littleEndian, littleEndian, List.cons.injEq, List.cons.injEq, ← UInt8.toNat_inj,
    ← UInt8.toNat_inj, UInt8.toNat_ofNat', UInt8.toNat_ofNat', UInt8.toNat_ofNat',
    UInt8.toNat_ofNat'] at same
  apply BitVec.eq_of_toNat_eq
  omega

theorem Codeword.xor {left right : List Bool} (valid : Codeword left) (valid' : Codeword right)
    (count : left.length = right.length) : Codeword (Bits.xor left right) := by
  have fronts : (left.take 264).length = (right.take 264).length := by
    rw [List.length_take, List.length_take, count]
  calc
    (Bits.xor left right).drop 264 = Bits.xor (left.drop 264) (right.drop 264) := List.drop_zipWith
    _ = Bytes.bits (littleEndian (Crc.run xmodem 0#16 (left.take 264) ^^^
        Crc.run xmodem 0#16 (right.take 264))) := by
      rw [valid, valid', bits_littleEndian_xor]
    _ = Bytes.bits (littleEndian (Crc.run xmodem 0#16 ((Bits.xor left right).take 264))) := by
      have front : Bits.xor (left.take 264) (right.take 264) = (Bits.xor left right).take 264 :=
        List.take_zipWith.symm
      rw [← Crc.run_xor xmodem fronts, BitVec.xor_zero, front]

theorem valid_codeword {value : Text} (valid : isValidPublicKey value = true) :
    Codeword (Base32.bits value) := by
  rcases (isValidPublicKey_iff value).mp valid with ⟨_, body, length, rfl⟩
  have whole : 5 ∣ 8 * (body ++ littleEndian (checksum body)).length := by
    rw [List.length_append, length, littleEndian_length]
    decide
  have front : (Bytes.bits body).length = 264 := by rw [Base32.length_bits_bytes, length]
  rw [Base32.bits_encode whole, Base32.bits_bytes_append, Codeword, List.drop_left' front,
    List.take_left' front]
  rfl

end Codewords

section Errors

theorem zeros_littleEndian : Bytes.bits (littleEndian 0#16) = List.replicate 16 false := by decide

theorem early_burst {bits : List Bool} (fits : bits.length ≤ 16) (error : true ∈ bits)
    {before after : Nat} (inside : before + bits.length + after = 264) :
    ¬Codeword (burst before bits (after + 16)) := by
  intro valid
  have front : (burst before bits after).length = 264 := by simp [burst, ← inside, Nat.add_assoc]
  have split : burst before bits (after + 16) =
      burst before bits after ++ List.replicate 16 false := by
    rw [burst, ← List.replicate_append_replicate, ← List.append_assoc]
    rfl
  rw [Codeword, split, List.drop_left' front, List.take_left' front, ← zeros_littleEndian] at valid
  have quiet := littleEndian_injective (Base32.bits_bytes_injective valid)
  exact Crc.burst_detected (by decide) fits error before after quiet.symm

theorem late_burst {bits : List Bool} (error : true ∈ bits) (before after : Nat) :
    ¬Codeword (burst (264 + before) bits after) := by
  intro valid
  have split : burst (264 + before) bits after =
      List.replicate 264 false ++ burst before bits after := by
    rw [burst, ← List.replicate_append_replicate, List.append_assoc, List.append_assoc, burst,
      List.append_assoc]
  have front : (List.replicate 264 false).length = 264 := List.length_replicate
  rw [Codeword, split, List.drop_left' front, List.take_left' front, Crc.run_zeros,
    Function.iterate_fixed (Crc.shift_zero xmodem), zeros_littleEndian] at valid
  have changed : true ∈ burst before bits after := by simp [burst, error]
  rw [valid] at changed
  cases List.eq_of_mem_replicate changed

theorem burst_across {front back : List Bool} {before : Nat} (inside : before + front.length = 264)
    (after : Nat) : Codeword (burst before (front ++ back) after) ↔
      back ++ List.replicate after false =
        Bytes.bits (littleEndian (Crc.run xmodem 0#16 front)) := by
  have split : burst before (front ++ back) after =
      (List.replicate before false ++ front) ++ (back ++ List.replicate after false) := by
    rw [burst, List.append_assoc, List.append_assoc, List.append_assoc]
  have border : (List.replicate before false ++ front).length = 264 := by simp [inside]
  rw [Codeword, split, List.drop_left' border, List.take_left' border, Crc.run_append,
    Crc.run_zeros, Function.iterate_fixed (Crc.shift_zero xmodem)]

theorem halves (n : Nat) : Bits.ofNat 5 n = Bits.ofNat 4 (n / 2) ++ Bits.ofNat 1 n :=
  Bits.ofNat_add 4 1 n

theorem letter_across {n : Nat} (bound : n < 32) (error : n ≠ 0) :
    ¬Codeword (burst 260 (Bits.ofNat 5 n) 15) := by
  have every : ∀ n : Fin 32, n.val ≠ 0 → ¬(Bits.ofNat 1 n ++ List.replicate 15 false =
      Bytes.bits (littleEndian (Crc.run xmodem 0#16 (Bits.ofNat 4 (n / 2))))) := by
    decide +kernel
  rw [halves, burst_across (by simp)]
  exact every ⟨n, bound⟩ error

theorem second_across {n : Nat} (bound : n < 32) (error : n ≠ 0) :
    ¬Codeword (burst 255 (Bits.ofNat 5 n ++ Bits.ofNat 5 n) 15) := by
  have every : ∀ n : Fin 32, n.val ≠ 0 → ¬(Bits.ofNat 1 n ++ List.replicate 15 false =
      Bytes.bits (littleEndian
        (Crc.run xmodem 0#16 (Bits.ofNat 5 n ++ Bits.ofNat 4 (n / 2))))) := by
    decide +kernel
  have split : Bits.ofNat 5 n ++ Bits.ofNat 5 n =
      (Bits.ofNat 5 n ++ Bits.ofNat 4 (n / 2)) ++ Bits.ofNat 1 n := by
    rw [List.append_assoc, ← halves]
  rw [split, burst_across (by simp)]
  exact every ⟨n, bound⟩ error

theorem first_across {n : Nat} (bound : n < 32) (error : n ≠ 0) :
    ¬Codeword (burst 260 (Bits.ofNat 5 n ++ Bits.ofNat 5 n) 10) := by
  have every : ∀ n : Fin 32, n.val ≠ 0 →
      ¬((Bits.ofNat 1 n ++ Bits.ofNat 5 n) ++ List.replicate 10 false =
        Bytes.bits (littleEndian (Crc.run xmodem 0#16 (Bits.ofNat 4 (n / 2))))) := by
    decide +kernel
  have split : Bits.ofNat 5 n ++ Bits.ofNat 5 n =
      Bits.ofNat 4 (n / 2) ++ (Bits.ofNat 1 n ++ Bits.ofNat 5 n) := by
    rw [← List.append_assoc, ← halves]
  rw [split, burst_across (by simp)]
  exact every ⟨n, bound⟩ error

theorem letter_error {n i rest : Nat} (bound : n < 32) (error : n ≠ 0)
    (full : i + 1 + rest = 56) : ¬Codeword (burst (5 * i) (Bits.ofNat 5 n) (5 * rest)) := by
  have changed : true ∈ Bits.ofNat 5 n := Bits.true_mem_ofNat bound error
  rcases Nat.lt_trichotomy i 52 with early | rfl | late
  · have after : 5 * rest = 5 * rest - 16 + 16 := by omega
    rw [after]
    apply early_burst (by simp) changed
    rw [Bits.length_ofNat]
    omega
  · have after : rest = 3 := by omega
    rw [after]
    exact letter_across bound error
  · have before : 5 * i = 264 + (5 * i - 264) := by omega
    rw [before]
    exact late_burst changed _ _

theorem pair_error {n i rest : Nat} (bound : n < 32) (error : n ≠ 0) (full : i + 2 + rest = 56) :
    ¬Codeword (burst (5 * i) (Bits.ofNat 5 n ++ Bits.ofNat 5 n) (5 * rest)) := by
  have changed : true ∈ Bits.ofNat 5 n ++ Bits.ofNat 5 n :=
    List.mem_append_left _ (Bits.true_mem_ofNat bound error)
  by_cases second : i = 51
  · have after : rest = 3 := by omega
    rw [second, after]
    exact second_across bound error
  · rcases Nat.lt_trichotomy i 52 with early | rfl | late
    · have after : 5 * rest = 5 * rest - 16 + 16 := by omega
      rw [after]
      apply early_burst (by simp) changed
      rw [List.length_append, Bits.length_ofNat]
      omega
    · have after : rest = 2 := by omega
      rw [after]
      exact first_across bound error
    · have before : 5 * i = 264 + (5 * i - 264) := by omega
      rw [before]
      exact late_burst changed _ _

end Errors

section Typos

theorem xor_bits_self (text : Text) : Bits.xor (Base32.bits text) (Base32.bits text) =
    List.replicate (5 * text.length) false := by
  rw [Bits.xor_self, Base32.length_bits]

theorem xor_bits (front back : Text) {middle middle' : Text}
    (count : middle.length = middle'.length) :
    Bits.xor (Base32.bits (front ++ (middle ++ back)))
        (Base32.bits (front ++ (middle' ++ back))) =
      burst (5 * front.length) (Bits.xor (Base32.bits middle) (Base32.bits middle'))
        (5 * back.length) := by
  rw [Base32.bits_append, Base32.bits_append, Base32.bits_append, Base32.bits_append,
    Bits.xor_append rfl, Bits.xor_append (by rw [Base32.length_bits, Base32.length_bits, count]),
    xor_bits_self, xor_bits_self, burst, List.append_assoc]

theorem valid_length {value : Text} (valid : isValidPublicKey value = true) : value.length = 56 :=
  ((keyPattern_iff value).mp ((isValidPublicKey_iff value).mp valid).1).2.1

theorem valid_alphabetic {value : Text} (valid : isValidPublicKey value = true) :
    ∀ c ∈ value, c ∈ Base32.alphabet :=
  ((keyPattern_iff value).mp ((isValidPublicKey_iff value).mp valid).1).2.2

theorem invalid_of_error {front back : Text} (middle middle' : Text)
    (valid : isValidPublicKey (front ++ (middle ++ back)) = true)
    (count : middle.length = middle'.length)
    (error : (∀ c ∈ middle, c ∈ Base32.alphabet) → (∀ c ∈ middle', c ∈ Base32.alphabet) →
      ¬Codeword (burst (5 * front.length) (Bits.xor (Base32.bits middle) (Base32.bits middle'))
        (5 * back.length))) :
    isValidPublicKey (front ++ (middle' ++ back)) = false := by
  apply Bool.eq_false_iff.mpr
  intro valid'
  have inside : ∀ {text : Text}, ∀ c ∈ text, c ∈ front ++ (text ++ back) := by
    intro text c member
    exact List.mem_append_right _ (List.mem_append_left _ member)
  have lengths : (Base32.bits (front ++ (middle ++ back))).length =
      (Base32.bits (front ++ (middle' ++ back))).length := by
    simp [count]
  apply error (fun c member => valid_alphabetic valid c (inside c member))
    (fun c member => valid_alphabetic valid' c (inside c member))
  rw [← xor_bits front back count]
  exact (valid_codeword valid).xor (valid_codeword valid') lengths

theorem digits_apart {a b : Char} (letter : a ∈ Base32.alphabet) (letter' : b ∈ Base32.alphabet)
    (apart : a ≠ b) :
    Base32.digit a ^^^ Base32.digit b < 32 ∧ Base32.digit a ^^^ Base32.digit b ≠ 0 := by
  refine ⟨Nat.xor_lt_two_pow (n := 5) (Base32.digit_lt letter) (Base32.digit_lt letter'), ?_⟩
  intro zero
  have same := Nat.xor_eq_zero_iff.mp zero
  apply apart
  rw [← Base32.letter_digit letter, same, Base32.letter_digit letter']

theorem replaced_invalid {front back : Text} {a b : Char}
    (valid : isValidPublicKey (front ++ a :: back) = true) (apart : b ≠ a) :
    isValidPublicKey (front ++ b :: back) = false := by
  have length := valid_length valid
  rw [List.length_append, List.length_cons] at length
  apply invalid_of_error [a] [b] valid rfl
  intro letters letters'
  rcases digits_apart (letters a List.mem_cons_self) (letters' b List.mem_cons_self) apart.symm
    with ⟨bound, error⟩
  have difference : Bits.xor (Base32.bits [a]) (Base32.bits [b]) =
      Bits.ofNat 5 (Base32.digit a ^^^ Base32.digit b) := by
    rw [Bits.ofNat_xor]
    simp [Base32.bits]
  rw [difference]
  exact letter_error bound error (by omega)

theorem exchanged_invalid {front back : Text} {a b : Char}
    (valid : isValidPublicKey (front ++ a :: b :: back) = true) (apart : a ≠ b) :
    isValidPublicKey (front ++ b :: a :: back) = false := by
  have length := valid_length valid
  rw [List.length_append, List.length_cons, List.length_cons] at length
  apply invalid_of_error [a, b] [b, a] valid rfl
  intro letters letters'
  rcases digits_apart (letters a List.mem_cons_self) (letters' b List.mem_cons_self) apart
    with ⟨bound, error⟩
  have difference : Bits.xor (Base32.bits [a, b]) (Base32.bits [b, a]) =
      Bits.ofNat 5 (Base32.digit a ^^^ Base32.digit b) ++
        Bits.ofNat 5 (Base32.digit a ^^^ Base32.digit b) := by
    have turned : Bits.xor (Bits.ofNat 5 (Base32.digit b)) (Bits.ofNat 5 (Base32.digit a)) =
        Bits.ofNat 5 (Base32.digit a ^^^ Base32.digit b) := by
      rw [Bits.xor_comm, Bits.ofNat_xor]
    calc
      Bits.xor (Base32.bits [a, b]) (Base32.bits [b, a]) =
          Bits.xor (Bits.ofNat 5 (Base32.digit a) ++ Bits.ofNat 5 (Base32.digit b))
            (Bits.ofNat 5 (Base32.digit b) ++ Bits.ofNat 5 (Base32.digit a)) := by
        simp [Base32.bits]
      _ = Bits.ofNat 5 (Base32.digit a ^^^ Base32.digit b) ++
          Bits.ofNat 5 (Base32.digit a ^^^ Base32.digit b) := by
        rw [Bits.xor_append (by simp), turned, ← Bits.ofNat_xor]
  rw [difference]
  exact pair_error bound error (by omega)

/-- Replacing one letter, or exchanging two neighbours, makes a valid address invalid. -/
theorem typos_caught (value : Text) (valid : isValidPublicKey value = true) :
    (∀ front a back b, value = front ++ a :: back → b ≠ a →
      isValidPublicKey (front ++ b :: back) = false) ∧
    (∀ front a b back, value = front ++ a :: b :: back → a ≠ b →
      isValidPublicKey (front ++ b :: a :: back) = false) := by
  constructor
  · intro front a back b same apart
    subst same
    exact replaced_invalid valid apart
  · intro front a b back same apart
    subst same
    exact exchanged_invalid valid apart

theorem typos_caught_sample :
    let value := "GAAAAAAAAAAAAAAAAAAAAAAAAAAAAAAAAAAAAAAAAAAAAAAAAAAAAWHF".toList
    (∀ front a back b, value = front ++ a :: back → b ≠ a →
      isValidPublicKey (front ++ b :: back) = false) ∧
    (∀ front a b back, value = front ++ a :: b :: back → a ≠ b →
      isValidPublicKey (front ++ b :: a :: back) = false) :=
  typos_caught "GAAAAAAAAAAAAAAAAAAAAAAAAAAAAAAAAAAAAAAAAAAAAAAAAAAAAWHF".toList (by decide +kernel)

end Typos

end Giffy.Client
