import Giffy.Foundation.Bits
import Giffy.Foundation.Bytes
import Mathlib.Data.List.Basic

/-! Base-32 text over A–Z and 2–7, without padding. -/

def Bytes.bits (bytes : List UInt8) : List Bool := Bits.spread 8 (bytes.map UInt8.toNat)

namespace Base32

def alphabet : Text := "ABCDEFGHIJKLMNOPQRSTUVWXYZ234567".toList

def letter (digit : Nat) : Char := alphabet.getD digit 'A'

def digit (c : Char) : Nat := alphabet.idxOf c

/-- Five bits a letter; the last group is filled up with zeros. -/
def encode (bytes : List UInt8) : Text :=
  (Bits.gather 5 ((8 * bytes.length + 4) / 5)
    (Bytes.bits bytes ++ List.replicate 4 false)).map letter

def bits (text : Text) : List Bool := Bits.spread 5 (text.map digit)

section Bytes

@[simp] theorem length_bits_bytes (bytes : List UInt8) :
    (Bytes.bits bytes).length = 8 * bytes.length := by
  rw [Bytes.bits, Bits.length_spread, List.length_map]

theorem bits_bytes_append (left right : List UInt8) :
    Bytes.bits (left ++ right) = Bytes.bits left ++ Bytes.bits right := by
  rw [Bytes.bits, List.map_append, Bits.spread_append]
  rfl

theorem bits_bytes_singleton (b : UInt8) : Bytes.bits [b] = Bits.ofNat 8 b.toNat :=
  List.append_nil _

theorem bits_bytes_injective {left right : List UInt8} (same : Bytes.bits left = Bytes.bits right) :
    left = right := by
  have bounded : ∀ bytes : List UInt8, ∀ n ∈ bytes.map UInt8.toNat, n < 2 ^ 8 := by
    intro bytes n member
    rcases List.mem_map.mp member with ⟨b, _, rfl⟩
    exact b.toNat_lt
  have numbers := Bits.spread_injective (by decide) (bounded left) (bounded right) same
  exact List.map_injective_iff.mpr (fun _ _ => UInt8.toNat_inj.mp) numbers

end Bytes

section Alphabet

theorem digit_letter {n : Nat} (bound : n < 32) : digit (letter n) = n :=
  (by decide : ∀ n : Fin 32, digit (letter n) = n) ⟨n, bound⟩

theorem letter_mem {n : Nat} (bound : n < 32) : letter n ∈ alphabet :=
  (by decide : ∀ n : Fin 32, letter n ∈ alphabet) ⟨n, bound⟩

theorem digit_lt {c : Char} (member : c ∈ alphabet) : digit c < 32 :=
  List.idxOf_lt_length_iff.mpr member

theorem letter_digit {c : Char} (member : c ∈ alphabet) : letter (digit c) = c := by
  rw [letter, List.getD_eq_getElem?_getD, digit, List.getElem?_idxOf member, Option.getD_some]

theorem map_digit_letter {digits : List Nat} (bounded : ∀ n ∈ digits, n < 32) :
    (digits.map letter).map digit = digits := by
  induction digits with
  | nil => rfl
  | cons n digits ih =>
      have rest := ih fun other member => bounded other (List.mem_cons_of_mem _ member)
      rw [List.map_cons, List.map_cons, digit_letter (bounded n List.mem_cons_self), rest]

theorem map_letter_digit {text : Text} (alphabetic : ∀ c ∈ text, c ∈ alphabet) :
    (text.map digit).map letter = text := by
  induction text with
  | nil => rfl
  | cons c text ih =>
      have rest := ih fun other member => alphabetic other (List.mem_cons_of_mem _ member)
      rw [List.map_cons, List.map_cons, letter_digit (alphabetic c List.mem_cons_self), rest]

end Alphabet

section Texts

@[simp] theorem length_bits (text : Text) : (bits text).length = 5 * text.length := by
  rw [bits, Bits.length_spread, List.length_map]

@[simp] theorem bits_cons (c : Char) (text : Text) :
    bits (c :: text) = Bits.ofNat 5 (digit c) ++ bits text := rfl

theorem bits_append (left right : Text) : bits (left ++ right) = bits left ++ bits right := by
  rw [bits, List.map_append, Bits.spread_append]
  rfl

theorem bits_injective {left right : Text} (alphabetic : ∀ c ∈ left, c ∈ alphabet)
    (alphabetic' : ∀ c ∈ right, c ∈ alphabet) (same : bits left = bits right) : left = right := by
  have bounded : ∀ {text : Text}, (∀ c ∈ text, c ∈ alphabet) →
      ∀ n ∈ text.map digit, n < 2 ^ 5 := by
    intro text alphabetic n member
    rcases List.mem_map.mp member with ⟨c, inside, rfl⟩
    exact digit_lt (alphabetic c inside)
  have numbers := Bits.spread_injective (by decide) (bounded alphabetic) (bounded alphabetic') same
  rw [← map_letter_digit alphabetic, ← map_letter_digit alphabetic', numbers]

theorem encode_mem (bytes : List UInt8) : ∀ c ∈ encode bytes, c ∈ alphabet := by
  intro c member
  rcases List.mem_map.mp member with ⟨n, inside, rfl⟩
  exact letter_mem (Bits.gather_lt _ _ n inside)

theorem bits_encode {bytes : List UInt8} (whole : 5 ∣ 8 * bytes.length) :
    bits (encode bytes) = Bytes.bits bytes := by
  rcases whole with ⟨count, full⟩
  have letters : (8 * bytes.length + 4) / 5 = count := by omega
  have exact : (Bytes.bits bytes).length = 5 * count := by rw [length_bits_bytes, full]
  calc
    bits (encode bytes) = Bits.spread 5
        (Bits.gather 5 count (Bytes.bits bytes ++ List.replicate 4 false)) := by
      rw [bits, encode, letters, map_digit_letter (Bits.gather_lt _ _)]
    _ = (Bytes.bits bytes ++ List.replicate 4 false).take (5 * count) :=
      Bits.spread_gather (by rw [List.length_append, exact]; omega)
    _ = Bytes.bits bytes := List.take_left' exact

theorem encode_eq_iff {bytes : List UInt8} (whole : 5 ∣ 8 * bytes.length) (text : Text) :
    text = encode bytes ↔ (∀ c ∈ text, c ∈ alphabet) ∧ bits text = Bytes.bits bytes := by
  constructor
  · intro same
    subst same
    exact ⟨encode_mem bytes, bits_encode whole⟩
  · intro spelled
    rcases spelled with ⟨alphabetic, same⟩
    exact bits_injective alphabetic (encode_mem bytes) (same.trans (bits_encode whole).symm)

end Texts

end Base32
