import Giffy.Foundation.Base32

/-! Base-64 text over the URL-safe alphabet, without padding. -/

namespace Base64

def alphabet : Text := "ABCDEFGHIJKLMNOPQRSTUVWXYZabcdefghijklmnopqrstuvwxyz0123456789-_".toList

def letter (digit : Nat) : Char := alphabet.getD digit 'A'

def letters (size : Nat) : Nat := (8 * size + 5) / 6

/-- Six bits a letter; the last group is filled up with zeros. -/
def encode (bytes : List UInt8) : Text :=
  (Bits.gather 6 (letters bytes.length)
    (Bytes.bits bytes ++ List.replicate 5 false)).map letter

section Alphabet

theorem letter_cases {P : Char → Prop} (every : ∀ n : Fin 64, P (letter n)) {n : Nat}
    (bound : n < 64) : P (letter n) := every ⟨n, bound⟩

theorem encode_chars {P : Char → Prop} (every : ∀ n : Fin 64, P (letter n)) (bytes : List UInt8) :
    ∀ c ∈ encode bytes, P c := by
  intro c member
  rcases List.mem_map.mp member with ⟨n, inside, rfl⟩
  exact letter_cases every (Bits.gather_lt _ _ n inside)

end Alphabet

section Bytes

@[simp] theorem length_gather (width count : Nat) (bits : List Bool) :
    (Bits.gather width count bits).length = count := by
  induction count generalizing bits with
  | zero => rfl
  | succ count ih => rw [Bits.gather, List.length_cons, ih]

@[simp] theorem length_encode (bytes : List UInt8) :
    (encode bytes).length = letters bytes.length := by
  rw [encode, List.length_map, length_gather]

end Bytes

end Base64
