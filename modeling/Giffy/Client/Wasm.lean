import Giffy.Circuit.Withdraw

/-! The browser prover's entry points, on the texts that cross its boundary. -/

namespace Giffy.Client

open Pool hiding depth
open Circuit

def hexOf {size : Nat} (b : BytesN size) : Text := Hex.encode b.data

/-- `trim_start_matches("0x")` -/
def trimMark : Text → Text
  | '0' :: 'x' :: rest => trimMark rest
  | text => text

/-- `u8::from_str_radix(_, 16)` on two characters; it takes a leading plus sign. -/
def byteFromHex (high low : Char) : Option UInt8 :=
  if high = '+' then (Hex.digitValue low).map UInt8.ofNat
  else do
    let h ← Hex.digitValue high
    let l ← Hex.digitValue low
    return UInt8.ofNat (h * 16 + l)

def hexToBytes : Text → Option (List UInt8)
  | [] => some []
  | high :: low :: rest => do
      let b ← byteFromHex high low
      let bytes ← hexToBytes rest
      return b :: bytes
  | [_] => none

def frFromHex (text : Text) : Option Fr := do
  let raw ← hexToBytes (trimMark text)
  if fits : raw.length ≤ 32 then
    return Fr.fromBytes ⟨List.replicate (32 - raw.length) 0 ++ raw, by simp; omega⟩
  else
    none

def frToHex (x : Fr) : Text := hexOf (Fr.toBytes x)

section Entry

variable (hash2 : Fr → Fr → Fr)

def noteCommitmentHex (secretHex : Text) : Option Text := do
  let secret ← frFromHex secretHex
  return frToHex (note hash2 secret)

def poseidonHash2Hex (a b : Text) : Option Text := do
  let x ← frFromHex a
  let y ← frFromHex b
  return frToHex (hash2 x y)

structure SorobanProof where
  a : Text
  b : Text
  c : Text
  root : Text
  nullifier : Text
deriving DecidableEq

/-- `assert_eq!(_.len(), DEPTH)` and the copy into an array. -/
def toArray {α : Type} (items : List α) : Option (Vector α depth) :=
  if fits : items.length = depth then some ⟨items.toArray, by simp [fits]⟩ else none

/-- `prover` is `Groth16::prove` with the loaded key and its randomness. -/
def proveWithdrawJs (prover : WithdrawCircuit → Proof)
    (secretHex siblingsHex indexBits recipientHex : Text) : Option SorobanProof := do
  let sibs ← ((siblingsHex.splitOn '\n').filter (· ≠ [])).mapM frFromHex
  let siblings ← toArray sibs
  let bits ← toArray (indexBits.map (· == '1'))
  let secret ← frFromHex secretHex
  let recipient ← frFromHex recipientHex
  let assigned := assign hash2 secret siblings bits recipient
  let proof := prover assigned.1
  return ⟨hexOf proof.a, hexOf proof.b, hexOf proof.c, frToHex assigned.2.1, frToHex assigned.2.2⟩

end Entry

section Texts

theorem trimMark_encode (bytes : List UInt8) : trimMark (Hex.encode bytes) = Hex.encode bytes := by
  cases bytes with
  | nil => rfl
  | cons b bytes =>
      change trimMark (Hex.digit (b.toNat / 16) :: Hex.digit (b.toNat % 16) :: Hex.encode bytes) = _
      unfold trimMark
      split
      next rest same =>
        exact absurd (List.cons.inj (List.cons.inj same).2).1 (Hex.digit_ne_x (Hex.low_lt b))
      next => rfl

theorem hexToBytes_encode (bytes : List UInt8) : hexToBytes (Hex.encode bytes) = some bytes := by
  induction bytes with
  | nil => rfl
  | cons b bytes ih =>
      change hexToBytes (Hex.digit (b.toNat / 16) :: Hex.digit (b.toNat % 16) :: Hex.encode bytes) = _
      have joined : UInt8.ofNat (b.toNat / 16 * 16 + b.toNat % 16) = b := by
        rw [Nat.div_add_mod', UInt8.ofNat_toNat]
      rw [hexToBytes, byteFromHex, if_neg (Hex.digit_ne_plus (Hex.high_lt b)),
        Hex.digitValue_digit (Hex.high_lt b), Hex.digitValue_digit (Hex.low_lt b), ih]
      exact congrArg some (congrArg (· :: bytes) joined)

theorem frFromHex_hexOf (b : BytesN 32) : frFromHex (hexOf b) = some (toFr b) := by
  rw [frFromHex, hexOf, trimMark_encode, hexToBytes_encode]
  simp [b.width, toFr]

theorem frFromHex_frToHex (x : Fr) : frFromHex (frToHex x) = some x := by
  rw [frToHex, frFromHex_hexOf, toFr, Fr.fromBytes_toBytes]

theorem poseidonHash2Hex_hexOf (hash2 : Fr → Fr → Fr) (a b : BytesN 32) :
    poseidonHash2Hex hash2 (hexOf a) (hexOf b) = some (hexOf (h2 hash2 a b)) := by
  simp [poseidonHash2Hex, frFromHex_hexOf, h2, frToHex]

theorem hexOf_injective {size : Nat} {a b : BytesN size} (same : hexOf a = hexOf b) : a = b :=
  BytesN.ext (Hex.encode_injective same)

theorem hexOf_no_newline {size : Nat} (b : BytesN size) : '\n' ∉ hexOf b := fun member =>
  Hex.encode_chars (P := fun c => c ≠ '\n') (fun _ => Hex.digit_ne_newline) b.data _ member rfl

theorem hexOf_ne_nil (b : BytesN 32) : hexOf b ≠ [] := by
  intro empty
  have length := congrArg List.length empty
  rw [hexOf, Hex.encode_length, b.width] at length
  cases length

theorem lower_hexOf {size : Nat} (b : BytesN size) : (hexOf b).map Char.toLower = hexOf b :=
  Hex.map_toLower_encode b.data

theorem toArray_getD {α : Type} {items : List α} {array : Vector α depth}
    (made : toArray items = some array) (level : Nat) (default : α) :
    array.getD level default = items.getD level default := by
  unfold toArray at made
  split at made
  · cases made
    simp [Vector.getD, List.getD_eq_getElem?_getD]
  · cases made

theorem toArray_of_length {α : Type} (items : List α) (fits : items.length = depth) :
    ∃ array, toArray items = some array := by
  rw [toArray, dif_pos fits]
  exact ⟨_, rfl⟩

end Texts

end Giffy.Client
