import Giffy.Client.SealedClaim
import Giffy.Client.SealedDeposit
import Mathlib.Data.List.Infix

/-! The sealed claim link: what the receiver's page reads from the link the sender's page
wrote. -/

namespace Giffy.Client

open Circuit

/-- `window.location.hash` -/
def fragment (link : Text) : Text := link.dropWhile (· ≠ '#')

def isHexChar (c : Char) : Bool := (Hex.digitValue c).isSome

/-- `[#&]s=([0-9a-fA-F]{64})` at the front of a text. -/
def matchSecret : Text → Option Text
  | mark :: 's' :: '=' :: rest =>
      if (mark = '#' ∨ mark = '&') ∧ 64 ≤ rest.length ∧ (rest.take 64).all isHexChar then
        some (rest.take 64)
      else none
  | _ => none

def decodeSealedClaimSecret (hash : Text) : Option Text :=
  (hash.tails.findSome? matchSecret).map toLowerCase

section Links

theorem fragment_link {origin : Text} (plain : '#' ∉ origin) (secretHex : Text) :
    fragment (encodeSealedClaimLink origin secretHex) = "#s=".toList ++ secretHex := by
  have before : ∀ c ∈ origin ++ "/claim/sealed".toList, (c ≠ '#' : Bool) = true := by
    intro c member
    rw [decide_eq_true_eq]
    intro same
    subst same
    rcases List.mem_append.mp member with inside | inside
    · exact plain inside
    · exact absurd inside (by decide)
  have split : encodeSealedClaimLink origin secretHex =
      (origin ++ "/claim/sealed".toList) ++ ("#s=".toList ++ secretHex) := by
    rw [encodeSealedClaimLink, List.append_assoc, List.append_assoc]
    rfl
  rw [fragment, split, List.dropWhile_append_of_pos before]
  rfl

theorem matchSecret_hexOf (b : BytesN 32) :
    matchSecret ("#s=".toList ++ hexOf b) = some (hexOf b) := by
  have length : (hexOf b).length = 64 := by rw [hexOf, Hex.encode_length, b.width]
  have digits : (hexOf b).all isHexChar = true := by
    rw [List.all_eq_true]
    apply Hex.encode_chars
    intro n bound
    rw [isHexChar, Hex.digitValue_digit bound]
    rfl
  have whole : (hexOf b).take 64 = hexOf b := List.take_of_length_le length.le
  change (if ('#' = '#' ∨ '#' = '&') ∧ 64 ≤ (hexOf b).length ∧ ((hexOf b).take 64).all isHexChar
    then some ((hexOf b).take 64) else none) = _
  rw [whole, if_pos ⟨Or.inl rfl, length.ge, digits⟩]

theorem decode_hexOf (b : BytesN 32) :
    decodeSealedClaimSecret ("#s=".toList ++ hexOf b) = some (hexOf b) := by
  have first : ("#s=".toList ++ hexOf b).tails =
      ("#s=".toList ++ hexOf b) :: ("s=".toList ++ hexOf b).tails := rfl
  rw [decodeSealedClaimSecret, first, List.findSome?_cons, matchSecret_hexOf, Option.map_some,
    toLowerCase, lower_hexOf]

theorem matchSecret_length {text secret : Text} (found : matchSecret text = some secret) :
    67 ≤ text.length := by
  unfold matchSecret at found
  split at found
  next mark rest =>
    split at found
    next fits =>
      rw [List.length_cons, List.length_cons, List.length_cons]
      exact Nat.add_le_add_right fits.2.1 3
    next => cases found
  next => cases found

theorem decode_short {hash : Text} (short : hash.length < 67) :
    decodeSealedClaimSecret hash = none := by
  rw [decodeSealedClaimSecret, Option.map_eq_none_iff, List.findSome?_eq_none_iff]
  intro rest member
  cases found : matchSecret rest with
  | none => rfl
  | some secret =>
      have inside := ((List.mem_tails _ _).mp member).length_le
      exact absurd (matchSecret_length found) (by omega)

end Links

section Secrets

variable (hash2 : Fr → Fr → Fr)

/-- A secret below the field order is written the way the prover writes field elements. -/
theorem toHex32_eq {secret : Nat} (below : secret < frModulus) :
    toHex32 secret = frToHex (secret : Fr) := by
  have bound : secret < 16 ^ (63 + 1) := below.trans (by decide)
  calc
    toHex32 secret = Hex.lastDigits 64 secret := Hex.leftpad_toDigits bound
    _ = Hex.encode (Bytes.encode 32 secret) := (Hex.encode_bytes 32 secret).symm
    _ = frToHex (secret : Fr) := by
      rw [frToHex, hexOf, Fr.toBytes, ZMod.val_natCast_of_lt below]
      rfl

theorem generateNote_eq (buf : BytesN 32) :
    generateNote hash2 buf = .ok ⟨toHex32 (buf.value % frModulus),
      frToHex (note hash2 (buf.value % frModulus : ℕ))⟩ := by
  have below : buf.value % frModulus < frModulus := Nat.mod_lt _ (by decide)
  rw [generateNote, noteCommitmentHex, toHex32_eq below, frFromHex_frToHex]
  rfl

theorem proved_nullifier {prover : WithdrawCircuit → Pool.Proof} {secret : Fr}
    {siblingsHex indexBits recipientHex : Text} {proof : SorobanProof}
    (proved : proveWithdrawJs hash2 prover (frToHex secret) siblingsHex indexBits recipientHex =
      some proof) : proof.nullifier = frToHex (hash2 secret 1) := by
  simp only [proveWithdrawJs, frFromHex_frToHex, Option.bind_eq_bind, Option.bind_eq_some_iff,
    Option.some.injEq, Option.pure_def] at proved
  rcases proved with ⟨_, _, siblings, _, bits, _, read, same, recipient, _, made⟩
  rw [← made, ← same, assign]

theorem cut_link {secretHex part : Text} (width : secretHex.length = 64)
    (cut : part <+: "#s=".toList ++ secretHex) (proper : part ≠ "#s=".toList ++ secretHex) :
    decodeSealedClaimSecret part = none := by
  have length : ("#s=".toList ++ secretHex).length = 67 := by
    rw [List.length_append, width]
    rfl
  apply decode_short
  by_contra long
  exact proper (cut.eq_of_length_le (by omega))

/-- The link carries the note: the page reads the secret that was written, the prover takes it
for the same scalar and derives the note's commitment and nullifier, and a link cut short
carries nothing. -/
theorem sealed_link_faithful (prover : WithdrawCircuit → Pool.Proof) (buf : BytesN 32)
    (origin : Text) (plain : '#' ∉ origin) :
    let secret : Fr := (buf.value % frModulus : ℕ)
    let secretHex := toHex32 (buf.value % frModulus)
    let hash := fragment (encodeSealedClaimLink origin secretHex)
    generateNote hash2 buf = .ok ⟨secretHex, frToHex (note hash2 secret)⟩ ∧
    decodeSealedClaimSecret hash = some secretHex ∧
    frFromHex secretHex = some secret ∧ frToHex secret = secretHex ∧
    noteCommitmentHex hash2 secretHex = some (frToHex (note hash2 secret)) ∧
    (∀ siblingsHex indexBits recipientHex proof,
      proveWithdrawJs hash2 prover secretHex siblingsHex indexBits recipientHex = some proof →
        proof.nullifier = frToHex (hash2 secret 1)) ∧
    ∀ part, part <+: hash → part ≠ hash → decodeSealedClaimSecret part = none := by
  intro secret secretHex hash
  have below : buf.value % frModulus < frModulus := Nat.mod_lt _ (by decide)
  have written : secretHex = frToHex secret := toHex32_eq below
  have width : secretHex.length = 64 := by
    rw [written, frToHex, hexOf, Hex.encode_length, (Fr.toBytes secret).width]
  have fragment_eq : hash = "#s=".toList ++ secretHex := fragment_link plain secretHex
  refine ⟨generateNote_eq hash2 buf, ?_, ?_, written.symm, ?_, ?_, ?_⟩
  · rw [fragment_eq, written]
    exact decode_hexOf _
  · rw [written]
    exact frFromHex_frToHex secret
  · rw [written, noteCommitmentHex, frFromHex_frToHex]
    rfl
  · intro siblingsHex indexBits recipientHex proof proved
    rw [written] at proved
    exact proved_nullifier hash2 proved
  · intro part cut proper
    rw [fragment_eq] at cut proper
    exact cut_link width cut proper

theorem sealed_link_faithful_sample :
    let prover : WithdrawCircuit → Pool.Proof := fun _ =>
      ⟨BytesN.ofNat 96 1, BytesN.ofNat 192 2, BytesN.ofNat 96 3⟩
    let hash2 : Fr → Fr → Fr := fun a b => a + 2 * b
    let buf := BytesN.ofNat 32 (frModulus + 77)
    let origin := "https://giffy.app".toList
    let secret : Fr := (buf.value % frModulus : ℕ)
    let secretHex := toHex32 (buf.value % frModulus)
    let hash := fragment (encodeSealedClaimLink origin secretHex)
    generateNote hash2 buf = .ok ⟨secretHex, frToHex (note hash2 secret)⟩ ∧
    decodeSealedClaimSecret hash = some secretHex ∧
    frFromHex secretHex = some secret ∧ frToHex secret = secretHex ∧
    noteCommitmentHex hash2 secretHex = some (frToHex (note hash2 secret)) ∧
    (∀ siblingsHex indexBits recipientHex proof,
      proveWithdrawJs hash2 prover secretHex siblingsHex indexBits recipientHex = some proof →
        proof.nullifier = frToHex (hash2 secret 1)) ∧
    ∀ part, part <+: hash → part ≠ hash → decodeSealedClaimSecret part = none :=
  sealed_link_faithful _ _ _ _ (by decide)

end Secrets

end Giffy.Client
