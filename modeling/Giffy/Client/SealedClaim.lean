import Giffy.Client.MerklePath

/-! Preparing a withdrawal in the browser and sending it to the pool. -/

namespace Giffy.Client

open Pool hiding depth
open Circuit TokenLedger

inductive ClientError
  | thrown (message : String)
  | panicked
deriving DecidableEq

structure SealedClaim where
  proof : SorobanProof
  leafIndex : Nat
deriving DecidableEq

structure WithdrawArgs where
  root : BytesN 32
  nullifier : BytesN 32
  recipientSignal : BytesN 32
  proof : Proof
deriving DecidableEq

def fromWasm {α : Type} (result : Option α) : Except ClientError α :=
  match result with
  | some a => .ok a
  | none => .error .panicked

section Flow

variable (hash2 : Fr → Fr → Fr) (prover : WithdrawCircuit → Proof)

def proveWithdraw (secretHex : Text) (siblingsHex : List Text) (indexBits : List Bool)
    (recipientHex : Text) : Except ClientError SorobanProof :=
  if siblingsHex.length ≠ poolDepth ∨ indexBits.length ≠ poolDepth then
    .error (.thrown "Merkle path must have exactly 8 levels.")
  else
    fromWasm (proveWithdrawJs hash2 prover secretHex (['\n'].intercalate siblingsHex)
      (indexBits.map fun bit => if bit then '1' else '0') recipientHex)

def toLowerCase (text : Text) : Text := text.map Char.toLower

def prepareWithdraw (commitments : List Text) (secretHex recipientHex : Text) :
    Except ClientError SealedClaim := do
  let commitment ← fromWasm (noteCommitmentHex hash2 secretHex)
  match commitments.findIdx? (fun c => toLowerCase c == toLowerCase commitment) with
  | none => .error (.thrown "This gift has not been deposited (or indexed) yet.")
  | some leafIndex =>
      let path ← fromWasm (buildAuthPath hash2 commitments leafIndex)
      let proof ← proveWithdraw hash2 prover secretHex path.siblingsHex path.indexBits recipientHex
      if toLowerCase proof.root ≠ toLowerCase path.rootHex then
        .error (.thrown "Internal error: reconstructed root and proof root disagree.")
      else
        return ⟨proof, leafIndex⟩

/-- `Buffer.from(_, 'hex')` -/
def bufferFromHex (text : Text) : List UInt8 := Hex.decode text

def hexToBuf : Text → List UInt8
  | '0' :: 'x' :: rest => bufferFromHex rest
  | text => bufferFromHex text

/-- The contract takes the bytes only at its own width. -/
def bytesArg (size : Nat) (text : Text) : Option (BytesN size) :=
  if width : (hexToBuf text).length = size then some ⟨hexToBuf text, width⟩ else none

def withdrawArgs (proof : SorobanProof) (recipientSignalHex : Text) : Option WithdrawArgs := do
  let root ← bytesArg 32 proof.root
  let nullifier ← bytesArg 32 proof.nullifier
  let recipientSignal ← bytesArg 32 recipientSignalHex
  let a ← bytesArg 96 proof.a
  let b ← bytesArg 192 proof.b
  let c ← bytesArg 96 proof.c
  return ⟨root, nullifier, recipientSignal, ⟨a, b, c⟩⟩

end Flow

section Texts

theorem hexToBuf_encode (bytes : List UInt8) : hexToBuf (Hex.encode bytes) = bytes := by
  have plain : hexToBuf (Hex.encode bytes) = bufferFromHex (Hex.encode bytes) := by
    cases bytes with
    | nil => rfl
    | cons b bytes =>
        change hexToBuf (Hex.digit (b.toNat / 16) :: Hex.digit (b.toNat % 16) ::
          Hex.encode bytes) = _
        unfold hexToBuf
        split
        next rest same =>
          exact absurd (List.cons.inj (List.cons.inj same).2).1 (Hex.digit_ne_x (Hex.low_lt b))
        next => rfl
  rw [plain, bufferFromHex, Hex.decode_encode]

theorem bytesArg_hexOf {size : Nat} (b : BytesN size) : bytesArg size (hexOf b) = some b := by
  have same := hexToBuf_encode b.data
  have width : (hexToBuf (Hex.encode b.data)).length = size := by rw [same, b.width]
  rw [bytesArg, hexOf, dif_pos width, Option.some.injEq]
  exact BytesN.ext same

theorem bitText_read (bits : List Bool) :
    (bits.map fun bit => if bit then '1' else '0').map (· == '1') = bits := by
  induction bits with
  | nil => rfl
  | cons bit bits ih =>
      rw [List.map_cons, List.map_cons, ih]
      cases bit <;> rfl

theorem joined_read {texts : List Text} (nonempty : texts ≠ [])
    (hex : ∀ text ∈ texts, ∃ b : BytesN 32, text = hexOf b) :
    ((['\n'].intercalate texts).splitOn '\n').filter (· ≠ []) = texts := by
  rw [List.splitOn_intercalate]
  · rw [List.filter_eq_self]
    intro text member
    rcases hex text member with ⟨b, rfl⟩
    simpa using hexOf_ne_nil b
  · intro text member
    rcases hex text member with ⟨b, rfl⟩
    exact hexOf_no_newline b
  · exact nonempty

end Texts

section Proving

variable {hash2 : Fr → Fr → Fr} {prover : WithdrawCircuit → Proof}

theorem siblings_read (leaf : Nat → BytesN 32) (index levels : Nat) :
    (siblingRow hash2 leaf index levels).mapM frFromHex = some ((List.range levels).map fun level =>
      toFr (MerkleTree.node (h2 hash2) leaf level (index / 2 ^ level ^^^ 1))) := by
  rw [siblingRow, List.mapM_map]
  induction levels with
  | zero => rfl
  | succ levels ih =>
      rw [List.range_succ, List.mapM_append, ih]
      simp [frFromHex_hexOf]

/-- Proving on a rebuilt path assigns the tree's root. -/
theorem proveWithdraw_path (prover : WithdrawCircuit → Proof) (leaves : List (BytesN 32))
    {index : Nat} (inside : index < 2 ^ depth)
    {secretHex : Text} {secret : Fr} (named : frFromHex secretHex = some secret)
    (placed : toFr (MerkleTree.padded zeroBytes leaves index) = note hash2 secret)
    (signal : BytesN 32) :
    ∃ siblings indexBits,
      assignedRoot hash2 secret siblings indexBits (toFr signal) =
        MerkleTree.root hash2 0 depth (leaves.map toFr) ∧
      let circuit := (assign hash2 secret siblings indexBits (toFr signal)).1
      proveWithdraw hash2 prover secretHex
          (siblingRow hash2 (MerkleTree.padded zeroBytes leaves) index poolDepth)
          ((List.range poolDepth).map index.testBit) (hexOf signal) =
        .ok ⟨hexOf (prover circuit).a, hexOf (prover circuit).b, hexOf (prover circuit).c,
          frToHex (assignedRoot hash2 secret siblings indexBits (toFr signal)),
          frToHex (hash2 secret 1)⟩ := by
  let leaf := MerkleTree.padded zeroBytes leaves
  let sibs := (List.range poolDepth).map fun level =>
    toFr (MerkleTree.node (h2 hash2) leaf level (index / 2 ^ level ^^^ 1))
  let bits := (List.range poolDepth).map index.testBit
  rcases toArray_of_length sibs (by simp [sibs]; rfl) with ⟨siblings, made⟩
  rcases toArray_of_length bits (by simp [bits]; rfl) with ⟨indexBits, marked⟩
  refine ⟨siblings, indexBits, ?_, ?_⟩
  · have start : note hash2 secret = MerkleTree.padded 0 (leaves.map toFr) index := by
      rw [← placed, MerkleTree.padded_map toFr, toFr_zeroBytes]
    rw [assignedRoot_eq, start, MerkleTree.climb_tree index]
    · rw [Nat.div_eq_of_lt inside]
      rfl
    · intro level bound
      have within : level < poolDepth := bound
      rw [toArray_getD marked]
      simp [bits, within]
    · intro level bound
      have within : level < poolDepth := bound
      rw [toArray_getD made]
      simp only [sibs, List.getD_eq_getElem?_getD, List.getElem?_map, List.getElem?_range within,
        Option.map_some, Option.getD_some]
      rw [MerkleTree.node_map toFr (toFr_h2 hash2)]
      simp only [leaf, MerkleTree.padded_map toFr, toFr_zeroBytes]
  · have hex : ∀ text ∈ siblingRow hash2 leaf index poolDepth, ∃ b : BytesN 32, text = hexOf b := by
      intro text member
      rcases List.mem_map.mp member with ⟨level, _, rfl⟩
      exact ⟨_, rfl⟩
    have nonempty : siblingRow hash2 leaf index poolDepth ≠ [] := by
      simp [siblingRow, poolDepth]
    have counted : ¬((siblingRow hash2 leaf index poolDepth).length ≠ poolDepth ∨
        bits.length ≠ poolDepth) := by
      simp [siblingRow_length, bits]
    simp only [proveWithdraw]
    rw [if_neg counted, proveWithdrawJs, joined_read nonempty hex, siblings_read, bitText_read,
      Option.bind_eq_bind, Option.bind_some, made, marked, named, frFromHex_hexOf]
    rfl

end Proving

section Claiming

attribute [local irreducible] MerkleTree.root treeRoot

variable {hash2 : Fr → Fr → Fr} {prover : WithdrawCircuit → Proof}

theorem find_leaf {leaves : List (BytesN 32)} {commitment : BytesN 32}
    (deposited : commitment ∈ leaves) :
    ∃ index, (leaves.map hexOf).findIdx?
        (fun c => toLowerCase c == toLowerCase (hexOf commitment)) = some index ∧
      index < leaves.length ∧ MerkleTree.padded zeroBytes leaves index = commitment := by
  cases found : (leaves.map hexOf).findIdx?
      (fun c => toLowerCase c == toLowerCase (hexOf commitment)) with
  | none =>
      rw [List.findIdx?_eq_none_iff] at found
      have missed := found _ (List.mem_map_of_mem deposited)
      simp at missed
  | some index =>
      rcases List.findIdx?_eq_some_iff_getElem.mp found with ⟨inside, matching, _⟩
      have within : index < leaves.length := by simpa using inside
      refine ⟨index, rfl, within, ?_⟩
      have same : hexOf leaves[index] = hexOf commitment := by
        simpa [toLowerCase, lower_hexOf] using matching
      rw [MerkleTree.padded, List.getD_eq_getElem _ _ within]
      exact hexOf_injective same

theorem prepareWithdraw_eq (prover : WithdrawCircuit → Proof) {leaves : List (BytesN 32)}
    (room : leaves.length ≤ 2 ^ depth)
    {secretHex : Text} {secret : Fr} (named : frFromHex secretHex = some secret)
    (deposited : Fr.toBytes (note hash2 secret) ∈ leaves) (signal : BytesN 32) :
    ∃ siblings indexBits index path,
      let circuit := (assign hash2 secret siblings indexBits (toFr signal)).1
      let proof : SorobanProof := ⟨hexOf (prover circuit).a, hexOf (prover circuit).b,
        hexOf (prover circuit).c, hexOf (treeRoot hash2 leaves), frToHex (hash2 secret 1)⟩
      Fr.toBytes (assignedRoot hash2 secret siblings indexBits (toFr signal)) =
        treeRoot hash2 leaves ∧
      buildAuthPath hash2 (leaves.map hexOf) index = some path ∧
      path.rootHex = hexOf (treeRoot hash2 leaves) ∧
      prepareWithdraw hash2 prover (leaves.map hexOf) secretHex (hexOf signal) =
        .ok ⟨proof, index⟩ := by
  rcases find_leaf deposited with ⟨index, found, within, placed⟩
  have inside : index < 2 ^ depth := Nat.lt_of_lt_of_le within room
  have reduced : toFr (MerkleTree.padded zeroBytes leaves index) = note hash2 secret := by
    rw [placed]
    exact Fr.fromBytes_toBytes _
  obtain ⟨siblings, indexBits, climbed, proved⟩ :=
    proveWithdraw_path prover leaves inside named reduced signal
  have sameRoot : Fr.toBytes (assignedRoot hash2 secret siblings indexBits (toFr signal)) =
      treeRoot hash2 leaves := by
    rw [climbed, treeRoot_eq]
    rfl
  have built := buildAuthPath_eq hash2 leaves inside
  refine ⟨siblings, indexBits, index, _, sameRoot, built, rfl, ?_⟩
  have committed : noteCommitmentHex hash2 secretHex =
      some (hexOf (Fr.toBytes (note hash2 secret))) := by
    rw [noteCommitmentHex, named]
    rfl
  simp only [frToHex, sameRoot] at proved
  rw [prepareWithdraw, committed]
  simp only [fromWasm, bind, Except.bind, found, built, proved, ne_eq, not_true_eq_false, if_false]
  rfl

variable {Address : Type} [DecidableEq Address]

/-- Whoever knows a deposited, unspent note can prepare a claim from any recent list of
leaves, and the pool pays it. -/
theorem sealed_gift_claimable (d : Deployment Address) (prover : WithdrawCircuit → Proof)
    (actions : List (Action Address (Call Address))) (pool : Instance Address)
    (ready : ((machine d).final State.empty actions).storage = some pool)
    (verifier : pool.config.verifier = d.verifier)
    (complete : ∀ secret siblings indexBits recipient,
      let assigned := assign d.hash2 secret siblings indexBits recipient
      verify d.bls pool.vk (prover assigned.1)
        [Fr.toBytes assigned.2.1, Fr.toBytes assigned.2.2, Fr.toBytes recipient] = some true)
    (secretHex : Text) (secret : Fr) (named : frFromHex secretHex = some secret) (k : Nat)
    (listed : k ≤ (commitments ((machine d).trace State.empty actions)).length)
    (recent : (commitments ((machine d).trace State.empty actions)).length - k ≤ rootHistory - 1)
    (deposited : Fr.toBytes (note d.hash2 secret) ∈
      (commitments ((machine d).trace State.empty actions)).take k)
    (unspent : Fr.toBytes (d.hash2 secret 1) ∉
      ((machine d).final State.empty actions).nullifiers)
    (signal : BytesN 32) (recipient : Address) (env : Env Address)
    (funded : pool.config.denom.value ≤
      ((machine d).final State.empty actions).balances pool.config.token d.self)
    (unrefused : env.refuses ⟨pool.config.token, d.self, recipient, pool.config.denom.value⟩ =
      false) :
    let s := (machine d).final State.empty actions
    let served := ((commitments ((machine d).trace State.empty actions)).take k).map hexOf
    ∃ claim path args after receipt,
      prepareWithdraw d.hash2 prover served secretHex (hexOf signal) = .ok claim ∧
      buildAuthPath d.hash2 served claim.leafIndex = some path ∧
      path.rootHex = claim.proof.root ∧
      withdrawArgs claim.proof (hexOf signal) = some args ∧
      claim.proof.root = hexOf args.root ∧ args.root ∈ pool.roots ∧
      withdraw d env s args.root args.nullifier recipient args.recipientSignal args.proof =
        .ok (after, receipt) ∧
      receipt.transfers = [⟨pool.config.token, d.self, recipient, pool.config.denom.value⟩] ∧
      after.balances = move s.balances
        ⟨pool.config.token, d.self, recipient, pool.config.denom.value⟩ := by
  intro s served
  have grown := (run_follows d actions).grown pool ready
  let leaves := (commitments ((machine d).trace State.empty actions)).take k
  have room : leaves.length ≤ 2 ^ depth :=
    le_trans (List.length_take_le' k _) grown.room
  obtain ⟨siblings, indexBits, index, path, sameRoot, built, rootHex, prepared⟩ :=
    prepareWithdraw_eq prover room named deposited signal
  have known : treeRoot d.hash2 leaves ∈ pool.roots := by
    rw [grown.roots]
    exact recent_root_mem d.hash2 listed recent
  let proof := prover (assign d.hash2 secret siblings indexBits (toFr signal)).1
  have accepted : callVerifier d pool.config.verifier pool.vk proof
      [treeRoot d.hash2 leaves, Fr.toBytes (d.hash2 secret 1), signal] = .ok true := by
    have canonical := complete secret siblings indexBits (toFr signal)
    have raw : verify d.bls pool.vk proof
        [treeRoot d.hash2 leaves, Fr.toBytes (d.hash2 secret 1), signal] =
        verify d.bls pool.vk proof
          [treeRoot d.hash2 leaves, Fr.toBytes (d.hash2 secret 1), Fr.toBytes (toFr signal)] := by
      apply verify_congr
      simp [toFr]
    change verify d.bls pool.vk proof
      [Fr.toBytes (assignedRoot d.hash2 secret siblings indexBits (toFr signal)),
        Fr.toBytes (d.hash2 secret 1), Fr.toBytes (toFr signal)] = some true at canonical
    rw [sameRoot] at canonical
    rw [callVerifier, if_pos verifier, required_eq_ok, raw, canonical]
  refine ⟨_, path, ⟨treeRoot d.hash2 leaves, Fr.toBytes (d.hash2 secret 1), signal, proof⟩, _, _,
    prepared, built, rootHex, ?_, rfl, known,
    withdraw_eq_ok ready known unspent accepted funded unrefused, rfl, rfl⟩
  simp only [withdrawArgs, frToHex, bytesArg_hexOf, Option.bind_eq_bind, Option.bind_some,
    Option.pure_def]
  rfl

end Claiming

def sampleProver (circuit : WithdrawCircuit) : Proof :=
  ⟨scalarPoint 64 0, scalarPoint 160 0, scalarPoint 64
    (-(circuit.root.getD 0 + circuit.nullifier.getD 0 + circuit.recipient.getD 0))⟩

theorem sampleProver_complete (secret : Fr) (siblings : Vector Fr depth)
    (indexBits : Vector Bool depth) (recipient : Fr) :
    let assigned := assign sampleDeployment.hash2 secret siblings indexBits recipient
    verify sampleDeployment.bls sampleKey (sampleProver assigned.1)
      [Fr.toBytes assigned.2.1, Fr.toBytes assigned.2.2, Fr.toBytes recipient] = some true := by
  intro assigned
  have points : publicPoint scalarGroup sampleKey.ic
      [Fr.toBytes assigned.2.1, Fr.toBytes assigned.2.2, Fr.toBytes recipient] =
      some (scalarPoint 64 (assigned.2.1 + assigned.2.2 + recipient)) := by
    simp [publicPoint, sampleKey, scalarGroup, List.range_succ, List.replicate_succ, add_assoc]
  change verify scalarGroup sampleKey _ _ = _
  rw [verify, points]
  simp [sampleKey, scalarGroup, sampleProver, assigned, assign]

theorem sealed_gift_claimable_sample :
    let s := (machine sampleDeployment).final State.empty sampleDeposits
    let served := ((commitments ((machine sampleDeployment).trace State.empty sampleDeposits)).take
      2).map hexOf
    let pool := s.storage.get sampleDeposits_ready
    ∃ claim path args after receipt,
      prepareWithdraw sampleDeployment.hash2 sampleProver served (hexOf (Fr.toBytes 77))
        (hexOf (BytesN.ofNat 32 3)) = .ok claim ∧
      buildAuthPath sampleDeployment.hash2 served claim.leafIndex = some path ∧
      path.rootHex = claim.proof.root ∧
      withdrawArgs claim.proof (hexOf (BytesN.ofNat 32 3)) = some args ∧
      claim.proof.root = hexOf args.root ∧ args.root ∈ pool.roots ∧
      withdraw sampleDeployment sampleEnv s args.root args.nullifier 2 args.recipientSignal
        args.proof = .ok (after, receipt) ∧
      receipt.transfers = [⟨pool.config.token, 0, 2, pool.config.denom.value⟩] ∧
      after.balances = move s.balances ⟨pool.config.token, 0, 2, pool.config.denom.value⟩ := by
  have vk : (((machine sampleDeployment).final State.empty sampleDeposits).storage.get
      sampleDeposits_ready).vk = sampleKey := by decide +kernel
  exact sealed_gift_claimable sampleDeployment sampleProver sampleDeposits _
    (Option.some_get sampleDeposits_ready).symm (by decide +kernel)
    (fun secret siblings indexBits recipient => vk ▸
      sampleProver_complete secret siblings indexBits recipient)
    (hexOf (Fr.toBytes 77)) 77 (frFromHex_frToHex 77) 2 (by decide +kernel) (by decide +kernel)
    (by decide +kernel) (by decide +kernel) (BytesN.ofNat 32 3) 2 sampleEnv (by decide +kernel) rfl

end Giffy.Client
