import Giffy.Circuit.Poseidon2
import Giffy.Circuit.Withdraw

/-! The constraints of the withdraw circuit and the relation they prove. -/

namespace Giffy.Circuit

open R1cs Poseidon

attribute [local instance] frModulus_fact

section Source

variable (circuit : WithdrawCircuit)

/-- One level of the path: bit 1 puts the note on the right. -/
def climbVar (cur : FpVar Fr) (level : Nat) : Synthesis Fr (FpVar Fr) := do
  let sibling ← FpVar.newWitness fun _ => do
    let siblings ← circuit.siblings
    siblings[level]?
  let bit ← Boolean.newWitness fun _ => do
    let indexBits ← circuit.indexBits
    indexBits[level]?
  let left ← conditionallySelect bit sibling cur
  let right ← conditionallySelect bit cur sibling
  hash2Var left right

def proveNote (root nullifier recipient : FpVar Fr) : Synthesis Fr Unit := do
  let secret ← FpVar.newWitness fun _ => circuit.secret
  let zero := FpVar.constant 0
  let one := FpVar.constant 1
  let cur ← hash2Var secret zero
  let cur ← (List.range depth).foldlM (climbVar circuit) cur
  cur.enforceEqual root
  let nf ← hash2Var secret one
  nf.enforceEqual nullifier
  let _bound ← recipient.mul recipient
  return ()

def generateConstraints : Synthesis Fr Unit := do
  let root ← FpVar.newInput fun _ => circuit.root
  let nullifier ← FpVar.newInput fun _ => circuit.nullifier
  let recipient ← FpVar.newInput fun _ => circuit.recipient
  proveNote circuit root nullifier recipient

def operations : List (Operation Fr) := ((generateConstraints circuit).build ⟨0, 0⟩).operations

end Source

section Soundness

variable {z : Assignment Fr} {circuit : WithdrawCircuit}

def Climbed (z : Assignment Fr) (leaf : Fr) (level : Nat) (cur : FpVar Fr) : Prop :=
  ∃ (siblings : Nat → Fr) (bits : Nat → Bool),
    cur.value? z = some (MerkleTree.climb hash2 siblings bits leaf level)

theorem climb_update (siblings : Nat → Fr) (bits : Nat → Bool) (leaf sibling : Fr) (bit : Bool)
    (level : Nat) :
    MerkleTree.climb hash2 (Function.update siblings level sibling)
        (Function.update bits level bit) leaf level =
      MerkleTree.climb hash2 siblings bits leaf level := by
  apply MerkleTree.climb_congr
  intro l below
  exact ⟨Function.update_of_ne below.ne _ _, Function.update_of_ne below.ne _ _⟩

theorem forces_climb {leaf : Fr} (level : Nat) (cur : FpVar Fr)
    (climbed : Climbed z leaf level cur) :
    Forces z (climbVar circuit cur level) (Climbed z leaf (level + 1)) := by
  rcases climbed with ⟨siblings, bits, valued⟩
  refine forces_bind (forces_witness _) ?_
  intro sibling read
  rcases read with ⟨x, found⟩
  refine forces_bind (forces_boolean _) ?_
  intro bit read
  rcases read with ⟨b, chosen⟩
  refine forces_bind (forces_select chosen found valued) ?_
  intro left leftValue
  refine forces_bind (forces_select chosen valued found) ?_
  intro right rightValue
  refine forces_mono (forces_hash2 leftValue rightValue) ?_
  intro next hashed
  refine ⟨Function.update siblings level x, Function.update bits level b, ?_⟩
  rw [hashed, MerkleTree.climb, climb_update, Function.update_self, Function.update_self]
  cases b <;> rfl

theorem foldPath_ofFn (siblings : Nat → Fr) (bits : Nat → Bool) (leaf : Fr) :
    foldPath hash2 leaf (Vector.ofFn fun i => siblings i) (Vector.ofFn fun i => bits i) =
      MerkleTree.climb hash2 siblings bits leaf depth := by
  rw [foldPath, MerkleTree.foldl_range_climb]
  apply MerkleTree.climb_congr
  intro l below
  simp [Vector.getD, below]

theorem forces_proveNote {root nullifier recipient : Fr} {r n p : LinearCombination Fr}
    (rootValue : r.value? z = some root) (nullifierValue : n.value? z = some nullifier)
    (recipientValue : p.value? z = some recipient) :
    Forces z (proveNote circuit (.allocated r) (.allocated n) (.allocated p)) fun _ =>
      ∃ secret siblings indexBits, foldPath hash2 (note hash2 secret) siblings indexBits = root ∧
        hash2 secret 1 = nullifier := by
  refine forces_bind (forces_witness _) ?_
  intro secretVar read
  rcases read with ⟨secret, found⟩
  refine forces_bind (forces_hash2 (b := 0) found rfl) ?_
  intro leaf leafValue
  refine forces_bind (forces_range (Climbed z (note hash2 secret)) forces_climb depth
    ⟨fun _ => 0, fun _ => false, leafValue⟩) ?_
  intro top climbed
  rcases climbed with ⟨siblings, bits, reached⟩
  refine forces_bind (forces_enforceEqual reached rootValue) ?_
  intro _ sameRoot
  refine forces_bind (forces_hash2 (b := 1) found rfl) ?_
  intro nf nfValue
  refine forces_bind (forces_enforceEqual nfValue nullifierValue) ?_
  intro _ sameNullifier
  refine forces_bind (forces_mul recipientValue recipientValue) ?_
  intro _ _
  apply forces_pure
  rw [← foldPath_ofFn] at sameRoot
  exact ⟨secret, _, _, sameRoot, sameNullifier⟩

/-- Any assignment that satisfies the constraints holds a secret and a path. -/
theorem constraints_sound {root nullifier recipient : Fr}
    (inputs : z.inputs = [root, nullifier, recipient])
    (satisfied : Satisfies z ⟨0, 0⟩ (operations circuit)) :
    ∃ secret siblings indexBits, foldPath hash2 (note hash2 secret) siblings indexBits = root ∧
      hash2 secret 1 = nullifier := by
  have wire : ∀ {index : Nat} {x : Fr}, z.inputs[index]? = some x →
      LinearCombination.value? z [(.input index, 1)] = some x := by
    intro index x found
    exact LinearCombination.wire_value found
  have body := satisfies_input (satisfies_input (satisfies_input satisfied))
  exact forces_proveNote (wire (by rw [inputs]; rfl)) (wire (by rw [inputs]; rfl))
    (wire (by rw [inputs]; rfl)) _ body

end Soundness

section Completeness

variable {z : Assignment Fr}

theorem honest_climb {circuit : WithdrawCircuit} {siblings : Vector Fr depth}
    {indexBits : Vector Bool depth} (givenSiblings : circuit.siblings = some siblings)
    (givenBits : circuit.indexBits = some indexBits) (leaf : Fr) {level : Nat}
    (inside : level < depth) (cur : FpVar Fr)
    (climbed : cur.value? z = some (MerkleTree.climb hash2 (siblings.getD · 0)
      (indexBits.getD · false) leaf level)) :
    Honest z (climbVar circuit cur level) fun later next =>
      next.value? later = some (MerkleTree.climb hash2 (siblings.getD · 0)
        (indexBits.getD · false) leaf (level + 1)) := by
  refine honest_bind (honest_witness (a := siblings.getD level 0) ?_) ?_
  · simp [givenSiblings, Vector.getD, inside]
  intro z1 sibling g1 found
  refine honest_bind (honest_boolean (c := indexBits.getD level false) ?_) ?_
  · simp [givenBits, Vector.getD, inside]
  intro z2 bit g2 chosen
  have found := FpVar.grows_value g2 found
  have climbed := FpVar.grows_value (g1.trans g2) climbed
  refine honest_bind (honest_select chosen found climbed) ?_
  intro z3 left g3 leftValue
  refine honest_bind (honest_select (g3 _ _ chosen) (FpVar.grows_value g3 climbed)
    (FpVar.grows_value g3 found)) ?_
  intro z4 right g4 rightValue
  have hashed := honest_hash2 (FpVar.grows_value g4 leftValue) rightValue
  rw [MerkleTree.climb]
  cases bit : indexBits.getD level false <;> simpa [bit] using hashed

theorem honest_proveNote {secret recipient : Fr} {siblings : Vector Fr depth}
    {indexBits : Vector Bool depth} {rootVar nullifierVar recipientVar : FpVar Fr}
    (rootValue : rootVar.value? z = some (foldPath hash2 (note hash2 secret) siblings indexBits))
    (nullifierValue : nullifierVar.value? z = some (hash2 secret 1))
    (recipientValue : recipientVar.value? z = some recipient) :
    Honest z (proveNote (assign hash2 secret siblings indexBits recipient).1 rootVar nullifierVar
      recipientVar) fun _ _ => True := by
  rw [foldPath, MerkleTree.foldl_range_climb] at rootValue
  refine honest_bind (honest_witness (a := secret) rfl) ?_
  intro z1 secretVar g1 found
  refine honest_bind (honest_hash2 (b := 0) found rfl) ?_
  intro z2 leaf g2 leafValue
  refine honest_bind (honest_range (fun level later cur => cur.value? later =
    some (MerkleTree.climb hash2 (siblings.getD · 0) (indexBits.getD · false) (note hash2 secret)
      level)) depth (fun level _ cur inside _ => honest_climb rfl rfl _ inside cur) leafValue) ?_
  intro z3 top g3 reached
  have grown := g1.trans (g2.trans g3)
  refine honest_bind (honest_enforceEqual reached (FpVar.grows_value grown rootValue)) ?_
  intro z4 _ g4 _
  refine honest_bind (honest_hash2 (b := 1)
    (FpVar.grows_value (g2.trans (g3.trans g4)) found) rfl) ?_
  intro z5 nf g5 nfValue
  refine honest_bind (honest_enforceEqual nfValue
    (FpVar.grows_value (grown.trans (g4.trans g5)) nullifierValue)) ?_
  intro z6 _ g6 _
  have last := FpVar.grows_value (grown.trans (g4.trans (g5.trans g6))) recipientValue
  exact honest_bind (honest_mul last last) fun _ _ _ _ => honest_pure trivial

theorem assigned_proves (secret : Fr) (siblings : Vector Fr depth) (indexBits : Vector Bool depth)
    (recipient : Fr) :
    Proves ⟨[], []⟩ (generateConstraints (assign hash2 secret siblings indexBits recipient).1)
      fun later _ => later.inputs =
        [foldPath hash2 (note hash2 secret) siblings indexBits, hash2 secret 1, recipient] := by
  refine proves_bind (proves_input (a := foldPath hash2 (note hash2 secret) siblings indexBits)
    rfl) ?_
  intro z1 root _ given
  rcases given with ⟨i1, rootValue⟩
  refine proves_bind (proves_input (a := hash2 secret 1) rfl) ?_
  intro z2 nullifier g2 given
  rcases given with ⟨i2, nullifierValue⟩
  refine proves_bind (proves_input (a := recipient) rfl) ?_
  intro z3 recipientVar g3 given
  rcases given with ⟨i3, recipientValue⟩
  refine proves_mono (honest_proveNote (FpVar.grows_value (g2.trans g3) rootValue)
    (FpVar.grows_value g3 nullifierValue) recipientValue) ?_
  intro later _ kept
  rcases kept with ⟨same, _⟩
  rw [same, i3, i2, i1]
  rfl

theorem assigned_satisfies (secret : Fr) (siblings : Vector Fr depth)
    (indexBits : Vector Bool depth) (recipient : Fr) :
    ∃ z, prove ⟨[], []⟩ (operations (assign hash2 secret siblings indexBits recipient).1) = some z ∧
      z.inputs =
        [foldPath hash2 (note hash2 secret) siblings indexBits, hash2 secret 1, recipient] ∧
      Satisfies z ⟨0, 0⟩ (operations (assign hash2 secret siblings indexBits recipient).1) := by
  obtain ⟨z, ran, satisfied, inputs⟩ :=
    (assigned_proves secret siblings indexBits recipient).satisfies
  have empty : (⟨[], []⟩ : Assignment Fr).layout = ⟨0, 0⟩ := rfl
  rw [empty] at ran satisfied
  rw [operations]
  exact ⟨z, ran, inputs, satisfied⟩

end Completeness

section Structure

theorem alike_climb (circuit other : WithdrawCircuit) (cur : FpVar Fr) (level : Nat) :
    Alike (climbVar circuit cur level) (climbVar other cur level) :=
  alike_bind (alike_witness _ _) fun _ => alike_bind (alike_boolean _ _) fun _ => alike_refl _

theorem generateConstraints_alike (circuit other : WithdrawCircuit) :
    Alike (generateConstraints circuit) (generateConstraints other) :=
  alike_bind (alike_input _ _) fun _ => alike_bind (alike_input _ _) fun _ =>
    alike_bind (alike_input _ _) fun _ => alike_bind (alike_witness _ _) fun _ =>
      alike_bind (alike_refl _) fun leaf =>
        alike_bind (alike_foldlM (alike_climb circuit other) _ leaf) fun _ => alike_refl _

end Structure

/-- The constraints are satisfiable for public inputs exactly when a secret and a path give
the root and the nullifier, and an assigned circuit satisfies its own. -/
theorem constraints_exact :
    (∀ (circuit : WithdrawCircuit) (root nullifier recipient : Fr),
      (∃ z : Assignment Fr, z.inputs = [root, nullifier, recipient] ∧
          z.layout = Layout.advance ⟨0, 0⟩ (operations circuit) ∧
          Satisfies z ⟨0, 0⟩ (operations circuit)) ↔
        ∃ secret siblings indexBits,
          foldPath hash2 (note hash2 secret) siblings indexBits = root ∧
            hash2 secret 1 = nullifier) ∧
    ∀ secret siblings indexBits recipient,
      let assigned := assign hash2 secret siblings indexBits recipient
      ∃ z, prove ⟨[], []⟩ (operations assigned.1) = some z ∧
        z.inputs = [assigned.2.1, assigned.2.2, recipient] ∧
        Satisfies z ⟨0, 0⟩ (operations assigned.1) := by
  constructor
  · intro circuit root nullifier recipient
    constructor
    · intro accepted
      rcases accepted with ⟨z, inputs, _, satisfied⟩
      exact constraints_sound inputs satisfied
    · intro known
      rcases known with ⟨secret, siblings, indexBits, rfl, rfl⟩
      obtain ⟨z, ran, inputs, satisfied⟩ :=
        assigned_satisfies secret siblings indexBits recipient
      have alike := generateConstraints_alike circuit
        (assign hash2 secret siblings indexBits recipient).1
      refine ⟨z, inputs, ?_, (alike.satisfies ⟨0, 0⟩).mpr satisfied⟩
      exact (prove_layout ran).1.trans (alike ⟨0, 0⟩).2.1.symm
  · exact assigned_satisfies

end Giffy.Circuit
