import Giffy.Pool.Tree
import Mathlib.Data.Nat.Init

/-! The withdraw circuit's native assignment, and the leaf a path can start from. -/

namespace Giffy.Circuit

open Pool

def depth : Nat := 8

/-- The public and private inputs; `none` stands for the setup phase. -/
structure WithdrawCircuit where
  root : Option Fr
  nullifier : Option Fr
  recipient : Option Fr
  secret : Option Fr
  siblings : Option (Vector Fr depth)
  indexBits : Option (Vector Bool depth)

variable (hash2 : Fr → Fr → Fr)

def note (secret : Fr) : Fr := hash2 secret 0

def foldPath (leaf : Fr) (siblings : Vector Fr depth) (indexBits : Vector Bool depth) : Fr :=
  (List.range depth).foldl
    (fun cur level =>
      if indexBits.getD level false then hash2 (siblings.getD level 0) cur
      else hash2 cur (siblings.getD level 0))
    leaf

def assign (secret : Fr) (siblings : Vector Fr depth) (indexBits : Vector Bool depth)
    (recipient : Fr) : WithdrawCircuit × Fr × Fr :=
  let root := foldPath hash2 (note hash2 secret) siblings indexBits
  let nullifier := hash2 secret 1
  (⟨some root, some nullifier, some recipient, some secret, some siblings, some indexBits⟩, root,
    nullifier)

def assignedRoot (secret : Fr) (siblings : Vector Fr depth) (indexBits : Vector Bool depth)
    (recipient : Fr) : Fr := (assign hash2 secret siblings indexBits recipient).2.1

def position (indexBits : Vector Bool depth) : Nat :=
  Nat.ofBits fun level : Fin depth => indexBits.getD level false

theorem position_bit (indexBits : Vector Bool depth) {level : Nat} (bound : level < depth) :
    (position indexBits).testBit level = indexBits.getD level false :=
  Nat.testBit_ofBits_lt _ level bound

theorem position_lt (indexBits : Vector Bool depth) : position indexBits < 2 ^ depth :=
  Nat.ofBits_lt_two_pow _

def hashedPair (secret : Fr) (siblings : Vector Fr depth) (indexBits : Vector Bool depth)
    (level : Nat) : Fr × Fr :=
  MerkleTree.pathPair hash2 (siblings.getD · 0) (indexBits.getD · false) (note hash2 secret) level

theorem assignedRoot_eq (secret : Fr) (siblings : Vector Fr depth)
    (indexBits : Vector Bool depth) (recipient : Fr) :
    assignedRoot hash2 secret siblings indexBits recipient =
      MerkleTree.climb hash2 (siblings.getD · 0) (indexBits.getD · false) (note hash2 secret)
        depth :=
  MerkleTree.foldl_range_climb hash2 (siblings.getD · 0) (indexBits.getD · false)
    (note hash2 secret) depth

/-- A path that reaches the root of a tree starts at the leaf its bits spell, or shows a
collision at some level. -/
theorem path_binding (leaves : List Fr) (secret : Fr) (siblings : Vector Fr depth)
    (indexBits : Vector Bool depth) (recipient : Fr)
    (reached : assignedRoot hash2 secret siblings indexBits recipient =
      MerkleTree.root hash2 0 depth leaves) :
    note hash2 secret = MerkleTree.padded 0 leaves (position indexBits) ∨
      ∃ level, level < depth ∧
        hashedPair hash2 secret siblings indexBits level ≠
          MerkleTree.treePair hash2 (MerkleTree.padded 0 leaves) (position indexBits) level ∧
        Function.uncurry hash2 (hashedPair hash2 secret siblings indexBits level) =
          Function.uncurry hash2 (MerkleTree.treePair hash2 (MerkleTree.padded 0 leaves)
            (position indexBits) level) := by
  refine MerkleTree.climb_binding (fun level bound => (position_bit indexBits bound).symm) ?_
  rw [← assignedRoot_eq hash2 secret siblings indexBits recipient, reached,
    Nat.div_eq_of_lt (position_lt indexBits)]
  rfl

variable {Address : Type} [DecidableEq Address]

/-- A path that reaches the pool's root proves a deposited commitment, or the zero padding,
at the position its bits spell, unless two pairs on the two paths collide. -/
theorem membership_sound (d : Deployment Address)
    (actions : List (Action Address (Call Address))) (rootBytes : BytesN 32) (secret : Fr)
    (siblings : Vector Fr depth) (indexBits : Vector Bool depth) (recipient : Fr)
    (current : root ((machine d).final State.empty actions) = some rootBytes)
    (reached : Fr.toBytes (assignedRoot d.hash2 secret siblings indexBits recipient) =
      rootBytes) :
    let leaves := (commitments ((machine d).trace State.empty actions)).map toFr
    d.hash2 secret 0 = MerkleTree.padded 0 leaves (position indexBits) ∨
      ∃ level, level < depth ∧
        hashedPair d.hash2 secret siblings indexBits level ≠
          MerkleTree.treePair d.hash2 (MerkleTree.padded 0 leaves) (position indexBits) level ∧
        Function.uncurry d.hash2 (hashedPair d.hash2 secret siblings indexBits level) =
          Function.uncurry d.hash2 (MerkleTree.treePair d.hash2 (MerkleTree.padded 0 leaves)
            (position indexBits) level) := by
  intro leaves
  apply path_binding d.hash2 leaves secret siblings indexBits recipient
  cases stored : ((machine d).final State.empty actions).storage with
  | none =>
      simp [root, stored] at current
  | some pool =>
      have grown := (run_follows d actions).grown pool stored
      rw [grown.root_eq stored, Option.some.injEq, treeRoot_eq] at current
      exact Fr.toBytes_injective (reached.trans current.symm)

def samplePath : Vector Fr depth := #v[78, 0, 0, 0, 0, 0, 0, 0]

def sampleBits : Vector Bool depth := Vector.replicate depth false

theorem membership_sound_sample :
    let leaves := (commitments ((machine sampleDeployment).trace State.empty sampleDeposits)).map
      toFr
    sampleDeployment.hash2 77 0 = MerkleTree.padded 0 leaves (position sampleBits) ∨
      ∃ level, level < depth ∧
        hashedPair sampleDeployment.hash2 77 samplePath sampleBits level ≠
          MerkleTree.treePair sampleDeployment.hash2 (MerkleTree.padded 0 leaves)
            (position sampleBits) level ∧
        Function.uncurry sampleDeployment.hash2
            (hashedPair sampleDeployment.hash2 77 samplePath sampleBits level) =
          Function.uncurry sampleDeployment.hash2 (MerkleTree.treePair sampleDeployment.hash2
            (MerkleTree.padded 0 leaves) (position sampleBits) level) :=
  membership_sound sampleDeployment sampleDeposits (BytesN.ofNat 32 233) 77 samplePath sampleBits 3
    (by decide +kernel) (by decide +kernel)

end Giffy.Circuit
