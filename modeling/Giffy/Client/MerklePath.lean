import Giffy.Client.Wasm

/-! The browser's rebuild of the pool tree and the path it reads off. -/

namespace Giffy.Client

open Pool hiding depth
open Circuit

def poolDepth : Nat := 8

def zeroHex : Text := List.replicate 64 '0'

structure MerklePath where
  siblingsHex : List Text
  indexBits : List Bool
  rootHex : Text

section Rebuild

variable (hash2 : Fr → Fr → Fr)

def pushZeroHex (zeros : List Text) (i : Nat) : Option (List Text) := do
  let z ← zeros[i]?
  let next ← poseidonHash2Hex hash2 z z
  return zeros ++ [next]

def computeZeros : Option (List Text) := (List.range poolDepth).foldlM (pushZeroHex hash2) [zeroHex]

def hashPairs : List Text → Option (List Text)
  | [] => some []
  | left :: right :: rest => do
      let node ← poseidonHash2Hex hash2 left right
      let nodes ← hashPairs rest
      return node :: nodes
  | [_] => none

structure Walk where
  level : List Text
  siblingsHex : List Text
  indexBits : List Bool
  pos : Nat

def walkPass (zeros : List Text) (walk : Walk) (d : Nat) : Option Walk := do
  let siblingPos := walk.pos ^^^ 1
  let sibling ← if siblingPos < walk.level.length then walk.level[siblingPos]? else zeros[d]?
  let next ← hashPairs hash2 walk.level
  return ⟨next, walk.siblingsHex ++ [sibling], walk.indexBits ++ [walk.pos &&& 1 == 1],
    walk.pos >>> 1⟩

def buildAuthPath (leaves : List Text) (leafIndex : Nat) : Option MerklePath := do
  let zeros ← computeZeros hash2
  let width := 1 <<< poolDepth
  let level := (List.range width).map fun i => if i < leaves.length then leaves.getD i zeroHex
    else zeroHex
  let walk ← (List.range poolDepth).foldlM (walkPass hash2 zeros) ⟨level, [], [], leafIndex⟩
  let rootHex ← walk.level[0]?
  return ⟨walk.siblingsHex, walk.indexBits, rootHex⟩

end Rebuild

section Rows

variable (hash2 : Fr → Fr → Fr) (leaf : Nat → BytesN 32)

def row (level width : Nat) : List Text :=
  (List.range width).map fun j => hexOf (MerkleTree.node (h2 hash2) leaf level j)

def siblingRow (index levels : Nat) : List Text :=
  (List.range levels).map fun level =>
    hexOf (MerkleTree.node (h2 hash2) leaf level (index / 2 ^ level ^^^ 1))

theorem zeroHex_eq : zeroHex = hexOf zeroBytes := by decide

theorem row_get {level width j : Nat} (bound : j < width) :
    (row hash2 leaf level width)[j]? = some (hexOf (MerkleTree.node (h2 hash2) leaf level j)) := by
  rw [row, List.getElem?_map, List.getElem?_range bound, Option.map_some]

theorem hashPairs_map (node : Nat → BytesN 32) (width : Nat) :
    hashPairs hash2 ((List.range (2 * width)).map fun j => hexOf (node j)) =
      some ((List.range width).map fun j => hexOf (h2 hash2 (node (2 * j)) (node (2 * j + 1)))) := by
  induction width generalizing node with
  | zero => rfl
  | succ width ih =>
      have twice : 2 * (width + 1) = 2 * width + 1 + 1 := by omega
      rw [twice, List.range_succ_eq_map, List.range_succ_eq_map, List.range_succ_eq_map]
      simp only [List.map_cons, List.map_map, Function.comp_def]
      have rest := ih fun j => node (j + 2)
      rw [hashPairs, poseidonHash2Hex_hexOf]
      simp only [Nat.succ_eq_add_one, Nat.add_assoc, Nat.reduceAdd] at rest ⊢
      rw [rest]
      simp [Nat.mul_add, Nat.add_assoc]

theorem hashPairs_row (level width : Nat) :
    hashPairs hash2 (row hash2 leaf level (2 * width)) = some (row hash2 leaf (level + 1) width) :=
  hashPairs_map hash2 (MerkleTree.node (h2 hash2) leaf level) width

theorem row_length (level width : Nat) : (row hash2 leaf level width).length = width := by
  simp [row]

theorem siblingRow_length (index levels : Nat) :
    (siblingRow hash2 leaf index levels).length = levels := by
  simp [siblingRow]

end Rows

section Correctness

variable (hash2 : Fr → Fr → Fr)

theorem computeZeros_isSome : ∃ zeros, computeZeros hash2 = some zeros := by
  obtain ⟨zeros, built, _⟩ := Runs.foldlM_range_invariant
    (fun n zeros => zeros = (List.range (n + 1)).map fun i =>
      hexOf (MerkleTree.zeros (h2 hash2) zeroBytes i)) (pushZeroHex hash2) poolDepth
    (b := [zeroHex]) (by simp [zeroHex_eq, MerkleTree.zeros]) (by
      rintro i _ zeros rfl
      refine ⟨_, ?_, rfl⟩
      rw [pushZeroHex, List.getElem?_map, List.getElem?_range (Nat.lt_succ_self i),
        Option.map_some]
      simp [poseidonHash2Hex_hexOf, List.range_succ, MerkleTree.zeros])
  exact ⟨zeros, built⟩

structure Walking (leaf : Nat → BytesN 32) (index level : Nat) (walk : Walk) : Prop where
  nodes : walk.level = row hash2 leaf level (2 ^ (poolDepth - level))
  siblings : walk.siblingsHex = siblingRow hash2 leaf index level
  bits : walk.indexBits = (List.range level).map index.testBit
  pos : walk.pos = index / 2 ^ level

variable {hash2}

theorem sibling_inside {index level : Nat} (inside : index < 2 ^ poolDepth)
    (below : level < poolDepth) : index / 2 ^ level ^^^ 1 < 2 ^ (poolDepth - level) := by
  have power : 2 ^ level * 2 ^ (poolDepth - level) = 2 ^ poolDepth := by
    rw [← Nat.pow_add, Nat.add_sub_cancel' (Nat.le_of_lt below)]
  refine Nat.xor_lt_two_pow ?_ (Nat.one_lt_two_pow (Nat.sub_ne_zero_of_lt below))
  exact Nat.div_lt_of_lt_mul (power ▸ inside)

theorem walkPass_step {leaf : Nat → BytesN 32} {index level : Nat} {walk : Walk}
    {zeros : List Text} (inside : index < 2 ^ poolDepth) (below : level < poolDepth)
    (walking : Walking hash2 leaf index level walk) :
    ∃ next, walkPass hash2 zeros walk level = some next ∧
      Walking hash2 leaf index (level + 1) next := by
  have width : 2 ^ (poolDepth - level) = 2 * 2 ^ (poolDepth - (level + 1)) := by
    have remaining : poolDepth - level = poolDepth - (level + 1) + 1 := by omega
    rw [remaining, Nat.pow_succ']
  have placed := sibling_inside inside below
  refine ⟨⟨row hash2 leaf (level + 1) (2 ^ (poolDepth - (level + 1))),
    siblingRow hash2 leaf index (level + 1), (List.range (level + 1)).map index.testBit,
    index / 2 ^ (level + 1)⟩, ?_, rfl, rfl, rfl, rfl⟩
  rw [walkPass, walking.pos, walking.nodes, row_length, if_pos placed, row_get hash2 leaf placed,
    width, hashPairs_row, walking.siblings, walking.bits]
  simp only [Option.bind_eq_bind, Option.bind_some, Option.pure_def, Nat.shiftRight_one,
    Nat.and_one_is_mod, siblingRow, List.range_succ, List.map_append, List.map_singleton,
    MerkleTree.div_two_pow_succ, Nat.testBit_eq_decide_div_mod_eq]
  rfl

/-- The rebuilt path of a leaf inside the tree: its siblings, its position bits and the root. -/
theorem buildAuthPath_eq (hash2 : Fr → Fr → Fr) (leaves : List (BytesN 32)) {index : Nat}
    (inside : index < 2 ^ poolDepth) :
    buildAuthPath hash2 (leaves.map hexOf) index =
      some ⟨siblingRow hash2 (MerkleTree.padded zeroBytes leaves) index poolDepth,
        (List.range poolDepth).map index.testBit, hexOf (treeRoot hash2 leaves)⟩ := by
  rcases computeZeros_isSome hash2 with ⟨zeros, built⟩
  have first : ((List.range (1 <<< poolDepth)).map fun i =>
      if i < (leaves.map hexOf).length then (leaves.map hexOf).getD i zeroHex else zeroHex) =
      row hash2 (MerkleTree.padded zeroBytes leaves) 0 (2 ^ poolDepth) := by
    rw [Nat.one_shiftLeft, row]
    apply List.map_congr_left
    intro i _
    rw [zeroHex_eq]
    simp only [MerkleTree.node, MerkleTree.padded, List.length_map]
    split
    next within => simp [List.getD_eq_getElem?_getD, within]
    next beyond => rw [List.getD_eq_default _ _ (not_lt.mp beyond)]
  obtain ⟨walk, walked, walking⟩ := Runs.foldlM_range_invariant
    (fun level walk => Walking hash2 (MerkleTree.padded zeroBytes leaves) index level walk)
    (walkPass hash2 zeros) poolDepth
    (b := ⟨row hash2 (MerkleTree.padded zeroBytes leaves) 0 (2 ^ poolDepth), [], [], index⟩)
    ⟨rfl, rfl, rfl, by simp⟩
    (fun level below walk walking => walkPass_step inside below walking)
  have top : walk.level[0]? = some (hexOf (treeRoot hash2 leaves)) := by
    rw [walking.nodes, Nat.sub_self, Nat.pow_zero, row_get _ _ Nat.one_pos]
    rfl
  rw [buildAuthPath, built, Option.bind_eq_bind, Option.bind_some]
  simp only [first, walked, Option.bind_eq_bind, Option.bind_some, top, walking.siblings,
    walking.bits, Option.pure_def]

end Correctness

end Giffy.Client
