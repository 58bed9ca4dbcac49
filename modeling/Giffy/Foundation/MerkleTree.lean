import Giffy.Foundation.Runs
import Mathlib.Data.Nat.Bitwise
import Mathlib.Tactic.Ring

/-! Complete binary hash trees over an arbitrary two-input hash: the full tree,
incremental insertion with one frontier node a level, and authentication paths. -/

namespace MerkleTree

universe u

variable {α β : Type u}

/-- The value at `level` (leaves at level 0), position `j` from the left. -/
def node (hash : α → α → α) (leaf : Nat → α) : Nat → Nat → α
  | 0, j => leaf j
  | level + 1, j => hash (node hash leaf level (2 * j)) (node hash leaf level (2 * j + 1))

def zeros (hash : α → α → α) (empty : α) : Nat → α
  | 0 => empty
  | level + 1 => hash (zeros hash empty level) (zeros hash empty level)

def padded (empty : α) (leaves : List α) (i : Nat) : α := leaves.getD i empty

def root (hash : α → α → α) (empty : α) (depth : Nat) (leaves : List α) : α :=
  node hash (padded empty leaves) depth 0

section FullTree

variable (hash : α → α → α)

theorem node_congr {f g : Nat → α} (level j : Nat)
    (agree : ∀ i, j * 2 ^ level ≤ i → i < (j + 1) * 2 ^ level → f i = g i) :
    node hash f level j = node hash g level j := by
  induction level generalizing j with
  | zero => exact agree j (by simp) (by simp)
  | succ level ih =>
      have start : j * 2 ^ (level + 1) = 2 * j * 2 ^ level := by ring
      have stop : (j + 1) * 2 ^ (level + 1) = (2 * j + 1 + 1) * 2 ^ level := by ring
      have middle : 2 * j * 2 ^ level ≤ (2 * j + 1) * 2 ^ level :=
        Nat.mul_le_mul_right _ (by omega)
      have middle' : (2 * j + 1) * 2 ^ level ≤ (2 * j + 1 + 1) * 2 ^ level :=
        Nat.mul_le_mul_right _ (by omega)
      have left := ih (2 * j) fun i lower upper => agree i (by omega) (by omega)
      have right := ih (2 * j + 1) fun i lower upper => agree i (by omega) (by omega)
      simp only [node, left, right]

theorem node_constant (empty : α) (level j : Nat) :
    node hash (fun _ => empty) level j = zeros hash empty level := by
  induction level generalizing j with
  | zero => rfl
  | succ level ih => simp only [node, zeros, ih]

theorem node_empty {leaf : Nat → α} {empty : α} (level j : Nat)
    (blank : ∀ i, j * 2 ^ level ≤ i → leaf i = empty) :
    node hash leaf level j = zeros hash empty level := by
  rw [← node_constant hash empty level j]
  exact node_congr hash level j fun i lower _ => blank i lower

theorem node_map {hash : α → α → α} {hash' : β → β → β} (φ : α → β)
    (hom : ∀ a b, φ (hash a b) = hash' (φ a) (φ b)) (leaf : Nat → α) (level j : Nat) :
    φ (node hash leaf level j) = node hash' (fun i => φ (leaf i)) level j := by
  induction level generalizing j with
  | zero => rfl
  | succ level ih => simp only [node, hom, ih]

theorem padded_map (φ : α → β) (empty : α) (leaves : List α) (i : Nat) :
    φ (padded empty leaves i) = padded (φ empty) (leaves.map φ) i := by
  simp only [padded, List.getD_eq_getElem?_getD, List.getElem?_map]
  cases leaves[i]? <;> rfl

theorem root_nil (empty : α) (depth : Nat) : root hash empty depth [] = zeros hash empty depth :=
  node_empty hash depth 0 fun _ _ => by simp [padded]

end FullTree

section Levels

theorem last_covers (n level : Nat) : n < (n / 2 ^ level + 1) * 2 ^ level := by
  rw [Nat.mul_comm]
  exact Nat.lt_mul_div_succ n (Nat.two_pow_pos level)

theorem last_starts (n level : Nat) : n / 2 ^ level * 2 ^ level ≤ n :=
  Nat.div_mul_le_self n (2 ^ level)

theorem two_mul_half_of_even {q : Nat} (even : q % 2 = 0) : 2 * (q / 2) = q := by omega

theorem two_mul_half_of_odd {q : Nat} (odd : q % 2 = 1) : 2 * (q / 2) = q - 1 := by omega

theorem pred_succ_of_odd {q : Nat} (odd : q % 2 = 1) : q - 1 + 1 = q := by omega

theorem div_two_pow_succ (n level : Nat) : n / 2 ^ (level + 1) = n / 2 ^ level / 2 := by
  rw [Nat.pow_succ, Nat.div_div_eq_div_mul]

theorem div_two_pow_step (n level : Nat) :
    (n + 1) / 2 ^ level = n / 2 ^ level ∨ (n + 1) / 2 ^ level = n / 2 ^ level + 1 := by
  rw [Nat.succ_div]
  split
  · exact Or.inr rfl
  · exact Or.inl rfl

end Levels

section Incremental

variable (hash : α → α → α)

/-- One level of an insertion at leaf position `n`; the pair is the frontier and the
node carried up. -/
def insertLevel (empty : α) (n : Nat) (carried : (Nat → α) × α) (level : Nat) :
    (Nat → α) × α :=
  if n / 2 ^ level % 2 = 0 then
    (Function.update carried.1 level carried.2, hash carried.2 (zeros hash empty level))
  else
    (carried.1, hash (carried.1 level) carried.2)

def insert (empty : α) (depth n : Nat) (frontier : Nat → α) (leaf : α) : (Nat → α) × α :=
  (List.range depth).foldl (insertLevel hash empty n) (frontier, leaf)

/-- The frontier of a tree with `n` leaves: wherever bit `level` of `n` is set, the
entry is the complete subtree left of the next leaf. Other entries are stale. -/
def Tracks (depth : Nat) (leaf : Nat → α) (n : Nat) (frontier : Nat → α) : Prop :=
  ∀ level, level < depth → n / 2 ^ level % 2 = 1 →
    frontier level = node hash leaf level (n / 2 ^ level - 1)

structure Appended (empty : α) (before after : Nat → α) (n : Nat) (leaf : α) : Prop where
  kept : ∀ i, i < n → after i = before i
  placed : after n = leaf
  blank : ∀ i, n < i → after i = empty

variable {hash} {empty : α} {before after : Nat → α} {n : Nat} {leaf : α}

theorem node_left (grown : Appended empty before after n leaf) {level : Nat}
    (even : n / 2 ^ level % 2 = 0) :
    node hash after (level + 1) (n / 2 ^ (level + 1)) =
      hash (node hash after level (n / 2 ^ level)) (zeros hash empty level) := by
  have here : 2 * (n / 2 ^ (level + 1)) = n / 2 ^ level := by
    rw [div_two_pow_succ, two_mul_half_of_even even]
  simp only [node, here]
  congr 1
  apply node_empty
  intro i lower
  exact grown.blank i (Nat.lt_of_lt_of_le (last_covers n level) lower)

theorem node_right (grown : Appended empty before after n leaf) {level : Nat}
    (odd : n / 2 ^ level % 2 = 1) :
    node hash after (level + 1) (n / 2 ^ (level + 1)) =
      hash (node hash before level (n / 2 ^ level - 1)) (node hash after level (n / 2 ^ level)) := by
  have left : 2 * (n / 2 ^ (level + 1)) = n / 2 ^ level - 1 := by
    rw [div_two_pow_succ, two_mul_half_of_odd odd]
  have right : n / 2 ^ level - 1 + 1 = n / 2 ^ level := pred_succ_of_odd odd
  simp only [node, left, right]
  congr 1
  apply node_congr
  intro i _ upper
  rw [right] at upper
  exact grown.kept i (Nat.lt_of_lt_of_le upper (last_starts n level))

structure Inserting (empty : α) (after : Nat → α) (n : Nat) (frontier : Nat → α) (level : Nat)
    (carried : (Nat → α) × α) (hash : α → α → α) : Prop where
  node_eq : carried.2 = node hash after level (n / 2 ^ level)
  written : ∀ l, l < level → n / 2 ^ l % 2 = 0 → carried.1 l = node hash after l (n / 2 ^ l)
  stale : ∀ l, level ≤ l ∨ n / 2 ^ l % 2 = 1 → carried.1 l = frontier l

theorem insertLevel_step {depth : Nat} {frontier : Nat → α}
    (tracks : Tracks hash depth before n frontier)
    (grown : Appended empty before after n leaf) {level : Nat} (below : level < depth)
    {carried : (Nat → α) × α} (so_far : Inserting empty after n frontier level carried hash) :
    Inserting empty after n frontier (level + 1) (insertLevel hash empty n carried level) hash := by
  rcases Nat.mod_two_eq_zero_or_one (n / 2 ^ level) with even | odd
  · simp only [insertLevel, even, if_true]
    constructor
    · rw [node_left grown even, so_far.node_eq]
    · intro l bound bit
      rcases Nat.lt_succ_iff_lt_or_eq.mp bound with earlier | rfl
      · simpa only [Function.update_of_ne (Nat.ne_of_lt earlier)] using
          so_far.written l earlier bit
      · simpa only [Function.update_self] using so_far.node_eq
    · intro l untouched
      have other : l ≠ level := by
        rintro rfl
        rcases untouched with bound | bit <;> omega
      simpa only [Function.update_of_ne other] using
        so_far.stale l (untouched.imp (fun bound => by omega) id)
  · have branch : ¬ n / 2 ^ level % 2 = 0 := by omega
    simp only [insertLevel, branch, if_false]
    constructor
    · rw [node_right grown odd, so_far.stale level (Or.inl (Nat.le_refl _)),
        tracks level below odd, so_far.node_eq]
    · intro l bound bit
      have earlier : l < level := by
        rcases Nat.lt_succ_iff_lt_or_eq.mp bound with earlier | rfl
        · exact earlier
        · omega
      exact so_far.written l earlier bit
    · intro l untouched
      exact so_far.stale l (untouched.imp (by omega) id)

theorem insert_established {depth : Nat} {frontier : Nat → α}
    (tracks : Tracks hash depth before n frontier)
    (grown : Appended empty before after n leaf) :
    Inserting empty after n frontier depth (insert hash empty depth n frontier leaf) hash := by
  refine Runs.foldl_range_invariant
    (fun level carried => Inserting empty after n frontier level carried hash) _ depth ?_
    fun level below carried so_far => insertLevel_step tracks grown below so_far
  refine ⟨?_, ?_, fun _ _ => rfl⟩
  · simp [node, grown.placed]
  · intro l bound
    exact absurd bound (Nat.not_lt_zero l)

theorem insert_node {depth : Nat} {frontier : Nat → α}
    (tracks : Tracks hash depth before n frontier)
    (grown : Appended empty before after n leaf) :
    (insert hash empty depth n frontier leaf).2 = node hash after depth (n / 2 ^ depth) :=
  (insert_established tracks grown).node_eq

/-- The updated frontier is the frontier of the grown tree. -/
theorem insert_tracks {depth : Nat} {frontier : Nat → α}
    (tracks : Tracks hash depth before n frontier)
    (grown : Appended empty before after n leaf) :
    Tracks hash depth after (n + 1) (insert hash empty depth n frontier leaf).1 := by
  have result := insert_established tracks grown
  intro level below odd
  rcases div_two_pow_step n level with same | moved
  · rw [same] at odd ⊢
    rw [result.stale level (Or.inr odd), tracks level below odd]
    apply node_congr
    intro i _ upper
    rw [pred_succ_of_odd odd] at upper
    exact (grown.kept i (Nat.lt_of_lt_of_le upper (last_starts n level))).symm
  · rw [moved] at odd ⊢
    have even : n / 2 ^ level % 2 = 0 := by omega
    exact result.written level below even

theorem tracks_empty (hash : α → α → α) (depth : Nat) (leaf frontier : Nat → α) :
    Tracks hash depth leaf 0 frontier := by
  intro level _ odd
  simp at odd

theorem padded_appended (empty : α) (leaves : List α) (leaf : α) :
    Appended empty (padded empty leaves) (padded empty (leaves ++ [leaf])) leaves.length leaf where
  kept i bound := List.getD_append leaves [leaf] empty i bound
  placed := by simp [padded]
  blank i bound := List.getD_eq_default _ _ (by simp; omega)

end Incremental

section Paths

variable (hash : α → α → α) (sibling : Nat → α) (right : Nat → Bool) (start : α)

/-- Folding a path from the leaf up; `right level` says the node is a right child. -/
def climb : Nat → α
  | 0 => start
  | level + 1 =>
      if right level then hash (sibling level) (climb level)
      else hash (climb level) (sibling level)

def pathPair (level : Nat) : α × α :=
  if right level then (sibling level, climb hash sibling right start level)
  else (climb hash sibling right start level, sibling level)

theorem climb_succ (level : Nat) :
    climb hash sibling right start (level + 1) =
      Function.uncurry hash (pathPair hash sibling right start level) := by
  simp only [climb, pathPair]
  split <;> rfl

theorem climb_congr {other : Nat → α} {right' : Nat → Bool} {level : Nat}
    (same : ∀ l, l < level → sibling l = other l ∧ right l = right' l) :
    climb hash sibling right start level = climb hash other right' start level := by
  induction level with
  | zero => rfl
  | succ level ih =>
      have here := same level (Nat.lt_succ_self level)
      rw [climb, climb, ih fun l bound => same l (Nat.lt_succ_of_lt bound), here.1, here.2]

theorem foldl_range_climb (depth : Nat) :
    (List.range depth).foldl (fun cur level =>
      if right level then hash (sibling level) cur else hash cur (sibling level)) start =
      climb hash sibling right start depth :=
  Runs.foldl_range_invariant (fun level cur => cur = climb hash sibling right start level) _ depth
    rfl fun level _ cur so_far => by simp only [so_far, climb]

def treePair (leaf : Nat → α) (index level : Nat) : α × α :=
  (node hash leaf level (2 * (index / 2 ^ (level + 1))),
    node hash leaf level (2 * (index / 2 ^ (level + 1)) + 1))

theorem node_treePair (leaf : Nat → α) (index level : Nat) :
    node hash leaf (level + 1) (index / 2 ^ (level + 1)) =
      Function.uncurry hash (treePair hash leaf index level) := rfl

theorem treePair_own (leaf : Nat → α) (index level : Nat) :
    (if index.testBit level then (treePair hash leaf index level).2
      else (treePair hash leaf index level).1) = node hash leaf level (index / 2 ^ level) := by
  rw [Nat.testBit_eq_decide_div_mod_eq]
  simp only [treePair, div_two_pow_succ]
  by_cases odd : index / 2 ^ level % 2 = 1
  · rw [if_pos (by simpa using odd), two_mul_half_of_odd odd, pred_succ_of_odd odd]
  · rw [if_neg (by simpa using odd), two_mul_half_of_even (Nat.mod_two_ne_one.mp odd)]

variable {hash sibling right start} {leaf : Nat → α} {index : Nat}

theorem climb_tree (index : Nat) {depth : Nat}
    (bits : ∀ level, level < depth → right level = index.testBit level)
    (siblings : ∀ level, level < depth →
      sibling level = node hash leaf level (index / 2 ^ level ^^^ 1)) :
    climb hash sibling right (leaf index) depth = node hash leaf depth (index / 2 ^ depth) := by
  induction depth with
  | zero => simp [climb, node]
  | succ level ih =>
      have below := ih (fun l bound => bits l (Nat.lt_succ_of_lt bound))
        fun l bound => siblings l (Nat.lt_succ_of_lt bound)
      have last := Nat.lt_succ_self level
      rw [climb, below, bits level last, siblings level last, Nat.testBit_eq_decide_div_mod_eq]
      simp only [node, div_two_pow_succ]
      by_cases odd : index / 2 ^ level % 2 = 1
      · rw [if_pos (by simpa using odd), Nat.xor_one_of_odd (Nat.odd_iff.mpr odd),
          two_mul_half_of_odd odd, pred_succ_of_odd odd]
      · have even := Nat.mod_two_ne_one.mp odd
        rw [if_neg (by simpa using odd), Nat.xor_one_of_even (Nat.even_iff.mpr even),
          two_mul_half_of_even even]

/-- A path that reaches a full tree's node started at the leaf it names, or two
different pairs on the way have one hash. -/
theorem climb_binding {depth : Nat}
    (bits : ∀ level, level < depth → right level = index.testBit level)
    (reached : climb hash sibling right start depth = node hash leaf depth (index / 2 ^ depth)) :
    start = leaf index ∨ ∃ level, level < depth ∧
      pathPair hash sibling right start level ≠ treePair hash leaf index level ∧
      Function.uncurry hash (pathPair hash sibling right start level) =
        Function.uncurry hash (treePair hash leaf index level) := by
  induction depth with
  | zero => exact Or.inl (by simpa [climb, node] using reached)
  | succ level ih =>
      have last := Nat.lt_succ_self level
      rw [climb_succ, node_treePair] at reached
      by_cases same : pathPair hash sibling right start level = treePair hash leaf index level
      · have own := treePair_own hash leaf index level
        rw [← same, ← bits level last] at own
        have climbed : climb hash sibling right start level =
            node hash leaf level (index / 2 ^ level) := by
          rw [← own, pathPair]
          cases right level <;> rfl
        rcases ih (fun l bound => bits l (Nat.lt_succ_of_lt bound)) climbed with
          found | ⟨l, bound, collision⟩
        · exact Or.inl found
        · exact Or.inr ⟨l, Nat.lt_succ_of_lt bound, collision⟩
      · exact Or.inr ⟨level, last, same, reached⟩

end Paths

end MerkleTree
