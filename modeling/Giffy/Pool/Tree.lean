import Giffy.Foundation.MerkleTree
import Giffy.Pool.Effects

/-! The pool's frontier and root list against the full tree of its deposits. -/

namespace Giffy.Pool

section Hashing

variable (hash2 : Fr → Fr → Fr)

def treeRoot (leaves : List (BytesN 32)) : BytesN 32 :=
  MerkleTree.root (h2 hash2) zeroBytes depth leaves

theorem toFr_h2 (a b : BytesN 32) : toFr (h2 hash2 a b) = hash2 (toFr a) (toFr b) :=
  Fr.fromBytes_toBytes _

theorem toFr_zeroBytes : toFr zeroBytes = 0 := by
  rw [toFr, Fr.fromBytes, zeroBytes, BytesN.value_ofNat (by decide), Nat.cast_zero]

theorem node_toBytes (leaf : Nat → BytesN 32) (level j : Nat) :
    MerkleTree.node (h2 hash2) leaf (level + 1) j =
      Fr.toBytes (MerkleTree.node hash2 (fun i => toFr (leaf i)) (level + 1) j) := by
  have below := MerkleTree.node_map toFr (toFr_h2 hash2) leaf level
  simp only [MerkleTree.node, h2, below]

theorem treeRoot_eq (leaves : List (BytesN 32)) :
    treeRoot hash2 leaves = Fr.toBytes (MerkleTree.root hash2 0 depth (leaves.map toFr)) := by
  rw [treeRoot, MerkleTree.root, depth, node_toBytes, MerkleTree.root]
  simp only [MerkleTree.padded_map, toFr_zeroBytes]

end Hashing

section Loops

variable (hash2 : Fr → Fr → Fr)

def zeroHashes (n : Nat) : List (BytesN 32) :=
  (List.range n).map (MerkleTree.zeros (h2 hash2) zeroBytes)

theorem zeroHashes_get {n i : Nat} (bound : i < n) :
    (zeroHashes hash2 n)[i]? = some (MerkleTree.zeros (h2 hash2) zeroBytes i) := by
  rw [zeroHashes, List.getElem?_map, List.getElem?_range bound, Option.map_some]

theorem buildZeros_eq : buildZeros hash2 = some (zeroHashes hash2 (depth + 1)) := by
  obtain ⟨zeros, built, rfl⟩ := Runs.foldlM_range_invariant
    (fun n zeros => zeros = zeroHashes hash2 (n + 1)) (pushZero hash2) depth
    (b := [zeroBytes]) rfl (by
      rintro i _ zeros rfl
      refine ⟨_, ?_, rfl⟩
      rw [pushZero, zeroHashes_get hash2 (Nat.lt_succ_self i)]
      simp [zeroHashes, List.range_succ, MerkleTree.zeros])
  exact built

theorem take_zeroHashes {m : Nat} (n : Nat) (bound : n ≤ m) :
    ((List.range n).mapM fun i => (zeroHashes hash2 m)[i]?) = some (zeroHashes hash2 n) := by
  induction n with
  | zero => rfl
  | succ n ih =>
      rw [List.range_succ, List.mapM_append, ih (Nat.le_of_succ_le bound)]
      simp only [List.mapM_cons, List.mapM_nil, zeroHashes_get hash2 bound]
      simp [zeroHashes, List.range_succ]

def frontierAt (frontier : List (BytesN 32)) (level : Nat) : BytesN 32 :=
  frontier.getD level zeroBytes

theorem frontierAt_set {frontier : List (BytesN 32)} {i : Nat} (bound : i < frontier.length)
    (cur : BytesN 32) :
    frontierAt (frontier.set i cur) = Function.update (frontierAt frontier) i cur := by
  funext level
  by_cases same : level = i
  · subst same
    simp [frontierAt, bound]
  · simp [frontierAt, Function.update_of_ne same, List.getElem?_set_ne (Ne.symm same)]

theorem frontierAt_get {frontier : List (BytesN 32)} {i : Nat} (bound : i < frontier.length) :
    frontier[i]? = some (frontierAt frontier i) := by
  simp [frontierAt, bound]

theorem insertPass_eq {n i : Nat} {running : Insertion} (bound : i < depth)
    (length : running.frontier.length = depth) (index : running.index = n / 2 ^ i) :
    ∃ next, insertPass hash2 (zeroHashes hash2 (depth + 1)) running i = some next ∧
      next.frontier.length = depth ∧ next.index = n / 2 ^ (i + 1) ∧
      (frontierAt next.frontier, next.cur) = MerkleTree.insertLevel (h2 hash2) zeroBytes n
        (frontierAt running.frontier, running.cur) i := by
  have inside : i < running.frontier.length := length ▸ bound
  have halved : running.index >>> 1 = n / 2 ^ (i + 1) := by
    rw [index, Nat.shiftRight_one, MerkleTree.div_two_pow_succ]
  rw [insertPass, index, Nat.and_one_is_mod, MerkleTree.insertLevel]
  split
  · refine ⟨⟨running.frontier.set i running.cur, h2 hash2 running.cur
      (MerkleTree.zeros (h2 hash2) zeroBytes i), running.index >>> 1⟩, ?_, ?_, halved, ?_⟩
    · rw [zeroHashes_get hash2 (Nat.lt_succ_of_lt bound)]
      simp [inside, index]
    · rw [List.length_set, length]
    · rw [frontierAt_set inside]
  · refine ⟨⟨running.frontier, h2 hash2 (frontierAt running.frontier i) running.cur,
      running.index >>> 1⟩, ?_, length, halved, rfl⟩
    rw [frontierAt_get inside]
    simp [index]

theorem insertLeaf_eq {frontier : List (BytesN 32)} (length : frontier.length = depth) (n : Nat)
    (commitment : BytesN 32) :
    ∃ inserted, insertLeaf hash2 (zeroHashes hash2 (depth + 1)) frontier n commitment =
        some inserted ∧ inserted.frontier.length = depth ∧
      (frontierAt inserted.frontier, inserted.cur) =
        MerkleTree.insert (h2 hash2) zeroBytes depth n (frontierAt frontier) commitment := by
  obtain ⟨inserted, ran, kept, _, same⟩ := Runs.foldlM_range_invariant
    (fun i (running : Insertion) => running.frontier.length = depth ∧
      running.index = n / 2 ^ i ∧
      (frontierAt running.frontier, running.cur) =
        (List.range i).foldl (MerkleTree.insertLevel (h2 hash2) zeroBytes n)
          (frontierAt frontier, commitment))
    (insertPass hash2 (zeroHashes hash2 (depth + 1))) depth (b := ⟨frontier, commitment, n⟩)
    ⟨length, by simp, rfl⟩ (by
      intro i bound running reached
      rcases reached with ⟨kept, index, same⟩
      rcases insertPass_eq hash2 bound kept index with ⟨next, ran, kept', index', level⟩
      refine ⟨next, ran, kept', index', ?_⟩
      rw [level, List.range_succ, List.foldl_append, ← same]
      rfl)
  exact ⟨inserted, ran, kept, same⟩

end Loops

section RootWindow

theorem trimRoots_eq (roots : List (BytesN 32)) :
    trimRoots roots = roots.drop (roots.length - rootHistory) := by
  induction roots with
  | nil => rfl
  | cons oldest rest ih =>
      rw [trimRoots]
      split
      next long =>
        have count : (oldest :: rest).length - rootHistory =
            rest.length - rootHistory + 1 := by
          simp only [List.length_cons] at long ⊢
          omega
        rw [ih, count, List.drop_succ_cons]
      next short =>
        rw [Nat.sub_eq_zero_of_le (not_lt.mp short), List.drop_zero]

theorem trimRoots_append (roots : List (BytesN 32)) (next : BytesN 32) :
    trimRoots (trimRoots roots ++ [next]) = trimRoots (roots ++ [next]) := by
  have kept : roots.length - rootHistory ≤ roots.length := Nat.sub_le _ _
  have joined : trimRoots roots ++ [next] =
      (roots ++ [next]).drop (roots.length - rootHistory) := by
    rw [trimRoots_eq, List.drop_append_of_le_length kept]
  have length : (roots ++ [next]).length = roots.length + 1 := by simp
  have amount : roots.length - rootHistory +
      (roots.length + 1 - (roots.length - rootHistory) - rootHistory) =
      roots.length + 1 - rootHistory := by omega
  calc
    trimRoots (trimRoots roots ++ [next]) =
        trimRoots ((roots ++ [next]).drop (roots.length - rootHistory)) := by
      rw [joined]
    _ = (roots ++ [next]).drop (roots.length + 1 - rootHistory) := by
      rw [trimRoots_eq, List.drop_drop, List.length_drop, length, amount]
    _ = trimRoots (roots ++ [next]) := by
      rw [trimRoots_eq, length]

variable (hash2 : Fr → Fr → Fr)

def prefixRoots (leaves : List (BytesN 32)) : List (BytesN 32) :=
  (List.range (leaves.length + 1)).map fun k => treeRoot hash2 (leaves.take k)

@[simp] theorem prefixRoots_length (leaves : List (BytesN 32)) :
    (prefixRoots hash2 leaves).length = leaves.length + 1 := by
  simp [prefixRoots]

theorem prefixRoots_append (leaves : List (BytesN 32)) (leaf : BytesN 32) :
    prefixRoots hash2 (leaves ++ [leaf]) =
      prefixRoots hash2 leaves ++ [treeRoot hash2 (leaves ++ [leaf])] := by
  have earlier : ∀ k ∈ List.range (leaves.length + 1),
      treeRoot hash2 ((leaves ++ [leaf]).take k) = treeRoot hash2 (leaves.take k) := by
    intro k member
    rw [List.take_append_of_le_length (Nat.lt_succ_iff.mp (List.mem_range.mp member))]
  have whole : (leaves ++ [leaf]).take (leaves.length + 1) = leaves ++ [leaf] :=
    List.take_of_length_le (by simp)
  calc
    prefixRoots hash2 (leaves ++ [leaf]) =
        (List.range (leaves.length + 1)).map
            (fun k => treeRoot hash2 ((leaves ++ [leaf]).take k)) ++
          [treeRoot hash2 ((leaves ++ [leaf]).take (leaves.length + 1))] := by
      rw [prefixRoots, List.length_append, List.length_singleton, List.range_succ,
        List.map_append, List.map_singleton]
    _ = prefixRoots hash2 leaves ++ [treeRoot hash2 (leaves ++ [leaf])] := by
      rw [whole, List.map_congr_left earlier, prefixRoots]

end RootWindow

section Growth

variable {Address : Type}

def depositOf (entry : Entry Address) : Option (BytesN 32) :=
  match entry.call, entry.outcome with
  | .invoke _ (.deposit _ commitment), .ok _ => some commitment
  | _, _ => none

def positionOf (entry : Entry Address) : Option Nat :=
  match entry.call, entry.outcome with
  | .invoke _ (.deposit _ _), .ok receipt => receipt.leafIndex
  | _, _ => none

def commitments (past : List (Entry Address)) : List (BytesN 32) := past.filterMap depositOf

def positions (past : List (Entry Address)) : List Nat := past.filterMap positionOf

structure Grown (d : Deployment Address) (leaves : List (BytesN 32)) (pool : Instance Address) :
    Prop where
  count : pool.nextIndex = leaves.length
  room : leaves.length ≤ 2 ^ depth
  zeros : pool.zeros = zeroHashes d.hash2 (depth + 1)
  length : pool.frontier.length = depth
  tracks : MerkleTree.Tracks (h2 d.hash2) depth (MerkleTree.padded zeroBytes leaves) leaves.length
    (frontierAt pool.frontier)
  roots : pool.roots = trimRoots (prefixRoots d.hash2 leaves)

structure Follows (d : Deployment Address) (past : List (Entry Address)) (s : State Address) :
    Prop where
  positions : positions past = List.range (commitments past).length
  unset : s.storage = none → commitments past = []
  grown : ∀ pool, s.storage = some pool → Grown d (commitments past) pool

variable {d : Deployment Address}

theorem grown_empty {zeros frontier : List (BytesN 32)} {initialRoot : BytesN 32}
    (built : buildZeros d.hash2 = some zeros)
    (taken : ((List.range depth).mapM fun i => zeros[i]?) = some frontier)
    (last : zeros[depth]? = some initialRoot) (config : Config Address) (vk : VerifyingKey) :
    Grown d [] ⟨config, vk, 0, frontier, zeros, [initialRoot]⟩ := by
  rw [buildZeros_eq, Option.some.injEq] at built
  subst built
  rw [take_zeroHashes _ _ (Nat.le_succ depth), Option.some.injEq] at taken
  rw [zeroHashes_get _ (Nat.lt_succ_self depth), Option.some.injEq] at last
  refine ⟨rfl, Nat.zero_le _, rfl, ?_, ?_, ?_⟩
  · rw [← taken]
    simp [zeroHashes]
  · exact MerkleTree.tracks_empty _ _ _ _
  · have empty : treeRoot d.hash2 [] = initialRoot := by
      rw [← last]
      exact MerkleTree.root_nil _ _ _
    simp [prefixRoots, trimRoots, empty, rootHistory]

theorem Grown.deposit {leaves : List (BytesN 32)} {pool : Instance Address}
    {commitment : BytesN 32} {inserted : Insertion} (grown : Grown d leaves pool)
    (room : pool.nextIndex < 2 ^ depth)
    (ran : insertLeaf d.hash2 pool.zeros pool.frontier pool.nextIndex commitment =
      some inserted) :
    Grown d (leaves ++ [commitment]) { pool with
      nextIndex := pool.nextIndex + 1
      frontier := inserted.frontier
      roots := trimRoots (pool.roots ++ [inserted.cur]) } := by
  rw [grown.zeros, grown.count] at ran
  rw [grown.count] at room
  obtain ⟨result, placed, length, same⟩ :=
    insertLeaf_eq d.hash2 grown.length leaves.length commitment
  cases ran.symm.trans placed
  have appended := MerkleTree.padded_appended zeroBytes leaves commitment
  have frontier : frontierAt inserted.frontier = _ := congrArg Prod.fst same
  have cur : inserted.cur = _ := congrArg Prod.snd same
  have size : (leaves ++ [commitment]).length = leaves.length + 1 := by simp
  refine ⟨?_, ?_, grown.zeros, length, ?_, ?_⟩
  · rw [size, grown.count]
  · rw [size]
    exact room
  · rw [size, frontier]
    exact MerkleTree.insert_tracks grown.tracks appended
  · have top : inserted.cur = treeRoot d.hash2 (leaves ++ [commitment]) := by
      rw [cur, MerkleTree.insert_node grown.tracks appended, Nat.div_eq_of_lt room]
      rfl
    change trimRoots (pool.roots ++ [inserted.cur]) = _
    rw [grown.roots, top, trimRoots_append, prefixRoots_append]

theorem commitments_append (past : List (Entry Address)) (entry : Entry Address) :
    commitments (past ++ [entry]) = commitments past ++ (depositOf entry).toList := by
  simp only [commitments, List.filterMap_append]
  cases deposit : depositOf entry <;> simp [deposit]

theorem positions_append (past : List (Entry Address)) (entry : Entry Address) :
    positions (past ++ [entry]) = positions past ++ (positionOf entry).toList := by
  simp only [positions, List.filterMap_append]
  cases position : positionOf entry <;> simp [position]

theorem Follows.unchanged {past : List (Entry Address)} {entry : Entry Address}
    {s after : State Address} (follows : Follows d past s) (noDeposit : depositOf entry = none)
    (noPosition : positionOf entry = none) (same : after.storage = s.storage) :
    Follows d (past ++ [entry]) after := by
  have kept : commitments (past ++ [entry]) = commitments past := by
    simp [commitments_append, noDeposit]
  constructor
  · rw [positions_append, noPosition, kept, follows.positions]
    simp
  · rw [kept, same]
    exact follows.unset
  · rw [kept, same]
    exact follows.grown

end Growth

section Steps

variable {Address : Type} [DecidableEq Address] {d : Deployment Address}

theorem step_follows {past : List (Entry Address)} {s after : State Address}
    {receipt : Receipt Address} {action : Action Address (Call Address)}
    (follows : Follows d past s) (step : Step d s action after receipt) :
    Follows d (past ++ [⟨s, action, .ok receipt⟩]) after := by
  cases step with
  | initialized unset built taken last =>
      have none_yet := follows.unset unset
      have positions := follows.positions
      rw [none_yet] at positions
      constructor
      · rw [positions_append, commitments_append, none_yet, positions]
        rfl
      · intro impossible
        cases impossible
      · intro pool stored
        cases stored
        rw [commitments_append, none_yet]
        exact grown_empty built taken last _ _
  | @deposited env source commitment pool inserted payment authorized stored paid funded room ran =>
      have grown := follows.grown pool stored
      constructor
      · rw [positions_append, commitments_append, follows.positions]
        simp [positionOf, depositOf, grown.count, List.range_succ]
      · intro impossible
        cases impossible
      · intro next same
        cases same
        rw [commitments_append]
        exact grown.deposit room ran
  | withdrawn => exact follows.unchanged rfl rfl rfl
  | outside => exact follows.unchanged rfl rfl rfl

theorem next_follows {past : List (Entry Address)} {s : State Address}
    (follows : Follows d past s) (action : Action Address (Call Address)) :
    Follows d (past ++ [(machine d).record s action]) ((machine d).next s action) := by
  rcases next_cases (d := d) s action with ⟨receipt, ran, step⟩ | ⟨⟨trap, failed⟩, same⟩
  · rw [Runs.Machine.record, ran]
    exact step_follows follows step
  · rw [Runs.Machine.record, failed, same]
    cases action with
    | outside => exact follows.unchanged rfl rfl rfl
    | invoke env call => cases call <;> exact follows.unchanged rfl rfl rfl

theorem run_follows (d : Deployment Address) (actions : List (Action Address (Call Address))) :
    Follows d ((machine d).trace State.empty actions)
      ((machine d).final State.empty actions) :=
  Runs.Machine.run_invariant (Follows d) (fun _ _ => True)
    ⟨rfl, fun _ => rfl, fun _ absurd => by cases absurd⟩
    (fun _ _ action follows _ => next_follows follows action) actions (fun _ _ => trivial)

end Steps

section Window

variable {hash2 : Fr → Fr → Fr} {leaves : List (BytesN 32)}

theorem trimmed_length :
    (trimRoots (prefixRoots hash2 leaves)).length = min (leaves.length + 1) rootHistory := by
  rw [trimRoots_eq, List.length_drop, prefixRoots_length]
  omega

theorem trimmed_get (hash2 : Fr → Fr → Fr) {k : Nat} (past : k ≤ leaves.length)
    (recent : leaves.length + 1 - rootHistory ≤ k) :
    (trimRoots (prefixRoots hash2 leaves))[k - (leaves.length + 1 - rootHistory)]? =
      some (treeRoot hash2 (leaves.take k)) := by
  calc
    (trimRoots (prefixRoots hash2 leaves))[k - (leaves.length + 1 - rootHistory)]? =
        (prefixRoots hash2 leaves)[k]? := by
      rw [trimRoots_eq, prefixRoots_length, List.getElem?_drop, Nat.add_sub_cancel' recent]
    _ = some (treeRoot hash2 (leaves.take k)) := by
      rw [prefixRoots, List.getElem?_map, List.getElem?_range (Nat.lt_succ_of_le past),
        Option.map_some]

theorem recent_root_mem (hash2 : Fr → Fr → Fr) {k : Nat} (past : k ≤ leaves.length)
    (recent : leaves.length - k ≤ rootHistory - 1) :
    treeRoot hash2 (leaves.take k) ∈ trimRoots (prefixRoots hash2 leaves) :=
  List.mem_of_getElem? (trimmed_get hash2 past (by rw [rootHistory] at *; omega))

variable {Address : Type}

theorem Grown.root_eq {d : Deployment Address} {pool : Instance Address} {s : State Address}
    (grown : Grown d leaves pool) (stored : s.storage = some pool) :
    root s = some (treeRoot d.hash2 leaves) := by
  have last := trimmed_get d.hash2 (le_refl leaves.length) (by rw [rootHistory]; omega)
  rw [List.take_length] at last
  have place : pool.roots.length - 1 = leaves.length - (leaves.length + 1 - rootHistory) := by
    rw [grown.roots, trimmed_length, rootHistory]
    omega
  rw [root, stored, Option.bind_eq_bind, Option.bind_some, place, grown.roots, last]

end Window

section Results

variable {Address : Type} [DecidableEq Address]

theorem deposit_full {d : Deployment Address} {s : State Address} {leaves : List (BytesN 32)}
    {pool : Instance Address} (grown : Grown d leaves pool) (stored : s.storage = some pool)
    (full : leaves.length = 2 ^ depth) (env : Env Address) (source : Address)
    (commitment : BytesN 32) :
    (∃ trap, (machine d).outcome s (.invoke env (.deposit source commitment)) = .error trap) ∧
      (machine d).next s (.invoke env (.deposit source commitment)) = s := by
  rcases next_cases (d := d) s (.invoke env (.deposit source commitment)) with
    ⟨receipt, _, step⟩ | failed
  · generalize (machine d).next s (.invoke env (.deposit source commitment)) = after at step
    cases step with
    | deposited _ present _ _ room =>
        cases stored.symm.trans present
        rw [grown.count, full] at room
        exact absurd room (lt_irrefl _)
  · exact failed

/-- After any run of an initialized pool the root, the index, the returned positions and the
root list are those of the full tree over the accepted commitments. -/
theorem incremental_tree (d : Deployment Address)
    (actions : List (Action Address (Call Address))) (pool : Instance Address)
    (ready : ((machine d).final State.empty actions).storage = some pool) :
    let s := (machine d).final State.empty actions
    let past := (machine d).trace State.empty actions
    let leaves := commitments past
    let n := leaves.length
    let rootAfter := fun k =>
      Fr.toBytes (MerkleTree.root d.hash2 0 depth ((leaves.take k).map toFr))
    n ≤ 2 ^ depth ∧
    root s = some (Fr.toBytes (MerkleTree.root d.hash2 0 depth (leaves.map toFr))) ∧
    nextIndex s = some n ∧
    positions past = List.range n ∧
    pool.roots = ((List.range (n + 1)).map rootAfter).drop (n + 1 - rootHistory) ∧
    pool.roots.length = min (n + 1) rootHistory ∧
    (∀ k, k ≤ n → n - k ≤ rootHistory - 1 → rootAfter k ∈ pool.roots) ∧
    (n = 2 ^ depth → ∀ env source commitment,
      (∃ trap, (machine d).outcome s (.invoke env (.deposit source commitment)) = .error trap) ∧
        (machine d).next s (.invoke env (.deposit source commitment)) = s) := by
  intro s past leaves n rootAfter
  have follows := run_follows d actions
  have grown : Grown d leaves pool := follows.grown pool ready
  refine ⟨grown.room, ?_, ?_, follows.positions, ?_, ?_, ?_, ?_⟩
  · rw [grown.root_eq ready, treeRoot_eq]
  · rw [nextIndex, ready]
    exact congrArg some grown.count
  · rw [grown.roots, trimRoots_eq, prefixRoots_length, prefixRoots]
    simp only [treeRoot_eq]
    rfl
  · rw [grown.roots, trimmed_length]
  · intro k bound recent
    have kept := recent_root_mem d.hash2 bound recent
    rw [treeRoot_eq, ← grown.roots] at kept
    exact kept
  · intro full env source commitment
    exact deposit_full grown ready full env source commitment

def sampleDeployment : Deployment Nat := ⟨0, 100, fun a b => a + 2 * b, scalarGroup⟩

/-- A key whose verifier accepts exactly `A · B = root + nullifier + signal + C`. -/
def sampleKey : VerifyingKey :=
  ⟨scalarPoint 64 0, scalarPoint 160 0, scalarPoint 160 1, scalarPoint 160 1,
    scalarPoint 64 0 :: List.replicate 3 (scalarPoint 64 1)⟩

def sampleConfig : Config Nat := ⟨9, ⟨5, by decide, by decide⟩, 100⟩

def sampleEnv : Env Nat := ⟨fun who => decide (who ≠ 0), 0, fun _ => false⟩

def sampleDeposits : List (Action Nat (Call Nat)) :=
  [.outside 9 1 100, .invoke sampleEnv (.initializePool sampleConfig sampleKey),
    .invoke sampleEnv (.deposit 1 (BytesN.ofNat 32 77)),
    .invoke sampleEnv (.deposit 1 (BytesN.ofNat 32 78))]

theorem sampleDeposits_ready :
    ((machine sampleDeployment).final State.empty sampleDeposits).storage.isSome = true := by
  decide +kernel

theorem incremental_tree_sample :
    let s := (machine sampleDeployment).final State.empty sampleDeposits
    let past := (machine sampleDeployment).trace State.empty sampleDeposits
    root s = some (Fr.toBytes
      (MerkleTree.root sampleDeployment.hash2 0 depth ((commitments past).map toFr))) ∧
    nextIndex s = some 2 ∧ positions past = [0, 1] := by
  have exact_tree := incremental_tree sampleDeployment sampleDeposits _
    (Option.some_get sampleDeposits_ready).symm
  have two : (commitments ((machine sampleDeployment).trace State.empty sampleDeposits)).length =
      2 := by decide +kernel
  refine ⟨exact_tree.2.1, ?_, ?_⟩
  · rw [exact_tree.2.2.1, two]
  · rw [exact_tree.2.2.2.1, two]
    rfl

end Results

end Giffy.Pool
