import Mathlib.Algebra.BigOperators.Group.List.Basic
import Mathlib.Algebra.Order.BigOperators.Group.List
import Mathlib.Order.Lattice
import Mathlib.Tactic.Abel

/-! Finite maps kept in key order, and sums over their entries. -/

universe u v w

structure SortedMap (κ : Type u) (ν : Type v) [LT κ] where
  entries : List (κ × ν)
  sorted : entries.Pairwise fun a b => a.1 < b.1

namespace SortedMap

variable {κ : Type u} {ν : Type v} [LinearOrder κ]

section Entries

def find (key : κ) : List (κ × ν) → Option ν
  | [] => none
  | (k, v) :: rest => if k = key then some v else find key rest

def put (key : κ) (value : ν) : List (κ × ν) → List (κ × ν)
  | [] => [(key, value)]
  | (k, v) :: rest =>
      if key < k then (key, value) :: (k, v) :: rest
      else if key = k then (key, value) :: rest
      else (k, v) :: put key value rest

theorem find_none {key : κ} {entries : List (κ × ν)} (absent : ∀ e ∈ entries, e.1 ≠ key) :
    find key entries = none := by
  induction entries with
  | nil => rfl
  | cons head tail ih =>
      rw [find, if_neg (absent head List.mem_cons_self)]
      exact ih fun e member => absent e (List.mem_cons_of_mem _ member)

theorem mem_put {key : κ} {value : ν} {entries : List (κ × ν)} {e : κ × ν}
    (member : e ∈ put key value entries) : e = (key, value) ∨ e ∈ entries := by
  induction entries with
  | nil => exact Or.inl (by simpa [put] using member)
  | cons head tail ih =>
      rw [put] at member
      split at member
      · exact List.mem_cons.mp member
      · split at member
        · exact (List.mem_cons.mp member).imp_right (List.mem_cons_of_mem _)
        · rcases List.mem_cons.mp member with rfl | later
          · exact Or.inr List.mem_cons_self
          · exact (ih later).imp_right (List.mem_cons_of_mem _)

theorem put_sorted (key : κ) (value : ν) {entries : List (κ × ν)}
    (sorted : entries.Pairwise fun a b => a.1 < b.1) :
    (put key value entries).Pairwise fun a b => a.1 < b.1 := by
  induction entries with
  | nil => simp [put]
  | cons head tail ih =>
      rcases List.pairwise_cons.mp sorted with ⟨above, rest⟩
      rw [put]
      split
      next before =>
        refine List.pairwise_cons.mpr ⟨fun e member => ?_, sorted⟩
        rcases List.mem_cons.mp member with rfl | later
        · exact before
        · exact lt_trans before (above e later)
      next notBefore =>
        split
        next same => exact List.pairwise_cons.mpr ⟨fun e member => same ▸ above e member, rest⟩
        next other =>
          refine List.pairwise_cons.mpr ⟨fun e member => ?_, ih rest⟩
          rcases mem_put member with rfl | later
          · exact lt_of_le_of_ne (not_lt.mp notBefore) (Ne.symm other)
          · exact above e later

theorem find_put (key other : κ) (value : ν) (entries : List (κ × ν)) :
    find other (put key value entries) = if key = other then some value else find other entries := by
  induction entries with
  | nil => simp [put, find]
  | cons head tail ih =>
      rw [put]
      split
      · simp only [find]
      · split
        next same =>
          simp only [find, ← same]
          split <;> rfl
        next different =>
          simp only [find, ih]
          split
          next here =>
            rw [if_neg (here ▸ different)]
          next => rfl

theorem find_mem {key : κ} {value : ν} {entries : List (κ × ν)}
    (sorted : entries.Pairwise fun a b => a.1 < b.1) :
    find key entries = some value ↔ (key, value) ∈ entries := by
  induction entries with
  | nil => simp [find]
  | cons head tail ih =>
      rcases List.pairwise_cons.mp sorted with ⟨above, rest⟩
      rcases head with ⟨k, v⟩
      simp only [find, List.mem_cons, Prod.mk.injEq]
      split
      next here =>
        subst here
        constructor
        · rintro found
          exact Or.inl ⟨rfl, (Option.some.inj found).symm⟩
        · rintro (⟨_, rfl⟩ | later)
          · rfl
          · exact absurd (above _ later) (lt_irrefl k)
      next elsewhere =>
        rw [ih rest]
        exact ⟨Or.inr, fun member => member.resolve_left fun same => elsewhere same.1.symm⟩

theorem sum_put {M : Type w} [AddCommMonoid M] (f : κ → ν → M) (key : κ) (value : ν)
    {entries : List (κ × ν)} (sorted : entries.Pairwise fun a b => a.1 < b.1) :
    ((put key value entries).map fun e => f e.1 e.2).sum +
        ((find key entries).map (f key)).getD 0 =
      (entries.map fun e => f e.1 e.2).sum + f key value := by
  induction entries with
  | nil => simp [put, find]
  | cons head tail ih =>
      rcases List.pairwise_cons.mp sorted with ⟨above, rest⟩
      rw [put]
      split
      next before =>
        have absent : find key (head :: tail) = none := by
          refine find_none fun e member => ne_of_gt ?_
          rcases List.mem_cons.mp member with rfl | later
          · exact before
          · exact lt_trans before (above e later)
        simp only [absent, List.map_cons, List.sum_cons, Option.map_none, Option.getD_none]
        abel
      next =>
        split
        next same =>
          simp only [find, ← same, if_true, List.map_cons, List.sum_cons, Option.map_some,
            Option.getD_some]
          abel
        next other =>
          simp only [find, if_neg (Ne.symm other), List.map_cons, List.sum_cons, add_assoc,
            ih rest]

theorem sum_find {M : Type w} [AddCommMonoid M] (f : ν → M) (key : κ) {entries : List (κ × ν)}
    (sorted : entries.Pairwise fun a b => a.1 < b.1) :
    (entries.map fun e => if e.1 = key then f e.2 else 0).sum =
      ((find key entries).map f).getD 0 := by
  induction entries with
  | nil => rfl
  | cons head tail ih =>
      rcases List.pairwise_cons.mp sorted with ⟨above, rest⟩
      rw [List.map_cons, List.sum_cons, ih rest, find]
      split
      next here =>
        have absent : find key tail = none :=
          find_none fun e member => ne_of_gt (here ▸ above e member)
        simp [absent]
      next => rw [zero_add]

end Entries

def empty : SortedMap κ ν := ⟨[], List.Pairwise.nil⟩

def get (m : SortedMap κ ν) (key : κ) : Option ν := find key m.entries

def contains (m : SortedMap κ ν) (key : κ) : Bool := (m.get key).isSome

def set (m : SortedMap κ ν) (key : κ) (value : ν) : SortedMap κ ν :=
  ⟨put key value m.entries, put_sorted key value m.sorted⟩

def total {M : Type w} [AddCommMonoid M] (m : SortedMap κ ν) (f : κ → ν → M) : M :=
  (m.entries.map fun e => f e.1 e.2).sum

@[simp] theorem get_empty (key : κ) : (empty : SortedMap κ ν).get key = none := rfl

@[simp] theorem get_set_self (m : SortedMap κ ν) (key : κ) (value : ν) :
    (m.set key value).get key = some value := by
  simp [get, set, find_put]

theorem get_set_ne (m : SortedMap κ ν) {key other : κ} (different : key ≠ other) (value : ν) :
    (m.set key value).get other = m.get other := by
  simp [get, set, find_put, different]

theorem get_set (m : SortedMap κ ν) (key other : κ) (value : ν) :
    (m.set key value).get other = if key = other then some value else m.get other :=
  find_put key other value m.entries

theorem mem_entries {m : SortedMap κ ν} {key : κ} {value : ν} :
    (key, value) ∈ m.entries ↔ m.get key = some value :=
  (find_mem m.sorted).symm

theorem contains_iff {m : SortedMap κ ν} {key : κ} :
    m.contains key = true ↔ ∃ value, m.get key = some value :=
  Option.isSome_iff_exists

theorem keys_nodup (m : SortedMap κ ν) : (m.entries.map Prod.fst).Nodup :=
  List.pairwise_map.mpr (m.sorted.imp fun before => ne_of_lt before)

section Totals

variable {M : Type w} [AddCommMonoid M] (f : κ → ν → M)

@[simp] theorem total_empty : (empty : SortedMap κ ν).total f = 0 := rfl

theorem total_set (m : SortedMap κ ν) (key : κ) (value : ν) :
    (m.set key value).total f + ((m.get key).map (f key)).getD 0 = m.total f + f key value :=
  sum_put f key value m.sorted

theorem total_set_new (m : SortedMap κ ν) {key : κ} (new : m.get key = none) (value : ν) :
    (m.set key value).total f = m.total f + f key value := by
  simpa [new] using m.total_set f key value

theorem total_at (m : SortedMap κ ν) (f : ν → M) (key : κ) :
    (m.total fun k value => if k = key then f value else 0) = ((m.get key).map f).getD 0 :=
  sum_find f key m.sorted

theorem total_nonneg {M : Type w} [AddCommMonoid M] [PartialOrder M] [IsOrderedAddMonoid M]
    {f : κ → ν → M} {m : SortedMap κ ν}
    (nonneg : ∀ key value, m.get key = some value → 0 ≤ f key value) : 0 ≤ m.total f := by
  apply List.sum_nonneg
  intro x member
  rcases List.mem_map.mp member with ⟨⟨key, value⟩, inside, rfl⟩
  exact nonneg key value (mem_entries.mp inside)

theorem le_total {M : Type w} [AddCommMonoid M] [PartialOrder M] [IsOrderedAddMonoid M]
    {f : κ → ν → M} {m : SortedMap κ ν}
    (nonneg : ∀ key value, m.get key = some value → 0 ≤ f key value) {key : κ} {value : ν}
    (present : m.get key = some value) : f key value ≤ m.total f := by
  refine List.single_le_sum (fun x member => ?_) _
    (List.mem_map_of_mem (f := fun e : κ × ν => f e.1 e.2) (mem_entries.mpr present))
  rcases List.mem_map.mp member with ⟨⟨k, v⟩, inside, rfl⟩
  exact nonneg k v (mem_entries.mp inside)

end Totals

end SortedMap
