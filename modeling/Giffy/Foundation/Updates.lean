import Mathlib.Data.List.Basic
import Mathlib.Data.List.Nodup

/-! Lists with one entry replaced in place, as `map` and `filterMap` see them. -/

namespace Updates

variable {α β : Type} {f : α → β} {items : List α}

theorem mem_set_or {i : Nat} {new x : α} (member : x ∈ items) :
    items[i]? = some x ∨ x ∈ items.set i new := by
  rcases List.mem_iff_getElem?.mp member with ⟨j, found⟩
  by_cases same : j = i
  · exact Or.inl (same ▸ found)
  · apply Or.inr
    apply List.mem_iff_getElem?.mpr
    exact ⟨j, by rw [List.getElem?_set_ne (Ne.symm same), found]⟩

theorem mem_set_self {i : Nat} {old new : α} (found : items[i]? = some old) :
    new ∈ items.set i new := by
  apply List.mem_iff_getElem?.mpr
  refine ⟨i, ?_⟩
  have inside : i < items.length := (List.getElem?_eq_some_iff.mp found).1
  rw [List.getElem?_set_self inside]

theorem set_split {i : Nat} {x : α} (found : items[i]? = some x) :
    ∃ front back, items = front ++ x :: back ∧ ∀ y, items.set i y = front ++ y :: back := by
  rcases List.getElem?_eq_some_iff.mp found with ⟨inside, rfl⟩
  refine ⟨items.take i, items.drop (i + 1), ?_, fun y => List.set_eq_take_append_cons_drop.trans ?_⟩
  · rw [List.getElem_cons_drop, List.take_append_drop]
  · rw [if_pos inside]

theorem map_modify_same {g : α → α} (same : ∀ x, f (g x) = f x) (i : Nat) :
    (items.modify i g).map f = items.map f := by
  apply List.ext_getElem?
  intro j
  rw [List.getElem?_map, List.getElem?_map, List.getElem?_modify]
  split
  next => cases items[j]? <;> simp [same]
  next => simp

theorem map_set_same {i : Nat} {old new : α} (found : items[i]? = some old)
    (same : f new = f old) : (items.set i new).map f = items.map f := by
  rw [List.map_set, same]
  apply List.ext_getElem?
  intro j
  by_cases equal : i = j
  · subst equal
    rw [List.getElem?_set_self', List.getElem?_map, found]
    rfl
  · rw [List.getElem?_set_ne equal]

theorem filterMap_congr_map {f : α → Option β} {left right : List α}
    (same : left.map f = right.map f) : left.filterMap f = right.filterMap f := by
  have through : ∀ items : List α, items.filterMap f = (items.map f).filterMap id := by
    intro items
    rw [List.filterMap_map]
    rfl
  rw [through, through, same]

/-- In a list without images, a replaced entry's image is the only one. -/
theorem filterMap_set_first {f : α → Option β} {i : Nat} {old new : α}
    (found : items[i]? = some old) (none : items.filterMap f = []) :
    (items.set i new).filterMap f = (f new).toList := by
  have inside : i < items.length := (List.getElem?_eq_some_iff.mp found).1
  have unset : ∀ x ∈ items, f x = Option.none := List.filterMap_eq_nil_iff.mp none
  have front : (items.take i).filterMap f = [] :=
    List.filterMap_eq_nil_iff.mpr fun x member => unset x (List.mem_of_mem_take member)
  have back : (items.drop (i + 1)).filterMap f = [] :=
    List.filterMap_eq_nil_iff.mpr fun x member => unset x (List.mem_of_mem_drop member)
  rw [List.set_eq_take_append_cons_drop, if_pos inside, List.filterMap_append, front,
    List.nil_append, List.filterMap_cons]
  cases f new with
  | none => exact back
  | some y => simp [back]

section UniqueKeys

theorem find_of_key [DecidableEq β] (distinct : (items.map f).Nodup) {i : Nat} {x : α}
    (found : items[i]? = some x) : items.find? (fun y => f y = f x) = some x := by
  induction items generalizing i with
  | nil => simp at found
  | cons head tail ih =>
      rw [List.map_cons, List.nodup_cons] at distinct
      cases i with
      | zero =>
          cases found
          simp
      | succ i =>
          rw [List.getElem?_cons_succ] at found
          have other : ¬f head = f x := fun same =>
            distinct.1 (same ▸ List.mem_map_of_mem (List.mem_of_getElem? found))
          rw [List.find?_cons_of_neg (by simpa using other)]
          exact ih distinct.2 found

theorem nodup_keys_append (distinct : (items.map f).Nodup) {new : α}
    (free : ∀ x ∈ items, f x ≠ f new) : ((items ++ [new]).map f).Nodup := by
  rw [List.map_append, List.map_singleton, ← List.concat_eq_append]
  apply distinct.concat
  intro taken
  rcases List.mem_map.mp taken with ⟨x, member, same⟩
  exact free x member same

theorem nodup_keys_set (distinct : (items.map f).Nodup) {i : Nat} {new : α}
    (free : ∀ x ∈ items.eraseIdx i, f x ≠ f new) : ((items.set i new).map f).Nodup := by
  by_cases inside : i < items.length
  · have kept : ((items.eraseIdx i).map f).Nodup :=
      distinct.sublist ((List.eraseIdx_sublist items i).map f)
    rw [List.set_eq_take_append_cons_drop, if_pos inside, List.map_append, List.map_cons,
      List.nodup_middle, List.nodup_cons, ← List.map_append, ← List.eraseIdx_eq_take_drop_succ]
    refine ⟨?_, kept⟩
    intro taken
    rcases List.mem_map.mp taken with ⟨x, member, same⟩
    exact free x member same
  · rw [List.set_eq_of_length_le (Nat.le_of_not_lt inside)]
    exact distinct

end UniqueKeys

end Updates
