import Giffy.Foundation.Bytes

/-! Searching a text for the first place where a matcher succeeds. -/

namespace TextSearch

variable {α : Type}

def literal : Text → Text → Option Text
  | [], text => some text
  | _ :: _, [] => none
  | c :: word, d :: text => if c.toLower = d.toLower then literal word text else none

def mark (c : Char) : Text → Option Text
  | [] => none
  | d :: text => if d = c then some text else none

def search (matcher : Text → Option α) : Text → Option α
  | [] => matcher []
  | c :: text =>
      match matcher (c :: text) with
      | some found => some found
      | none => search matcher text

section Literals

theorem literal_eq_some {word text rest : Text} :
    literal word text = some rest ↔
      ∃ front, text = front ++ rest ∧ front.map Char.toLower = word.map Char.toLower := by
  induction word generalizing text with
  | nil =>
      rw [literal, Option.some.injEq]
      constructor
      · intro same
        exact ⟨[], same, rfl⟩
      · intro split
        rcases split with ⟨front, rfl, empty⟩
        rw [List.map_eq_nil_iff.mp empty, List.nil_append]
  | cons c word ih =>
      cases text with
      | nil =>
          rw [literal]
          constructor
          · intro impossible
            cases impossible
          · intro split
            rcases split with ⟨front, empty, spelled⟩
            rw [(List.append_eq_nil_iff.mp empty.symm).1] at spelled
            cases spelled
      | cons d text =>
          rw [literal]
          split
          next same =>
            rw [ih]
            constructor
            · intro split
              rcases split with ⟨front, rfl, spelled⟩
              exact ⟨d :: front, rfl, by rw [List.map_cons, List.map_cons, spelled, same]⟩
            · intro split
              rcases split with ⟨front, parted, spelled⟩
              cases front with
              | nil => cases spelled
              | cons e front =>
                  rw [List.cons_append, List.cons.injEq] at parted
                  rw [List.map_cons, List.map_cons, List.cons.injEq] at spelled
                  exact ⟨front, parted.2, spelled.2⟩
          next different =>
            constructor
            · intro impossible
              cases impossible
            · intro split
              rcases split with ⟨front, parted, spelled⟩
              cases front with
              | nil => cases spelled
              | cons e front =>
                  rw [List.cons_append, List.cons.injEq] at parted
                  rw [List.map_cons, List.map_cons, List.cons.injEq, ← parted.1] at spelled
                  exact absurd spelled.1.symm different

theorem mark_eq_some {c : Char} {text rest : Text} :
    mark c text = some rest ↔ text = c :: rest := by
  cases text with
  | nil => simp [mark]
  | cons d text =>
      rw [mark]
      split
      next same => simp [same]
      next different => simp [different]

end Literals

section Searches

variable {matcher : Text → Option α}

def Unmatched (matcher : Text → Option α) (before rest : Text) : Prop :=
  ∀ front back, before = front ++ back → back ≠ [] → matcher (back ++ rest) = none

theorem unmatched_nil {rest : Text} : Unmatched matcher [] rest := by
  intro front back split nonempty
  exact absurd (List.append_eq_nil_iff.mp split.symm).2 nonempty

theorem Unmatched.cons {c : Char} {before rest : Text} (later : Unmatched matcher before rest)
    (here : matcher (c :: (before ++ rest)) = none) : Unmatched matcher (c :: before) rest := by
  intro front back split nonempty
  cases front with
  | nil =>
      rw [List.nil_append] at split
      rw [← split]
      exact here
  | cons d front =>
      rw [List.cons_append, List.cons.injEq] at split
      exact later front back split.2 nonempty

theorem search_append {before rest : Text} (unmatched : Unmatched matcher before rest) :
    search matcher (before ++ rest) = search matcher rest := by
  induction before with
  | nil => rfl
  | cons c before ih =>
      have here : matcher (c :: (before ++ rest)) = none :=
        unmatched [] (c :: before) rfl (List.cons_ne_nil _ _)
      rw [List.cons_append, search, here]
      apply ih
      intro front back split nonempty
      exact unmatched (c :: front) back (by rw [split]; rfl) nonempty

theorem search_of_match {rest : Text} {found : α} (here : matcher rest = some found) :
    search matcher rest = some found := by
  cases rest with
  | nil => rw [search, here]
  | cons c rest => rw [search, here]

end Searches

end TextSearch
