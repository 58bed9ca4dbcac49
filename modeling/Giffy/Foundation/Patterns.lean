import Mathlib.Computability.RegularExpressions

/-! Regular expressions in the notation of programs: character classes, `+`, `?` and bounded
repetition, each with the texts it matches. -/

namespace Pattern

open RegularExpression

variable {α : Type} [DecidableEq α]

/-- `[..]` -/
def oneOf (symbols : List α) : RegularExpression α := (symbols.map char).sum

def oneOrMore (P : RegularExpression α) : RegularExpression α := P * star P

def optional (P : RegularExpression α) : RegularExpression α := 1 + P

/-- `P{0,n}` -/
def upTo (P : RegularExpression α) : Nat → RegularExpression α
  | 0 => 1
  | n + 1 => optional (P * upTo P n)

/-- `P{1,n}` -/
def oneTo (P : RegularExpression α) (n : Nat) : RegularExpression α := P * upTo P (n - 1)

section Classes

variable {symbols : List α} {text : List α}

theorem oneOf_rmatch : (oneOf symbols).rmatch text ↔ ∃ c ∈ symbols, text = [c] := by
  induction symbols with
  | nil =>
      have empty : (oneOf ([] : List α)).rmatch text = false := zero_rmatch text
      simp [empty]
  | cons c symbols ih =>
      calc
        (oneOf (c :: symbols)).rmatch text ↔ (char c + oneOf symbols).rmatch text := Iff.rfl
        _ ↔ text = [c] ∨ ∃ d ∈ symbols, text = [d] := by
          rw [add_rmatch_iff, char_rmatch_iff, ih]
        _ ↔ ∃ d ∈ c :: symbols, text = [d] := by simp

theorem oneOf_mul_rmatch {P : RegularExpression α} :
    (oneOf symbols * P).rmatch text ↔ ∃ c rest, text = c :: rest ∧ c ∈ symbols ∧ P.rmatch rest := by
  rw [mul_rmatch_iff]
  constructor
  · intro split
    rcases split with ⟨front, rest, rfl, first, others⟩
    rcases oneOf_rmatch.mp first with ⟨c, member, rfl⟩
    exact ⟨c, rest, rfl, member, others⟩
  · intro split
    rcases split with ⟨c, rest, rfl, member, others⟩
    exact ⟨[c], rest, rfl, oneOf_rmatch.mpr ⟨c, member, rfl⟩, others⟩

theorem star_oneOf_rmatch : (star (oneOf symbols)).rmatch text ↔ ∀ c ∈ text, c ∈ symbols := by
  rw [star_rmatch_iff]
  constructor
  · intro pieces c member
    rcases pieces with ⟨letters, rfl, each⟩
    rcases List.mem_flatten.mp member with ⟨piece, inside, within⟩
    rcases oneOf_rmatch.mp (each piece inside).2 with ⟨d, listed, rfl⟩
    rw [List.mem_singleton.mp within]
    exact listed
  · intro listed
    refine ⟨text.map fun c => [c], (List.flatMap_singleton' text).symm, ?_⟩
    intro piece inside
    rcases List.mem_map.mp inside with ⟨c, member, rfl⟩
    exact ⟨List.cons_ne_nil _ _, oneOf_rmatch.mpr ⟨c, listed c member, rfl⟩⟩

theorem oneOrMore_oneOf_rmatch :
    (oneOrMore (oneOf symbols)).rmatch text ↔ text ≠ [] ∧ ∀ c ∈ text, c ∈ symbols := by
  rw [oneOrMore, oneOf_mul_rmatch]
  constructor
  · intro split
    rcases split with ⟨c, rest, rfl, first, others⟩
    rw [star_oneOf_rmatch] at others
    exact ⟨List.cons_ne_nil _ _, List.forall_mem_cons.mpr ⟨first, others⟩⟩
  · intro listed
    cases text with
    | nil => exact absurd rfl listed.1
    | cons c rest =>
        have both := List.forall_mem_cons.mp listed.2
        exact ⟨c, rest, rfl, both.1, star_oneOf_rmatch.mpr both.2⟩

theorem optional_rmatch {P : RegularExpression α} :
    (optional P).rmatch text ↔ text = [] ∨ P.rmatch text := by
  rw [optional, add_rmatch_iff, one_rmatch_iff]

theorem upTo_oneOf_rmatch {n : Nat} :
    (upTo (oneOf symbols) n).rmatch text ↔ text.length ≤ n ∧ ∀ c ∈ text, c ∈ symbols := by
  induction n generalizing text with
  | zero =>
      rw [upTo, one_rmatch_iff, Nat.le_zero, List.length_eq_zero_iff]
      constructor
      · intro empty
        subst empty
        exact ⟨rfl, fun c member => absurd member List.not_mem_nil⟩
      · exact And.left
  | succ n ih =>
      rw [upTo, optional_rmatch, oneOf_mul_rmatch]
      cases text with
      | nil => simp
      | cons c rest =>
          rw [List.length_cons, Nat.add_le_add_iff_right, List.forall_mem_cons]
          constructor
          · intro split
            rcases split with empty | ⟨d, others, same, first, tail⟩
            · cases empty
            · cases same
              rcases ih.mp tail with ⟨short, listed⟩
              exact ⟨short, first, listed⟩
          · intro listed
            exact Or.inr ⟨c, rest, rfl, listed.2.1, ih.mpr ⟨listed.1, listed.2.2⟩⟩

theorem oneTo_oneOf_rmatch {n : Nat} (positive : 0 < n) :
    (oneTo (oneOf symbols) n).rmatch text ↔
      text ≠ [] ∧ text.length ≤ n ∧ ∀ c ∈ text, c ∈ symbols := by
  rw [oneTo, oneOf_mul_rmatch]
  cases text with
  | nil => simp
  | cons c rest =>
      rw [List.length_cons, List.forall_mem_cons, and_iff_right (List.cons_ne_nil _ _)]
      constructor
      · intro split
        rcases split with ⟨d, others, same, first, tail⟩
        cases same
        rcases upTo_oneOf_rmatch.mp tail with ⟨short, listed⟩
        exact ⟨by omega, first, listed⟩
      · intro listed
        exact ⟨c, rest, rfl, listed.2.1, upTo_oneOf_rmatch.mpr ⟨by omega, listed.2.2⟩⟩

end Classes

theorem marked_rmatch {P Q : RegularExpression α} {mark : α} {text : List α} :
    (P * optional (char mark * Q)).rmatch text ↔
      P.rmatch text ∨ ∃ front back, text = front ++ mark :: back ∧ P.rmatch front ∧ Q.rmatch back := by
  rw [mul_rmatch_iff]
  constructor
  · intro split
    rcases split with ⟨front, tail, rfl, first, rest⟩
    rcases optional_rmatch.mp rest with rfl | marked
    · rw [List.append_nil]
      exact Or.inl first
    · rcases (mul_rmatch_iff _ _ _).mp marked with ⟨head, back, rfl, isMark, last⟩
      rw [(char_rmatch_iff _ _).mp isMark]
      exact Or.inr ⟨front, back, rfl, first, last⟩
  · intro split
    rcases split with whole | ⟨front, back, rfl, first, last⟩
    · exact ⟨text, [], (List.append_nil text).symm, whole, optional_rmatch.mpr (Or.inl rfl)⟩
    · have marked : (char mark * Q).rmatch (mark :: back) :=
        (mul_rmatch_iff _ _ _).mpr ⟨[mark], back, rfl, (char_rmatch_iff _ _).mpr rfl, last⟩
      exact ⟨front, mark :: back, rfl, first, optional_rmatch.mpr (Or.inr marked)⟩

end Pattern
