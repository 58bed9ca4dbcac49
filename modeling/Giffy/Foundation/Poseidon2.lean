import Mathlib.Algebra.Ring.Defs
import Mathlib.Control.Lawful

/-! The Poseidon2 permutation on three lanes over any commutative ring, and loops that read
round constants in order. -/

namespace Poseidon2

structure Lanes (α : Type) where
  s0 : α
  s1 : α
  s2 : α
deriving DecidableEq

namespace Lanes

variable {α β : Type}

/-- `for i in 0..3 { s[i] = f(i, s[i]) }` -/
def each {m : Type → Type} [Monad m] (f : Nat → α → m β) (s : Lanes α) : m (Lanes β) := do
  let s0 ← f 0 s.s0
  let s1 ← f 1 s.s1
  let s2 ← f 2 s.s2
  return ⟨s0, s1, s2⟩

end Lanes

section Permutation

variable {R : Type} [CommSemiring R]

def external (s : Lanes R) : Lanes R :=
  let sum := s.s0 + s.s1 + s.s2
  ⟨s.s0 + sum, s.s1 + sum, s.s2 + sum⟩

def internal (diag : Lanes R) (s : Lanes R) : Lanes R :=
  let sum := s.s0 + s.s1 + s.s2
  ⟨s.s0 * diag.s0 + sum, s.s1 * diag.s1 + sum, s.s2 * diag.s2 + sum⟩

variable (ark : Nat → R)

def fullRound (rc : Nat) (s : Lanes R) : Lanes R :=
  external ⟨(s.s0 + ark rc) ^ 5, (s.s1 + ark (rc + 1)) ^ 5, (s.s2 + ark (rc + 2)) ^ 5⟩

def partialRound (diag : Lanes R) (rc : Nat) (s : Lanes R) : Lanes R :=
  internal diag ⟨(s.s0 + ark rc) ^ 5, s.s1, s.s2⟩

end Permutation

/-- `n` rounds that read `width` constants each, from the constant `rc` on. -/
def rounds {α : Type} (width : Nat) (round : Nat → α → α) : Nat → Nat → α → α
  | 0, _, s => s
  | n + 1, rc, s => rounds width round n (rc + width) (round rc s)

/-- `2 * half` full rounds around `inner` partial ones, after one mix. -/
def permute {R : Type} [CommSemiring R] (ark : Nat → R) (diag : Lanes R) (half inner : Nat)
    (s : Lanes R) : Lanes R :=
  let first := rounds 3 (fullRound ark) half 0 (external s)
  let middle := rounds 1 (partialRound ark diag) inner (3 * half) first
  rounds 3 (fullRound ark) half (3 * half + inner) middle

def compress {R : Type} [CommSemiring R] (ark : Nat → R) (diag : Lanes R) (half inner : Nat)
    (a b : R) : R :=
  (permute ark diag half inner ⟨a, b, 0⟩).s0

section Reading

variable {m : Type → Type} [Monad m] {α : Type}

/-- A computation that notes the index of every round constant it asks for. -/
abbrev Reading (m : Type → Type) (α : Type) := StateT (List Nat) m α

def readAt (table : Nat → m α) (k : Nat) : Reading m α := fun log => do
  let c ← table k
  return (c, log ++ [k])

theorem rounds_succ (width : Nat) (round : Nat → α → α) (n rc : Nat) (s : α) :
    rounds width round (n + 1) rc s = round (rc + width * n) (rounds width round n rc s) := by
  induction n generalizing rc s with
  | zero => rfl
  | succ n ih =>
      calc
        rounds width round (n + 1 + 1) rc s =
            rounds width round (n + 1) (rc + width) (round rc s) := rfl
        _ = round (rc + width + width * n) (rounds width round n (rc + width) (round rc s)) :=
          ih _ _
        _ = round (rc + width * (n + 1)) (rounds width round (n + 1) rc s) := by
          rw [Nat.mul_succ, Nat.add_assoc, Nat.add_comm width, ← Nat.add_assoc]
          rfl

theorem range'_extend (rc width n : Nat) :
    List.range' rc (width * n) ++ List.range' (rc + width * n) width =
      List.range' rc (width * (n + 1)) := by
  rw [Nat.mul_succ]
  exact List.range'_append_1

theorem foldlM_rounds [LawfulMonad m] {width limit : Nat} {round : Nat → α → α}
    {body : α × Nat → Nat → Reading m (α × Nat)}
    (step : ∀ s rc i log, rc + width ≤ limit → (body (s, rc) i).run log =
      pure ((round rc s, rc + width), log ++ List.range' rc width))
    (n rc : Nat) (s : α) (log : List Nat) (room : rc + width * n ≤ limit) :
    ((List.range n).foldlM body (s, rc)).run log =
      pure ((rounds width round n rc s, rc + width * n), log ++ List.range' rc (width * n)) := by
  induction n with
  | zero => simp [rounds]
  | succ n ih =>
      rw [Nat.mul_succ, ← Nat.add_assoc] at room
      rw [List.range_succ, List.foldlM_append, StateT.run_bind,
        ih (Nat.le_trans (Nat.le_add_right _ _) room), pure_bind]
      simp only [List.foldlM_cons, List.foldlM_nil, bind_pure]
      rw [step _ _ _ _ room, List.append_assoc, range'_extend, rounds_succ, Nat.mul_succ, Nat.add_assoc]

end Reading

section Permuting

variable {m : Type → Type} [Monad m] [LawfulMonad m] {R : Type} [CommSemiring R] {ark : Nat → R}
  {diag : Lanes R} {limit : Nat} {full inner : Lanes R × Nat → Nat → Reading m (Lanes R × Nat)}

/-- Three loops over the two kinds of round compute the permutation and read the constants
`0, 1, ..` once each. -/
theorem permute_run
    (fullStep : ∀ s rc i log, rc + 3 ≤ limit → (full (s, rc) i).run log =
      pure ((fullRound ark rc s, rc + 3), log ++ List.range' rc 3))
    (innerStep : ∀ s rc i log, rc + 1 ≤ limit → (inner (s, rc) i).run log =
      pure ((partialRound ark diag rc s, rc + 1), log ++ List.range' rc 1))
    (half count : Nat) (room : 3 * half + count + 3 * half ≤ limit) (s : Lanes R) :
    (do
      let s ← (List.range half).foldlM full (external s, 0)
      let s ← (List.range count).foldlM inner s
      let s ← (List.range half).foldlM full s
      return s.1 : Reading m (Lanes R)).run [] =
        pure (permute ark diag half count s, List.range (3 * half + count + 3 * half)) := by
  have constants : List.range' 0 (3 * half) ++ List.range' (3 * half) count ++
      List.range' (3 * half + count) (3 * half) = List.range (3 * half + count + 3 * half) := by
    have front : List.range' 0 (3 * half) ++ List.range' (3 * half) count =
        List.range' 0 (3 * half + count) := by
      simpa using List.range'_append_1 (s := 0) (m := 3 * half) (n := count)
    rw [front, List.range_eq_range']
    simpa using List.range'_append_1 (s := 0) (m := 3 * half + count) (n := 3 * half)
  simp only [StateT.run_bind]
  rw [foldlM_rounds fullStep half 0 _ [] (by omega), pure_bind,
    foldlM_rounds innerStep count _ _ _ (by omega), pure_bind,
    foldlM_rounds fullStep half _ _ _ (by omega), pure_bind]
  simp only [StateT.run_pure, Nat.zero_add, Nat.one_mul, List.nil_append, constants]
  rfl

end Permuting

end Poseidon2
