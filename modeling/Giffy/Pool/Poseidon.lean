import Giffy.Foundation.Poseidon2
import Giffy.Host

/-! The pool contract's Poseidon2 over the host's field functions. -/

namespace Giffy.Pool.Poseidon

open Poseidon2

def width : Nat := 3

def fullRounds : Nat := 8

def partialRounds : Nat := 57

/-- `WIDTH` constants an external round and one an internal round. -/
def arkLen : Nat := fullRounds * width + partialRounds

structure Params where
  ark : List Fr
  diag : List Fr

def fr (v : Nat) : Fr := (v : Fr)

def buildParams : Params where
  ark := (List.range arkLen).foldl (fun ark k => ark ++ [fr (k + 1)]) []
  diag := (List.range width).foldl (fun diag i => diag ++ [fr (i + 2)]) []

/-- `fr_pow(x, 5)` -/
def sbox (x : Fr) : Fr := x ^ 5

def extMix (s0 s1 s2 : Fr) : Lanes Fr :=
  let sum := s0 + s1 + s2
  ⟨s0 + sum, s1 + sum, s2 + sum⟩

def intMix (d : List Fr) (s0 s1 s2 : Fr) : Option (Lanes Fr) := do
  let sum := s0 + s1 + s2
  let d0 ← d[0]?
  let m0 := s0 * d0
  let d1 ← d[1]?
  let m1 := s1 * d1
  let d2 ← d[2]?
  let m2 := s2 * d2
  return ⟨m0 + sum, m1 + sum, m2 + sum⟩

section Hash

variable (p : Params)

/-- `p.ark.get_unchecked(k)`, which traps past the end. -/
def arkAt (k : Nat) : Reading Option Fr := readAt (fun k => p.ark[k]?) k

def externalRound (at_ : Lanes Fr × Nat) (_ : Nat) : Reading Option (Lanes Fr × Nat) := do
  let (s, rc) := at_
  let s0 := s.s0 + (← arkAt p rc)
  let s1 := s.s1 + (← arkAt p (rc + 1))
  let s2 := s.s2 + (← arkAt p (rc + 2))
  return (extMix (sbox s0) (sbox s1) (sbox s2), rc + 3)

def internalRound (at_ : Lanes Fr × Nat) (_ : Nat) : Reading Option (Lanes Fr × Nat) := do
  let (s, rc) := at_
  let s0 := s.s0 + (← arkAt p rc)
  let mixed ← intMix p.diag (sbox s0) s.s1 s.s2
  return (mixed, rc + 1)

def permutation (s0 s1 s2 : Fr) : Reading Option (Lanes Fr) := do
  let half := fullRounds / 2
  let at_ ← (List.range half).foldlM (externalRound p) (extMix s0 s1 s2, 0)
  let at_ ← (List.range partialRounds).foldlM (internalRound p) at_
  let at_ ← (List.range half).foldlM (externalRound p) at_
  return at_.1

def hash2 (a b : Fr) : Reading Option Fr := do
  let s ← permutation p a b (fr 0)
  return s.s0

end Hash

section Constants

/-- The constants of the specification: `k + 1` and `i + 2`. -/
def ark (k : Nat) : Fr := ((k + 1 : Nat) : Fr)

def diag : Lanes Fr := ⟨((2 : Nat) : Fr), ((3 : Nat) : Fr), ((4 : Nat) : Fr)⟩

theorem pushed_range (f : Nat → Fr) (n : Nat) :
    (List.range n).foldl (fun values k => values ++ [f k]) [] = (List.range n).map f := by
  induction n with
  | zero => rfl
  | succ n ih =>
      rw [List.range_succ, List.foldl_append, ih, List.map_append]
      rfl

theorem buildParams_ark {k : Nat} (bound : k < arkLen) : buildParams.ark[k]? = some (ark k) := by
  rw [buildParams, pushed_range, List.getElem?_map, List.getElem?_range bound]
  rfl

theorem buildParams_diag : buildParams.diag = [diag.s0, diag.s1, diag.s2] := rfl

end Constants

section Refinement

variable {rc : Nat} {s : Lanes Fr} {log : List Nat}

theorem arkAt_run {k : Nat} (bound : k < arkLen) :
    (arkAt buildParams k).run log = some (ark k, log ++ [k]) := by
  change (buildParams.ark[k]?).bind _ = _
  rw [buildParams_ark bound]
  rfl

theorem intMix_eq (s : Lanes Fr) :
    intMix buildParams.diag s.s0 s.s1 s.s2 = some (internal diag s) := by
  rw [buildParams_diag]
  rfl

theorem externalRound_run (s : Lanes Fr) (rc i : Nat) (log : List Nat) (room : rc + 3 ≤ arkLen) :
    (externalRound buildParams (s, rc) i).run log =
      some ((fullRound ark rc s, rc + 3), log ++ List.range' rc 3) := by
  simp only [externalRound, StateT.run_bind, StateT.run_pure, arkAt_run (show rc < arkLen by omega),
    arkAt_run (show rc + 1 < arkLen by omega), arkAt_run (show rc + 2 < arkLen by omega),
    Option.bind_eq_bind, Option.bind_some, Option.pure_def, List.append_assoc]
  rfl

theorem internalRound_run (s : Lanes Fr) (rc i : Nat) (log : List Nat)
    (room : rc + 1 ≤ arkLen) :
    (internalRound buildParams (s, rc) i).run log =
      some ((partialRound ark diag rc s, rc + 1), log ++ List.range' rc 1) := by
  have mixed := intMix_eq ⟨sbox (s.s0 + ark rc), s.s1, s.s2⟩
  simp only [internalRound, StateT.run_bind, StateT.run_pure, arkAt_run room,
    Option.bind_eq_bind, Option.bind_some, Option.pure_def]
  rw [mixed]
  rfl

theorem permutation_run (s : Lanes Fr) :
    (permutation buildParams s.s0 s.s1 s.s2).run [] =
      some (permute ark diag 4 partialRounds s, List.range arkLen) := by
  exact permute_run (m := Option) externalRound_run internalRound_run 4 partialRounds
    (by decide) s

theorem hash2_run (a b : Fr) :
    (hash2 buildParams a b).run [] =
      some (compress ark diag 4 partialRounds a b, List.range arkLen) := by
  have zero : fr 0 = 0 := Nat.cast_zero
  have lanes := permutation_run ⟨a, b, 0⟩
  rw [hash2, StateT.run_bind, zero, lanes]
  rfl

end Refinement

end Giffy.Pool.Poseidon
