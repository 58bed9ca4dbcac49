import Giffy.Foundation.Poseidon2
import Mathlib.FieldTheory.Finite.Basic
import Mathlib.LinearAlgebra.Matrix.NonsingularInverse
import Mathlib.LinearAlgebra.Matrix.Notation

/-! When the Poseidon2 rounds are bijective: the exponent is prime to the number of units and
the mixing matrices are invertible. -/

namespace Poseidon2

section Powers

variable {K : Type} [Field K] [Finite K]

theorem pow_bijective {n : Nat} (positive : n ≠ 0) (coprime : (Nat.card K - 1).Coprime n) :
    Function.Bijective fun x : K => x ^ n := by
  rw [← Nat.card_units] at coprime
  have units := coprime.pow_left_bijective
  apply Finite.injective_iff_bijective.mp
  intro x y same
  change x ^ n = y ^ n at same
  by_cases zero : x = 0
  · rw [zero, zero_pow positive] at same
    rw [zero, (pow_eq_zero_iff positive).mp same.symm]
  · have other : y ≠ 0 := by
      intro zero'
      rw [zero', zero_pow positive] at same
      exact zero ((pow_eq_zero_iff positive).mp same)
    have equal : Units.mk0 x zero ^ n = Units.mk0 y other ^ n := Units.ext same
    exact congrArg Units.val (units.injective equal)

end Powers

section Matrices

def Lanes.vec {α : Type} (s : Lanes α) : Fin 3 → α := ![s.s0, s.s1, s.s2]

theorem Lanes.vec_bijective {α : Type} : Function.Bijective (Lanes.vec : Lanes α → Fin 3 → α) := by
  constructor
  · intro s t same
    have first := congrFun same 0
    have second := congrFun same 1
    have third := congrFun same 2
    cases s
    cases t
    cases first
    cases second
    cases third
    rfl
  · intro v
    refine ⟨⟨v 0, v 1, v 2⟩, ?_⟩
    funext i
    fin_cases i <;> rfl

variable {R : Type} [CommRing R]

def mixMatrix (diag : Lanes R) : Matrix (Fin 3) (Fin 3) R :=
  Matrix.diagonal diag.vec + Matrix.of fun _ _ => 1

theorem internal_vec (diag s : Lanes R) :
    (internal diag s).vec = (mixMatrix diag).mulVec s.vec := by
  have ones : ∀ i, (Matrix.of fun _ _ => 1 : Matrix (Fin 3) (Fin 3) R).mulVec s.vec i =
      s.s0 + s.s1 + s.s2 := by
    intro i
    simp [Matrix.mulVec, dotProduct, Fin.sum_univ_three, Lanes.vec]
  funext i
  rw [mixMatrix, Matrix.add_mulVec, Pi.add_apply, Matrix.mulVec_diagonal, ones, mul_comm]
  fin_cases i <;> rfl

theorem external_eq (s : Lanes R) : external s = internal ⟨1, 1, 1⟩ s := by
  simp only [external, internal, mul_one]

theorem det_mixMatrix (diag : Lanes R) :
    (mixMatrix diag).det = diag.s0 * diag.s1 * diag.s2 + diag.s0 * diag.s1 + diag.s0 * diag.s2 +
      diag.s1 * diag.s2 := by
  rw [Matrix.det_fin_three]
  simp [mixMatrix, Lanes.vec]
  ring

end Matrices

section Rounds

variable {K : Type} [Field K]

theorem internal_bijective {diag : Lanes K} (invertible : IsUnit (mixMatrix diag)) :
    Function.Bijective (internal diag) := by
  have product : Function.Bijective (mixMatrix diag).mulVec :=
    ⟨Matrix.mulVec_injective_iff_isUnit.mpr invertible,
      Matrix.mulVec_surjective_iff_isUnit.mpr invertible⟩
  have through : Lanes.vec ∘ internal diag = (mixMatrix diag).mulVec ∘ Lanes.vec :=
    funext (internal_vec diag)
  rw [← Function.Bijective.of_comp_iff' Lanes.vec_bijective, through]
  exact product.comp Lanes.vec_bijective

theorem external_bijective (invertible : IsUnit (mixMatrix (⟨1, 1, 1⟩ : Lanes K))) :
    Function.Bijective (external : Lanes K → Lanes K) := by
  rw [funext external_eq]
  exact internal_bijective invertible

def substitute {α : Type} (f g h : α → α) (s : Lanes α) : Lanes α := ⟨f s.s0, g s.s1, h s.s2⟩

theorem substitute_bijective {α : Type} {f g h : α → α} (first : Function.Bijective f)
    (second : Function.Bijective g) (third : Function.Bijective h) :
    Function.Bijective (substitute f g h) := by
  constructor
  · intro s t same
    rw [substitute, substitute, Lanes.mk.injEq] at same
    have s0 := first.injective same.1
    have s1 := second.injective same.2.1
    have s2 := third.injective same.2.2
    cases s
    cases t
    cases s0
    cases s1
    cases s2
    rfl
  · intro t
    rcases first.surjective t.s0 with ⟨s0, found⟩
    rcases second.surjective t.s1 with ⟨s1, found'⟩
    rcases third.surjective t.s2 with ⟨s2, found''⟩
    refine ⟨⟨s0, s1, s2⟩, ?_⟩
    rw [substitute, found, found', found'']

variable {ark : Nat → K} {diag : Lanes K}

theorem shifted_power_bijective (power : Function.Bijective fun x : K => x ^ 5) (c : K) :
    Function.Bijective fun x : K => (x + c) ^ 5 :=
  power.comp (Equiv.addRight c).bijective

theorem fullRound_bijective (power : Function.Bijective fun x : K => x ^ 5)
    (outer : IsUnit (mixMatrix (⟨1, 1, 1⟩ : Lanes K))) (rc : Nat) :
    Function.Bijective (fullRound ark rc) := by
  have lanes := substitute_bijective (shifted_power_bijective power (ark rc))
    (shifted_power_bijective power (ark (rc + 1))) (shifted_power_bijective power (ark (rc + 2)))
  exact (external_bijective outer).comp lanes

theorem partialRound_bijective (power : Function.Bijective fun x : K => x ^ 5)
    (inner : IsUnit (mixMatrix diag)) (rc : Nat) :
    Function.Bijective (partialRound ark diag rc) := by
  have lanes := substitute_bijective (shifted_power_bijective power (ark rc))
    Function.bijective_id Function.bijective_id
  exact (internal_bijective inner).comp lanes

theorem rounds_bijective {α : Type} {width : Nat} {round : Nat → α → α}
    (each : ∀ rc, Function.Bijective (round rc)) (n rc : Nat) :
    Function.Bijective (rounds width round n rc) := by
  induction n generalizing rc with
  | zero => exact Function.bijective_id
  | succ n ih => exact (ih (rc + width)).comp (each rc)

/-- A bijective S-box and two invertible matrices make every number of rounds a permutation. -/
theorem permute_bijective (power : Function.Bijective fun x : K => x ^ 5)
    (outer : IsUnit (mixMatrix (⟨1, 1, 1⟩ : Lanes K))) (inner : IsUnit (mixMatrix diag))
    (half count : Nat) : Function.Bijective (permute ark diag half count) := by
  have full : ∀ n rc, Function.Bijective (rounds 3 (fullRound ark) n rc) :=
    rounds_bijective (fullRound_bijective power outer)
  have partly : ∀ n rc, Function.Bijective (rounds 1 (partialRound ark diag) n rc) :=
    rounds_bijective (partialRound_bijective power inner)
  have start := (full half 0).comp (external_bijective outer)
  exact (full half (3 * half + count)).comp ((partly count (3 * half)).comp start)

end Rounds

end Poseidon2
