import Giffy.Circuit.Poseidon2
import Giffy.Foundation.PoseidonPermutation

/-! The placeholder parameters of Poseidon2 make it a permutation of the three lanes. -/

namespace Giffy.Circuit.Poseidon

open Poseidon2

attribute [local instance] frModulus_fact

/-- `M_E`: the identity plus all ones. -/
def externalMatrix : Matrix (Fin 3) (Fin 3) Fr := 1 + Matrix.of fun _ _ => 1

/-- `M_I`: the diagonal `2, 3, 4` plus all ones. -/
def internalMatrix : Matrix (Fin 3) (Fin 3) Fr :=
  Matrix.diagonal ![((2 : Nat) : Fr), ((3 : Nat) : Fr), ((4 : Nat) : Fr)] + Matrix.of fun _ _ => 1

section Parameters

theorem five_coprime : (Nat.card Fr - 1).Coprime 5 := by
  rw [Nat.card_zmod]
  decide

theorem fifth_power_bijective : Function.Bijective fun x : Fr => x ^ 5 :=
  pow_bijective (by decide) five_coprime

theorem small_ne_zero {n : Nat} (positive : 0 < n) (small : n < frModulus) : (n : Fr) ≠ 0 := by
  intro zero
  have divides := (ZMod.natCast_eq_zero_iff n frModulus).mp zero
  exact absurd (Nat.le_of_dvd positive divides) (Nat.not_le.mpr small)

theorem externalMatrix_eq : externalMatrix = mixMatrix ⟨1, 1, 1⟩ := by
  have diagonal : (1 : Matrix (Fin 3) (Fin 3) Fr) = Matrix.diagonal (Lanes.vec ⟨1, 1, 1⟩) := by
    rw [← Matrix.diagonal_one]
    apply congrArg Matrix.diagonal
    funext i
    fin_cases i <;> rfl
  rw [externalMatrix, diagonal, mixMatrix]

theorem internalMatrix_eq : internalMatrix = mixMatrix ⟨diag 0, diag 1, diag 2⟩ := by
  have diagonal : ![((2 : Nat) : Fr), ((3 : Nat) : Fr), ((4 : Nat) : Fr)] =
      Lanes.vec ⟨diag 0, diag 1, diag 2⟩ := by
    funext i
    fin_cases i <;> rfl
  rw [internalMatrix, diagonal, mixMatrix]

theorem externalMatrix_isUnit : IsUnit externalMatrix := by
  have four : (mixMatrix (⟨1, 1, 1⟩ : Lanes Fr)).det = ((4 : Nat) : Fr) := by
    rw [det_mixMatrix]
    norm_num
  rw [externalMatrix_eq, Matrix.isUnit_iff_isUnit_det, four]
  exact (small_ne_zero (by decide) (by decide)).isUnit

theorem internalMatrix_isUnit : IsUnit internalMatrix := by
  have fifty : (mixMatrix (⟨diag 0, diag 1, diag 2⟩ : Lanes Fr)).det = ((50 : Nat) : Fr) := by
    rw [det_mixMatrix]
    simp only [diag]
    norm_num
  rw [internalMatrix_eq, Matrix.isUnit_iff_isUnit_det, fifty]
  exact (small_ne_zero (by decide) (by decide)).isUnit

end Parameters

section Mixes

theorem extMix_vec (s : Lanes Fr) : (extMix s).vec = externalMatrix.mulVec s.vec := by
  rw [externalMatrix_eq, ← internal_vec, ← external_eq]
  rfl

theorem intMix_vec (s : Lanes Fr) : (intMix s).vec = internalMatrix.mulVec s.vec := by
  rw [internalMatrix_eq, ← internal_vec]
  rfl

theorem contract_intMix (s : Lanes Fr) :
    Pool.Poseidon.intMix Pool.Poseidon.buildParams.diag s.s0 s.s1 s.s2 = some (intMix s) :=
  Pool.Poseidon.intMix_eq s

end Mixes

/-- The S-box is a bijection, the two matrices are invertible, and what the contract and the
native function do to their three lanes is one permutation, whose first lane they return. -/
theorem permutation_bijective :
    (Function.Bijective sbox ∧ Function.Bijective Pool.Poseidon.sbox) ∧
    (IsUnit externalMatrix ∧ ∀ s : Lanes Fr,
      (extMix s).vec = externalMatrix.mulVec s.vec ∧
      (Pool.Poseidon.extMix s.s0 s.s1 s.s2).vec = externalMatrix.mulVec s.vec) ∧
    (IsUnit internalMatrix ∧ ∀ s : Lanes Fr,
      (intMix s).vec = internalMatrix.mulVec s.vec ∧
      (Pool.Poseidon.intMix Pool.Poseidon.buildParams.diag s.s0 s.s1 s.s2).map Lanes.vec =
        some (internalMatrix.mulVec s.vec)) ∧
    ∃ perm : Equiv.Perm (Lanes Fr),
      (∀ s, (Pool.Poseidon.permutation Pool.Poseidon.buildParams s.s0 s.s1 s.s2).run [] =
        some (perm s, List.range arkLen)) ∧
      (∀ s, (permutationReading s).run [] = pure (perm s, List.range arkLen)) ∧
      ∀ a b,
        (Pool.Poseidon.hash2 Pool.Poseidon.buildParams a b).run [] =
          some ((perm ⟨a, b, 0⟩).s0, List.range arkLen) ∧
        hash2 a b = (perm ⟨a, b, 0⟩).s0 := by
  have outer : IsUnit (mixMatrix (⟨1, 1, 1⟩ : Lanes Fr)) := by
    rw [← externalMatrix_eq]
    exact externalMatrix_isUnit
  have inner : IsUnit (mixMatrix (⟨diag 0, diag 1, diag 2⟩ : Lanes Fr)) := by
    rw [← internalMatrix_eq]
    exact internalMatrix_isUnit
  have bijective : Function.Bijective (permute ark ⟨diag 0, diag 1, diag 2⟩ 4 partialRounds) :=
    permute_bijective fifth_power_bijective outer inner 4 partialRounds
  refine ⟨⟨fifth_power_bijective, fifth_power_bijective⟩, ⟨externalMatrix_isUnit, ?_⟩,
    ⟨internalMatrix_isUnit, ?_⟩, Equiv.ofBijective _ bijective, ?_, ?_, ?_⟩
  · intro s
    exact ⟨extMix_vec s, extMix_vec s⟩
  · intro s
    rw [contract_intMix, Option.map_some, intMix_vec]
    exact ⟨rfl, rfl⟩
  · exact Pool.Poseidon.permutation_run
  · exact permutationReading_run
  · intro a b
    exact ⟨Pool.Poseidon.hash2_run a b, hash2_eq a b⟩

end Giffy.Circuit.Poseidon
