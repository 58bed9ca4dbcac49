import Giffy.Host
import Mathlib.NumberTheory.LucasPrimality
import Mathlib.Tactic.NormNum.Prime
import Mathlib.Tactic.ReduceModChar

/-! The scalar ring of the host is a field. -/

namespace Giffy.Circuit

/-- The prime factors of `frModulus - 1` with their exponents. -/
def orderFactors : List (Nat × Nat) :=
  [(2, 32), (3, 1), (11, 1), (19, 1), (10177, 1), (125527, 1), (859267, 1), (906349, 2),
    (2508409, 1), (2529403, 1), (52437899, 1), (254760293, 2)]

theorem orderFactors_prod : (orderFactors.map fun f => f.1 ^ f.2).prod = frModulus - 1 := by
  decide

theorem orderFactors_prime : ∀ f ∈ orderFactors, f.1.Prime := by
  simp only [orderFactors, List.forall_mem_cons, List.not_mem_nil, false_implies, implies_true]
  norm_num

theorem prime_mem_orderFactors {q : Nat} (prime : q.Prime) (divides : q ∣ frModulus - 1) :
    ∃ f ∈ orderFactors, q = f.1 := by
  rw [← orderFactors_prod] at divides
  rcases (Prime.dvd_prod_iff prime.prime).mp divides with ⟨power, member, inside⟩
  rcases List.mem_map.mp member with ⟨f, listed, rfl⟩
  exact ⟨f, listed, (Nat.prime_dvd_prime_iff_eq prime (orderFactors_prime f listed)).mp
    (prime.dvd_of_dvd_pow inside)⟩

theorem seven_pow : (7 : ZMod frModulus) ^ (frModulus - 1) = 1 := by
  unfold frModulus
  norm_num only
  reduce_mod_char

theorem seven_pow_ne : ∀ f ∈ orderFactors, (7 : ZMod frModulus) ^ ((frModulus - 1) / f.1) ≠ 1 := by
  simp only [orderFactors, List.forall_mem_cons, List.not_mem_nil, false_implies, implies_true]
  unfold frModulus
  norm_num only
  reduce_mod_char
  decide

theorem frModulus_prime : frModulus.Prime := by
  apply lucas_primality frModulus 7 seven_pow
  intro q prime divides
  rcases prime_mem_orderFactors prime divides with ⟨f, listed, rfl⟩
  exact seven_pow_ne f listed

theorem frModulus_fact : Fact frModulus.Prime := ⟨frModulus_prime⟩

end Giffy.Circuit
