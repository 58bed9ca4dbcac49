import Mathlib.Algebra.BigOperators.Group.List.Basic
import Mathlib.Algebra.Module.Defs

/-! Bilinear pairings of two groups into a third. -/

namespace Pairings

/-- `GT` is written multiplicatively. -/
structure Pairing (G1 G2 GT : Type) [AddCommGroup G1] [AddCommGroup G2] [CommGroup GT] where
  pair : G1 → G2 → GT
  add_left : ∀ a a' b, pair (a + a') b = pair a b * pair a' b
  add_right : ∀ a b b', pair a (b + b') = pair a b * pair a b'

namespace Pairing

variable {G1 G2 GT : Type} [AddCommGroup G1] [AddCommGroup G2] [CommGroup GT]
  (e : Pairing G1 G2 GT)

theorem zero_left (b : G2) : e.pair 0 b = 1 := by
  have doubled := e.add_left 0 0 b
  rw [add_zero] at doubled
  exact left_eq_mul.mp doubled

theorem neg_left (a : G1) (b : G2) : e.pair (-a) b = (e.pair a b)⁻¹ := by
  apply eq_inv_of_mul_eq_one_left
  rw [← e.add_left, neg_add_cancel, e.zero_left]

def product (left : List G1) (right : List G2) : GT := (List.zipWith e.pair left right).prod

theorem product_neg_eq_one_iff (a : G1) (b : G2) (left : List G1) (right : List G2) :
    e.product (-a :: left) (b :: right) = 1 ↔ e.pair a b = e.product left right := by
  have split : e.product (-a :: left) (b :: right) = (e.pair a b)⁻¹ * e.product left right := by
    rw [product, List.zipWith_cons_cons, List.prod_cons, e.neg_left, product]
  rw [split, inv_mul_eq_one]

end Pairing

end Pairings
