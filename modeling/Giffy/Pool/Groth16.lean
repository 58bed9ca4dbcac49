import Giffy.Foundation.Pairing
import Giffy.Pool.Verifier
import Mathlib.Algebra.Group.TypeTags.Basic

/-! The verifier's check as the Groth16 equation in the groups the host computes with. -/

namespace Giffy.Pool

open Pairings

/-- Groups of order `r` are modules over the scalar field; the host decodes points into them
and computes their operations and the product-equals-one test. -/
structure HostGroups (bls : Bls12381) (G1 G2 GT : Type) [AddCommGroup G1] [Module Fr G1]
    [AddCommGroup G2] [Module Fr G2] [CommGroup GT] extends Pairing G1 G2 GT where
  g1 : BytesN 96 → Option G1
  g2 : BytesN 192 → Option G2
  msm : ∀ {points : List (BytesN 96)} {scalars : List Fr} {ps : List G1}, points ≠ [] →
    points.length = scalars.length → points.mapM g1 = some ps →
    ∃ out, bls.g1Msm points scalars = some out ∧
      g1 out = some ((List.zipWith (fun s p => s • p) scalars ps).sum)
  sum : ∀ {p q : BytesN 96} {a b : G1}, g1 p = some a → g1 q = some b →
    ∃ out, bls.g1Add p q = some out ∧ g1 out = some (a + b)
  mul : ∀ {p : BytesN 96} {a : G1} (s : Fr), g1 p = some a →
    ∃ out, bls.g1Mul p s = some out ∧ g1 out = some (s • a)
  check : ∀ {left : List (BytesN 96)} {right : List (BytesN 192)} {ps : List G1} {qs : List G2},
    left ≠ [] → left.length = right.length → left.mapM g1 = some ps → right.mapM g2 = some qs →
    ∃ ok, bls.pairingCheck left right = some ok ∧ (ok = true ↔ toPairing.product ps qs = 1)

structure KeyPoints (G1 G2 : Type) where
  alpha : G1
  beta : G2
  gamma : G2
  delta : G2
  ic : List G1

structure ProofPoints (G1 G2 : Type) where
  a : G1
  b : G2
  c : G1

variable {bls : Bls12381} {G1 G2 GT : Type} [AddCommGroup G1] [Module Fr G1] [AddCommGroup G2]
  [Module Fr G2] [CommGroup GT]

/-- `IC[0] + Σ s_i · IC[i+1]` -/
def publicInput (ic : List G1) (signals : List Fr) : G1 :=
  ic.headD 0 + (List.zipWith (fun s p => s • p) signals ic.tail).sum

namespace HostGroups

variable (host : HostGroups bls G1 G2 GT)

structure DecodesKey (vk : VerifyingKey) (key : KeyPoints G1 G2) : Prop where
  alpha : host.g1 vk.alpha = some key.alpha
  beta : host.g2 vk.beta = some key.beta
  gamma : host.g2 vk.gamma = some key.gamma
  delta : host.g2 vk.delta = some key.delta
  ic : vk.ic.mapM host.g1 = some key.ic

structure DecodesProof (proof : Proof) (points : ProofPoints G1 G2) : Prop where
  a : host.g1 proof.a = some points.a
  b : host.g2 proof.b = some points.b
  c : host.g1 proof.c = some points.c

end HostGroups

section Loop

theorem mapM_take {α : Type} (xs : List α) {n : Nat} (bound : n ≤ xs.length) :
    ((List.range n).mapM fun i => xs[i]?) = some (xs.take n) := by
  induction n with
  | zero => rfl
  | succ n ih =>
      have here : xs[n]? = some xs[n] := List.getElem?_eq_getElem bound
      rw [List.range_succ, List.mapM_append, ih (Nat.le_of_succ_le bound), List.take_add_one, here]
      simp only [List.mapM_cons, List.mapM_nil, here]
      rfl

theorem pushedPoints (first : BytesN 96) (rest : List (BytesN 96)) :
    ((List.range rest.length).mapM fun i => (first :: rest)[i + 1]?) = some rest := by
  simp only [List.getElem?_cons_succ]
  rw [mapM_take rest le_rfl, List.take_length]

end Loop

variable (host : HostGroups bls G1 G2 GT) {vk : VerifyingKey} {key : KeyPoints G1 G2}

theorem publicPoint_eq {ic : List (BytesN 96)} {points : List G1} {signals : List (BytesN 32)}
    (decoded : ic.mapM host.g1 = some points) (length : ic.length = signals.length + 1) :
    ∃ vkX, publicPoint bls ic signals = some vkX ∧
      host.g1 vkX = some (publicInput points (signals.map Fr.fromBytes)) := by
  cases ic with
  | nil => simp at length
  | cons first rest =>
      simp only [List.mapM_cons, Option.bind_eq_bind, Option.bind_eq_some_iff, Option.pure_def,
        Option.some.injEq] at decoded
      rcases decoded with ⟨p, firstPoint, ps, restPoints, rfl⟩
      have count : rest.length = signals.length := by simpa using length
      by_cases some_signal : 0 < signals.length
      · have nonempty : rest ≠ [] := by
          rw [← List.length_pos_iff, count]
          exact some_signal
        obtain ⟨total, summed, totalPoint⟩ :=
          host.msm nonempty (count.trans (List.length_map Fr.fromBytes).symm) restPoints
        rcases host.sum firstPoint totalPoint with ⟨vkX, added, point⟩
        refine ⟨vkX, ?_, point⟩
        have pushed := pushedPoints first rest
        rw [count] at pushed
        simp only [publicPoint, List.getElem?_cons_zero, Option.bind_eq_bind, Option.bind_some,
          if_pos some_signal, pushed, summed, added]
      · have none_left : signals = [] := by
          rw [← List.length_eq_zero_iff]
          omega
        subst none_left
        refine ⟨first, rfl, ?_⟩
        rw [firstPoint]
        simp [publicInput]

theorem verify_eq {proof : Proof} {points : ProofPoints G1 G2} (decodedKey : host.DecodesKey vk key)
    (decodedProof : host.DecodesProof proof points) {signals : List (BytesN 32)}
    (length : vk.ic.length = signals.length + 1) :
    ∃ ok, verify bls vk proof signals = some ok ∧
      (ok = true ↔ host.product
        [-points.a, key.alpha, publicInput key.ic (signals.map Fr.fromBytes), points.c]
        [points.b, key.beta, key.gamma, key.delta] = 1) := by
  rcases publicPoint_eq host decodedKey.ic length with ⟨vkX, built, vkXPoint⟩
  rcases host.mul (-1) decodedProof.a with ⟨negA, negated, negAPoint⟩
  rw [neg_one_smul] at negAPoint
  have left : [negA, vk.alpha, vkX, proof.c].mapM host.g1 =
      some [-points.a, key.alpha, publicInput key.ic (signals.map Fr.fromBytes), points.c] := by
    simp [negAPoint, decodedKey.alpha, vkXPoint, decodedProof.c]
  have right : [proof.b, vk.beta, vk.gamma, vk.delta].mapM host.g2 =
      some [points.b, key.beta, key.gamma, key.delta] := by
    simp [decodedProof.b, decodedKey.beta, decodedKey.gamma, decodedKey.delta]
  rcases host.check (List.cons_ne_nil _ _) rfl left right with ⟨ok, checked, accepted⟩
  refine ⟨ok, ?_, accepted⟩
  simp [verify, length, built, negated, checked]

/-- The verifier answers the Groth16 equation when `IC` has one point more than there are
signals, and traps otherwise. -/
theorem verify_exact (host : HostGroups bls G1 G2 GT) :
    (∀ vk key proof points signals, host.DecodesKey vk key → host.DecodesProof proof points →
      vk.ic.length = signals.length + 1 →
      ∃ ok, verify bls vk proof signals = some ok ∧
        (ok = true ↔ host.pair points.a points.b =
          host.pair key.alpha key.beta *
            host.pair (publicInput key.ic (signals.map Fr.fromBytes)) key.gamma *
            host.pair points.c key.delta)) ∧
    ∀ vk proof signals, vk.ic.length ≠ signals.length + 1 → verify bls vk proof signals = none := by
  constructor
  · intro vk key proof points signals decodedKey decodedProof length
    rcases verify_eq host decodedKey decodedProof length with ⟨ok, answered, accepted⟩
    refine ⟨ok, answered, accepted.trans ?_⟩
    rw [Pairing.product_neg_eq_one_iff]
    simp [Pairing.product, mul_assoc]
  · intro vk proof signals length
    simp [verify, length]

section ScalarGroup

def scalarPairing : Pairing Fr Fr (Multiplicative Fr) where
  pair a b := .ofAdd (a * b)
  add_left a a' b := by rw [add_mul, ofAdd_add]
  add_right a b b' := by rw [mul_add, ofAdd_add]

theorem decode_all {size : Nat} (points : List (BytesN size)) :
    points.mapM (fun p => some (pointScalar p)) = some (points.map pointScalar) := by
  induction points with
  | nil => rfl
  | cons p rest ih => simp [ih]

theorem scalar_product (left right : List Fr) :
    scalarPairing.product left right =
      .ofAdd (List.zipWith (fun a b => a * b) left right).sum := by
  induction left generalizing right with
  | nil => rfl
  | cons a left ih =>
      cases right with
      | nil => rfl
      | cons b right =>
          rw [Pairing.product, List.zipWith_cons_cons, List.prod_cons, ← Pairing.product, ih,
            List.zipWith_cons_cons, List.sum_cons, ofAdd_add]
          rfl

/-- The scalar field as both groups meets the assumptions on the host. -/
def scalarHost : HostGroups scalarGroup Fr Fr (Multiplicative Fr) where
  toPairing := scalarPairing
  g1 p := some (pointScalar p)
  g2 p := some (pointScalar p)
  msm := by
    intro points scalars ps _ _ decoded
    rw [decode_all, Option.some.injEq] at decoded
    subst decoded
    refine ⟨_, rfl, ?_⟩
    rw [pointScalar_scalarPoint, List.zipWith_comm, List.zipWith_map_right]
    simp only [smul_eq_mul, mul_comm]
  sum := by
    intro p q a b first second
    cases first
    cases second
    exact ⟨_, rfl, congrArg some (pointScalar_scalarPoint 64 _)⟩
  mul := by
    intro p a s decoded
    cases decoded
    refine ⟨_, rfl, ?_⟩
    rw [pointScalar_scalarPoint, smul_eq_mul, mul_comm]
  check := by
    intro left right ps qs _ _ leftPoints rightPoints
    rw [decode_all, Option.some.injEq] at leftPoints rightPoints
    subst leftPoints
    subst rightPoints
    refine ⟨_, rfl, ?_⟩
    rw [decide_eq_true_eq, scalar_product, List.zipWith_map]
    exact ofAdd_eq_one.symm

def sampleKeyPoints : KeyPoints Fr Fr := ⟨0, 0, 1, 1, [0, 1]⟩

theorem verify_exact_sample :
    ∃ ok, verify scalarGroup
        ⟨scalarPoint 64 0, scalarPoint 160 0, scalarPoint 160 1, scalarPoint 160 1,
          [scalarPoint 64 0, scalarPoint 64 1]⟩
        ⟨scalarPoint 64 2, scalarPoint 160 5, scalarPoint 64 7⟩ [Fr.toBytes 3] = some ok ∧
      (ok = true ↔ scalarPairing.pair 2 5 =
        scalarPairing.pair 0 0 *
          scalarPairing.pair (publicInput [0, 1] [Fr.fromBytes (Fr.toBytes 3)]) 1 *
          scalarPairing.pair 7 1) :=
  (verify_exact scalarHost).1 _ sampleKeyPoints _ ⟨2, 5, 7⟩ [Fr.toBytes 3]
    ⟨by simp [scalarHost, sampleKeyPoints], by simp [scalarHost, sampleKeyPoints],
      by simp [scalarHost, sampleKeyPoints], by simp [scalarHost, sampleKeyPoints],
      by simp [scalarHost, sampleKeyPoints]⟩
    ⟨by simp [scalarHost], by simp [scalarHost], by simp [scalarHost]⟩ rfl

end ScalarGroup

end Giffy.Pool
