import Giffy.Host

/-! The Groth16 verifier contract over the host's BLS12-381 functions. -/

namespace Giffy.Pool

structure VerifyingKey where
  alpha : BytesN 96
  beta : BytesN 192
  gamma : BytesN 192
  delta : BytesN 192
  ic : List (BytesN 96)
deriving DecidableEq

structure Proof where
  a : BytesN 96
  b : BytesN 192
  c : BytesN 96
deriving DecidableEq

/-- The host functions on curve points; `none` is a trap. -/
structure Bls12381 where
  g1Msm : List (BytesN 96) → List Fr → Option (BytesN 96)
  g1Add : BytesN 96 → BytesN 96 → Option (BytesN 96)
  g1Mul : BytesN 96 → Fr → Option (BytesN 96)
  pairingCheck : List (BytesN 96) → List (BytesN 192) → Option Bool

variable (bls : Bls12381)

/-- `IC[0] + Σ signals[i] · IC[i+1]`. -/
def publicPoint (ic : List (BytesN 96)) (signals : List (BytesN 32)) : Option (BytesN 96) := do
  let first ← ic[0]?
  if 0 < signals.length then
    let points ← (List.range signals.length).mapM fun i => ic[i + 1]?
    let sum ← bls.g1Msm points (signals.map Fr.fromBytes)
    bls.g1Add first sum
  else
    return first

def verify (vk : VerifyingKey) (proof : Proof) (signals : List (BytesN 32)) : Option Bool := do
  guard (vk.ic.length = signals.length + 1)
  let vkX ← publicPoint bls vk.ic signals
  let negOne : Fr := 0 - 1
  let negA ← bls.g1Mul proof.a negOne
  bls.pairingCheck [negA, vk.alpha, vkX, proof.c] [proof.b, vk.beta, vk.gamma, vk.delta]

theorem verify_congr (vk : VerifyingKey) (proof : Proof) {left right : List (BytesN 32)}
    (same : left.map Fr.fromBytes = right.map Fr.fromBytes) :
    verify bls vk proof left = verify bls vk proof right := by
  have length : left.length = right.length := by
    simpa only [List.length_map] using congrArg List.length same
  simp only [verify, publicPoint, same, length]

section ScalarGroup

def pointScalar {size : Nat} (point : BytesN size) : Fr := (point.value : Fr)

def scalarPoint (pad : Nat) (x : Fr) : BytesN (pad + 32) :=
  ⟨List.replicate pad 0 ++ (Fr.toBytes x).data, by simp [(Fr.toBytes x).width]⟩

/-- The scalar field as both groups, with its product as the pairing. -/
def scalarGroup : Bls12381 where
  g1Msm points scalars :=
    some (scalarPoint 64 ((points.zipWith (fun p s => pointScalar p * s) scalars).sum))
  g1Add p q := some (scalarPoint 64 (pointScalar p + pointScalar q))
  g1Mul p s := some (scalarPoint 64 (pointScalar p * s))
  pairingCheck g1s g2s :=
    some (decide ((g1s.zipWith (fun p q => pointScalar p * pointScalar q) g2s).sum = 0))

@[simp] theorem pointScalar_scalarPoint (pad : Nat) (x : Fr) :
    pointScalar (scalarPoint pad x) = x := by
  have value : (scalarPoint pad x).value = (Fr.toBytes x).value :=
    Bytes.value_zeros_append pad (Fr.toBytes x).data
  rw [pointScalar, value]
  exact Fr.fromBytes_toBytes x

end ScalarGroup

end Giffy.Pool
