import Giffy.Circuit.ScalarField
import Giffy.Foundation.FieldVariables
import Giffy.Pool.Poseidon

/-! The circuit crate's two forms of Poseidon2, native and constraint gadget, and their
agreement with the contract's. -/

namespace Giffy.Circuit.Poseidon

open Poseidon2 R1cs

-- A constraint system is over a field; the contracts use `Fr` as a ring.
attribute [local instance] frModulus_fact

def width : Nat := 3

def fullRounds : Nat := 8

def partialRounds : Nat := 57

def arkLen : Nat := fullRounds * width + partialRounds

def ark (k : Nat) : Fr := ((k + 1 : Nat) : Fr)

def diag (i : Nat) : Fr := ((i + 2 : Nat) : Fr)

section Native

def sbox (x : Fr) : Fr := x ^ 5

def extMix (s : Lanes Fr) : Lanes Fr :=
  let sum := s.s0 + s.s1 + s.s2
  ⟨s.s0 + sum, s.s1 + sum, s.s2 + sum⟩

def intMix (s : Lanes Fr) : Lanes Fr :=
  let sum := s.s0 + s.s1 + s.s2
  ⟨s.s0 * diag 0 + sum, s.s1 * diag 1 + sum, s.s2 * diag 2 + sum⟩

def arkAt (k : Nat) : Reading Id Fr := readAt (m := Id) ark k

def externalRound (at_ : Lanes Fr × Nat) (_ : Nat) : Reading Id (Lanes Fr × Nat) := do
  let (s, rc) := at_
  let s ← s.each fun i x => do return x + (← arkAt (rc + i))
  let s ← s.each fun _ x => return sbox x
  return (extMix s, rc + 3)

def internalRound (at_ : Lanes Fr × Nat) (_ : Nat) : Reading Id (Lanes Fr × Nat) := do
  let (s, rc) := at_
  let s0 := s.s0 + (← arkAt rc)
  return (intMix { s with s0 := sbox s0 }, rc + 1)

def permutationReading (s : Lanes Fr) : Reading Id (Lanes Fr) := do
  let half := fullRounds / 2
  let s ← (List.range half).foldlM externalRound (extMix s, 0)
  let s ← (List.range partialRounds).foldlM internalRound s
  let s ← (List.range half).foldlM externalRound s
  return s.1

def hash2Reading (a b : Fr) : Reading Id Fr := do
  let s ← permutationReading ⟨a, b, 0⟩
  return s.s0

def hash2 (a b : Fr) : Fr := ((hash2Reading a b).run []).run.1

end Native

section Gadget

def sboxVar (x : FpVar Fr) : Synthesis Fr (FpVar Fr) := do
  let x2 ← x.mul x
  let x4 ← x2.mul x2
  x4.mul x

def extMixVar (s : Lanes (FpVar Fr)) : Lanes (FpVar Fr) :=
  let sum := (s.s0.add s.s1).add s.s2
  ⟨s.s0.add sum, s.s1.add sum, s.s2.add sum⟩

def intMixVar (s : Lanes (FpVar Fr)) : Lanes (FpVar Fr) :=
  let sum := (s.s0.add s.s1).add s.s2
  ⟨(s.s0.mulConstant (diag 0)).add sum, (s.s1.mulConstant (diag 1)).add sum,
    (s.s2.mulConstant (diag 2)).add sum⟩

def arkVar (k : Nat) : Reading (Synthesis Fr) (FpVar Fr) :=
  readAt (fun k => pure (.constant (ark k))) k

def externalRoundVar (at_ : Lanes (FpVar Fr) × Nat) (_ : Nat) :
    Reading (Synthesis Fr) (Lanes (FpVar Fr) × Nat) := do
  let (s, rc) := at_
  let s ← s.each fun i x => do return x.add (← arkVar (rc + i))
  let s ← s.each fun _ x => StateT.lift (sboxVar x)
  return (extMixVar s, rc + 3)

def internalRoundVar (at_ : Lanes (FpVar Fr) × Nat) (_ : Nat) :
    Reading (Synthesis Fr) (Lanes (FpVar Fr) × Nat) := do
  let (s, rc) := at_
  let s0 := s.s0.add (← arkVar rc)
  let s0 ← StateT.lift (sboxVar s0)
  return (intMixVar { s with s0 }, rc + 1)

def hash2VarReading (a b : FpVar Fr) : Reading (Synthesis Fr) (FpVar Fr) := do
  let half := fullRounds / 2
  let s ← (List.range half).foldlM externalRoundVar (extMixVar ⟨a, b, .constant 0⟩, 0)
  let s ← (List.range partialRounds).foldlM internalRoundVar s
  let s ← (List.range half).foldlM externalRoundVar s
  return s.1.s0

def hash2Var (a b : FpVar Fr) : Synthesis Fr (FpVar Fr) := do
  let (out, _) ← (hash2VarReading a b).run []
  return out

end Gadget

section NativeRefinement

theorem externalRound_run (s : Lanes Fr) (rc i : Nat) (log : List Nat) (_ : rc + 3 ≤ arkLen) :
    (externalRound (s, rc) i).run log =
      pure ((fullRound ark rc s, rc + 3), log ++ List.range' rc 3) := by
  have logged : log ++ List.range' rc 3 = log ++ [rc + 0] ++ [rc + 1] ++ [rc + 2] := by
    simp [List.range']
  rw [logged]
  rfl

theorem internalRound_run (s : Lanes Fr) (rc i : Nat) (log : List Nat) (_ : rc + 1 ≤ arkLen) :
    (internalRound (s, rc) i).run log =
      pure ((partialRound ark ⟨diag 0, diag 1, diag 2⟩ rc s, rc + 1),
        log ++ List.range' rc 1) := rfl

theorem permutationReading_run (s : Lanes Fr) :
    (permutationReading s).run [] =
      pure (permute ark ⟨diag 0, diag 1, diag 2⟩ 4 partialRounds s, List.range arkLen) :=
  permute_run (m := Id) externalRound_run internalRound_run 4 partialRounds (by decide) s

theorem hash2Reading_run (a b : Fr) :
    (hash2Reading a b).run [] =
      pure (compress ark ⟨diag 0, diag 1, diag 2⟩ 4 partialRounds a b, List.range arkLen) := by
  rw [hash2Reading, StateT.run_bind, permutationReading_run]
  rfl

theorem hash2_eq (a b : Fr) :
    hash2 a b = compress ark ⟨diag 0, diag 1, diag 2⟩ 4 partialRounds a b := by
  rw [hash2, hash2Reading_run]
  rfl

-- Unification would otherwise run the sixty-five rounds on symbolic inputs.
attribute [irreducible] hash2

end NativeRefinement

section GadgetValues

variable {z later : Assignment Fr} {s : Lanes (FpVar Fr)} {v : Lanes Fr} {x y : FpVar Fr} {a b : Fr}

structure Reads (z : Assignment Fr) (s : Lanes (FpVar Fr)) (v : Lanes Fr) : Prop where
  s0 : s.s0.value? z = some v.s0
  s1 : s.s1.value? z = some v.s1
  s2 : s.s2.value? z = some v.s2

theorem Reads.grows (reads : Reads z s v) (grows : z.Grows later) : Reads later s v :=
  ⟨FpVar.grows_value grows reads.s0, FpVar.grows_value grows reads.s1,
    FpVar.grows_value grows reads.s2⟩

theorem extMixVar_reads (reads : Reads z s v) : Reads z (extMixVar s) (external v) := by
  have sum := FpVar.add_value (FpVar.add_value reads.s0 reads.s1) reads.s2
  exact ⟨FpVar.add_value reads.s0 sum, FpVar.add_value reads.s1 sum,
    FpVar.add_value reads.s2 sum⟩

theorem intMixVar_reads (reads : Reads z s v) :
    Reads z (intMixVar s) (internal ⟨diag 0, diag 1, diag 2⟩ v) := by
  have sum := FpVar.add_value (FpVar.add_value reads.s0 reads.s1) reads.s2
  exact ⟨FpVar.add_value (FpVar.mulConstant_value _ reads.s0) sum,
    FpVar.add_value (FpVar.mulConstant_value _ reads.s1) sum,
    FpVar.add_value (FpVar.mulConstant_value _ reads.s2) sum⟩

theorem fifth_power (a : Fr) : a * a * (a * a) * a = a ^ 5 := by ring

theorem add_ark (k : Nat) (valued : x.value? z = some a) :
    (x.add (.constant (ark k))).value? z = some (a + ark k) := FpVar.add_value valued rfl

end GadgetValues

section GadgetRuns

variable (s : Lanes (FpVar Fr)) (rc i : Nat) (log : List Nat)

theorem arkVar_run (k : Nat) :
    (arkVar k).run log = (pure (.constant (ark k), log ++ [k]) : Synthesis Fr _) := rfl

theorem externalRoundVar_run :
    (externalRoundVar (s, rc) i).run log = (do
      let s0 ← sboxVar (s.s0.add (.constant (ark rc)))
      let s1 ← sboxVar (s.s1.add (.constant (ark (rc + 1))))
      let s2 ← sboxVar (s.s2.add (.constant (ark (rc + 2))))
      return ((extMixVar ⟨s0, s1, s2⟩, rc + 3), log ++ List.range' rc 3)) := by
  have logged : log ++ [rc] ++ [rc + 1] ++ [rc + 2] = log ++ List.range' rc 3 := by
    simp [List.range']
  simp only [externalRoundVar, Lanes.each, StateT.run_bind, StateT.run_pure, StateT.run_lift,
    arkVar_run, pure_bind, bind_assoc, logged, Nat.add_zero]

theorem internalRoundVar_run :
    (internalRoundVar (s, rc) i).run log = (do
      let s0 ← sboxVar (s.s0.add (.constant (ark rc)))
      return ((intMixVar { s with s0 }, rc + 1), log ++ List.range' rc 1)) := by
  simp only [internalRoundVar, StateT.run_bind, StateT.run_pure, StateT.run_lift, arkVar_run,
    pure_bind, bind_assoc]
  rfl

theorem run_foldlM {m : Type → Type} [Monad m] [LawfulMonad m] {α β : Type}
    (body : α → Nat → StateT β m α) (indices : List Nat) (a : α) (b : β) :
    (indices.foldlM body a).run b =
      indices.foldlM (fun at_ i => (body at_.1 i).run at_.2) (a, b) := by
  induction indices generalizing a b with
  | nil => rfl
  | cons i rest ih => simp only [List.foldlM_cons, StateT.run_bind, ih]

end GadgetRuns

section Soundness

variable {z : Assignment Fr} {x y : FpVar Fr} {a b : Fr}

theorem forces_sbox (valued : x.value? z = some a) :
    Forces z (sboxVar x) fun out => out.value? z = some (a ^ 5) := by
  refine forces_bind (forces_mul valued valued) ?_
  intro x2 square
  refine forces_bind (forces_mul square square) ?_
  intro x4 fourth
  rw [← fifth_power]
  exact forces_mul fourth valued

section Rounds

variable {s : Lanes (FpVar Fr)} {v : Lanes Fr}

theorem forces_externalRound (rc i : Nat) (log : List Nat) (reads : Reads z s v) :
    Forces z ((externalRoundVar (s, rc) i).run log) fun out =>
      Reads z out.1.1 (fullRound ark rc v) ∧ out.1.2 = rc + 3 := by
  rw [externalRoundVar_run]
  refine forces_bind (forces_sbox (add_ark rc reads.s0)) ?_
  intro s0 first
  refine forces_bind (forces_sbox (add_ark (rc + 1) reads.s1)) ?_
  intro s1 second
  refine forces_bind (forces_sbox (add_ark (rc + 2) reads.s2)) ?_
  intro s2 third
  exact forces_pure ⟨extMixVar_reads ⟨first, second, third⟩, rfl⟩

theorem forces_internalRound (rc i : Nat) (log : List Nat) (reads : Reads z s v) :
    Forces z ((internalRoundVar (s, rc) i).run log) fun out =>
      Reads z out.1.1 (partialRound ark ⟨diag 0, diag 1, diag 2⟩ rc v) ∧ out.1.2 = rc + 1 := by
  rw [internalRoundVar_run]
  refine forces_bind (forces_sbox (add_ark rc reads.s0)) ?_
  intro s0 first
  exact forces_pure ⟨intMixVar_reads ⟨first, reads.s1, reads.s2⟩, rfl⟩

/-- A loop of rounds forces its lanes to the value of the rounds. -/
theorem forces_rounds {width : Nat} {round : Nat → Lanes Fr → Lanes Fr}
    {body : Lanes (FpVar Fr) × Nat → Nat → Reading (Synthesis Fr) (Lanes (FpVar Fr) × Nat)}
    (step : ∀ {s v} rc i log, Reads z s v → Forces z ((body (s, rc) i).run log) fun out =>
      Reads z out.1.1 (round rc v) ∧ out.1.2 = rc + width)
    (n rc : Nat) (log : List Nat) (reads : Reads z s v) :
    Forces z (((List.range n).foldlM body (s, rc)).run log) fun out =>
      Reads z out.1.1 (rounds width round n rc v) ∧ out.1.2 = rc + width * n := by
  rw [run_foldlM]
  refine forces_range (fun i (at_ : (Lanes (FpVar Fr) × Nat) × List Nat) =>
    Reads z at_.1.1 (rounds width round i rc v) ∧ at_.1.2 = rc + width * i) ?_ n ⟨reads, rfl⟩
  rintro i ⟨⟨lanes, next⟩, log⟩ ⟨so_far, rfl⟩
  rw [rounds_succ, Nat.mul_succ, ← Nat.add_assoc]
  exact step _ _ _ so_far

end Rounds

theorem forces_hash2 (first : x.value? z = some a) (second : y.value? z = some b) :
    Forces z (hash2Var x y) fun out => out.value? z = some (hash2 a b) := by
  have start : Reads z ⟨x, y, .constant 0⟩ ⟨a, b, 0⟩ := ⟨first, second, rfl⟩
  rw [hash2_eq]
  simp only [hash2Var, hash2VarReading, StateT.run_bind, StateT.run_pure, bind_assoc, pure_bind]
  refine forces_bind (forces_rounds forces_externalRound _ 0 [] (extMixVar_reads start)) ?_
  rintro ⟨⟨s1, rc⟩, log⟩ ⟨outer, rfl⟩
  refine forces_bind (forces_rounds forces_internalRound _ _ _ outer) ?_
  rintro ⟨⟨s2, rc⟩, log⟩ ⟨inner, rfl⟩
  refine forces_bind (forces_rounds forces_externalRound _ _ _ inner) ?_
  rintro ⟨⟨s3, rc⟩, log⟩ ⟨last, rfl⟩
  exact forces_pure last.s0

end Soundness

section Completeness

variable {z : Assignment Fr} {x y : FpVar Fr} {a b : Fr}

theorem honest_sbox (valued : x.value? z = some a) :
    Honest z (sboxVar x) fun later out => out.value? later = some (a ^ 5) := by
  refine honest_bind (honest_mul valued valued) ?_
  intro later x2 grows square
  refine honest_bind (honest_mul square square) ?_
  intro last x4 more fourth
  rw [← fifth_power]
  exact honest_mul fourth (FpVar.grows_value (grows.trans more) valued)

section Rounds

variable {s : Lanes (FpVar Fr)} {v : Lanes Fr}

theorem honest_externalRound (rc i : Nat) (log : List Nat) (reads : Reads z s v) :
    Honest z ((externalRoundVar (s, rc) i).run log) fun later out =>
      Reads later out.1.1 (fullRound ark rc v) ∧ out.1.2 = rc + 3 ∧
        out.2 = log ++ List.range' rc 3 := by
  rw [externalRoundVar_run]
  refine honest_bind (honest_sbox (add_ark rc reads.s0)) ?_
  intro z1 s0 grows first
  have reads := reads.grows grows
  refine honest_bind (honest_sbox (add_ark (rc + 1) reads.s1)) ?_
  intro z2 s1 grows second
  have reads := reads.grows grows
  have first := FpVar.grows_value grows first
  refine honest_bind (honest_sbox (add_ark (rc + 2) reads.s2)) ?_
  intro z3 s2 grows third
  exact honest_pure ⟨extMixVar_reads ⟨FpVar.grows_value grows first,
    FpVar.grows_value grows second, third⟩, rfl, rfl⟩

theorem honest_internalRound (rc i : Nat) (log : List Nat) (reads : Reads z s v) :
    Honest z ((internalRoundVar (s, rc) i).run log) fun later out =>
      Reads later out.1.1 (partialRound ark ⟨diag 0, diag 1, diag 2⟩ rc v) ∧ out.1.2 = rc + 1 ∧
        out.2 = log ++ List.range' rc 1 := by
  rw [internalRoundVar_run]
  refine honest_bind (honest_sbox (add_ark rc reads.s0)) ?_
  intro later s0 grows first
  have reads := reads.grows grows
  exact honest_pure ⟨intMixVar_reads ⟨first, reads.s1, reads.s2⟩, rfl, rfl⟩

theorem honest_rounds {width : Nat} {round : Nat → Lanes Fr → Lanes Fr}
    {body : Lanes (FpVar Fr) × Nat → Nat → Reading (Synthesis Fr) (Lanes (FpVar Fr) × Nat)}
    (step : ∀ {z s v} rc i log, Reads z s v →
      Honest z ((body (s, rc) i).run log) fun later out =>
        Reads later out.1.1 (round rc v) ∧ out.1.2 = rc + width ∧
          out.2 = log ++ List.range' rc width)
    (n rc : Nat) (log : List Nat) (reads : Reads z s v) :
    Honest z (((List.range n).foldlM body (s, rc)).run log) fun later out =>
      Reads later out.1.1 (rounds width round n rc v) ∧ out.1.2 = rc + width * n ∧
        out.2 = log ++ List.range' rc (width * n) := by
  rw [run_foldlM]
  refine honest_range (fun i later (at_ : (Lanes (FpVar Fr) × Nat) × List Nat) =>
    Reads later at_.1.1 (rounds width round i rc v) ∧ at_.1.2 = rc + width * i ∧
      at_.2 = log ++ List.range' rc (width * i)) n ?_ ⟨reads, rfl, (List.append_nil _).symm⟩
  rintro i later ⟨⟨lanes, next⟩, read⟩ _ _ ⟨so_far, rfl, rfl⟩
  rw [rounds_succ, ← range'_extend, ← List.append_assoc, Nat.mul_succ, ← Nat.add_assoc]
  exact step _ _ _ so_far

end Rounds

theorem honest_hash2Reading (first : x.value? z = some a) (second : y.value? z = some b) :
    Honest z ((hash2VarReading x y).run []) fun later out =>
      out.1.value? later = some (hash2 a b) ∧ out.2 = List.range arkLen := by
  have start : Reads z ⟨x, y, .constant 0⟩ ⟨a, b, 0⟩ := ⟨first, second, rfl⟩
  rw [hash2_eq]
  simp only [hash2VarReading, StateT.run_bind, StateT.run_pure]
  refine honest_bind (honest_rounds honest_externalRound _ 0 [] (extMixVar_reads start)) ?_
  rintro z1 ⟨⟨s1, rc⟩, log⟩ _ ⟨outer, rfl, rfl⟩
  refine honest_bind (honest_rounds honest_internalRound _ _ _ outer) ?_
  rintro z2 ⟨⟨s2, rc⟩, log⟩ _ ⟨inner, rfl, rfl⟩
  refine honest_bind (honest_rounds honest_externalRound _ _ _ inner) ?_
  rintro z3 ⟨⟨s3, rc⟩, log⟩ _ ⟨last, rfl, rfl⟩
  exact honest_pure ⟨last.s0, rfl⟩

theorem honest_hash2 (first : x.value? z = some a) (second : y.value? z = some b) :
    Honest z (hash2Var x y) fun later out => out.value? later = some (hash2 a b) :=
  honest_bind (honest_hash2Reading first second) fun _ _ _ reading => honest_pure reading.1

end Completeness

/-- The contract, the native function and the gadget compute one function, and each reads
the constants `0, .., ARK_LEN - 1` once, in order. -/
theorem copies_agree (a b : Fr) :
    (Pool.Poseidon.hash2 Pool.Poseidon.buildParams a b).run [] =
      some (hash2 a b, List.range arkLen) ∧
    (hash2Reading a b).run [] = pure (hash2 a b, List.range arkLen) ∧
    (∀ (z : Assignment Fr) (x y : FpVar Fr), x.value? z = some a → y.value? z = some b →
      let gadget := ((hash2VarReading x y).run []).build z.layout
      ∃ later, prove z gadget.operations = some later ∧
        gadget.result.1.value? later = some (hash2 a b) ∧
        gadget.result.2 = List.range arkLen) ∧
    (∀ k ∈ List.range arkLen, k < arkLen) ∧ arkLen = Pool.Poseidon.arkLen := by
  refine ⟨?_, ?_, ?_, fun k => List.mem_range.mp, rfl⟩
  · rw [hash2_eq]
    exact Pool.Poseidon.hash2_run a b
  · rw [hash2_eq]
    exact hash2Reading_run a b
  · intro z x y first second gadget
    rcases honest_hash2Reading first second with ⟨later, ran, _, _, value, reads⟩
    exact ⟨later, ran, value, reads⟩

end Giffy.Circuit.Poseidon
