import Mathlib.Algebra.Field.Basic
import Mathlib.Tactic.LinearCombination
import Mathlib.Tactic.Ring

/-! Rank-one constraint systems written by programs: the wires a program allocates, the
constraints it adds, and the rules for what they force on any assignment and for what an
honest prover computes. -/

namespace R1cs

inductive Wire
  | one
  | input (index : Nat)
  | witness (index : Nat)
deriving DecidableEq, Repr

/-- Each wire at most once, as kept by `addTerm`. -/
abbrev LinearCombination (F : Type) := List (Wire × F)

structure Assignment (F : Type) where
  inputs : List F
  witnesses : List F

structure Layout where
  inputs : Nat
  witnesses : Nat

structure Constraint (F : Type) where
  a : LinearCombination F
  b : LinearCombination F
  c : LinearCombination F

/-- A wire is allocated with the closure that gives its value when proving; `none` is a
missing assignment. -/
inductive Operation (F : Type)
  | input (generate : Assignment F → Option F)
  | witness (generate : Assignment F → Option F)
  | enforce (constraint : Constraint F)

section Values

variable {F : Type} [Field F]

def Assignment.get? (z : Assignment F) : Wire → Option F
  | .one => some 1
  | .input index => z.inputs[index]?
  | .witness index => z.witnesses[index]?

namespace LinearCombination

def value? (z : Assignment F) : LinearCombination F → Option F
  | [] => some 0
  | (wire, coefficient) :: terms => do
      let x ← z.get? wire
      let rest ← value? z terms
      return coefficient * x + rest

def addTerm (wire : Wire) (coefficient : F) : LinearCombination F → LinearCombination F
  | [] => [(wire, coefficient)]
  | (other, present) :: terms =>
      if wire = other then (other, coefficient + present) :: terms
      else (other, present) :: addTerm wire coefficient terms

def add (left right : LinearCombination F) : LinearCombination F :=
  left.foldr (fun term sum => addTerm term.1 term.2 sum) right

def scale (factor : F) (terms : LinearCombination F) : LinearCombination F :=
  terms.map fun term => (term.1, factor * term.2)

def sub (left right : LinearCombination F) : LinearCombination F := add left (scale (-1) right)

variable {z : Assignment F} {left right terms : LinearCombination F} {wire : Wire} {x y : F}

theorem value?_cons_eq_some {coefficient total : F} :
    value? z ((wire, coefficient) :: terms) = some total ↔
      ∃ x rest, z.get? wire = some x ∧ value? z terms = some rest ∧
        coefficient * x + rest = total := by
  simp only [value?, Option.bind_eq_bind, Option.bind_eq_some_iff, Option.pure_def,
    Option.some.injEq]
  constructor
  · intro term
    rcases term with ⟨x, found, rest, valued, same⟩
    exact ⟨x, rest, found, valued, same⟩
  · intro term
    rcases term with ⟨x, rest, found, valued, same⟩
    exact ⟨x, found, rest, valued, same⟩

theorem addTerm_value {coefficient : F} (found : z.get? wire = some x)
    (valued : value? z terms = some y) :
    value? z (addTerm wire coefficient terms) = some (coefficient * x + y) := by
  induction terms generalizing y with
  | nil =>
      cases valued
      exact value?_cons_eq_some.mpr ⟨x, 0, found, rfl, rfl⟩
  | cons term terms ih =>
      rcases value?_cons_eq_some.mp valued with ⟨present, rest, seen, tail, rfl⟩
      rw [addTerm]
      split
      next same =>
        subst same
        cases seen.symm.trans found
        refine value?_cons_eq_some.mpr ⟨x, rest, found, tail, ?_⟩
        ring
      next =>
        refine value?_cons_eq_some.mpr ⟨present, coefficient * x + rest, seen, ih tail, ?_⟩
        ring

theorem add_value (first : value? z left = some x) (second : value? z right = some y) :
    value? z (add left right) = some (x + y) := by
  induction left generalizing x with
  | nil =>
      cases first
      rw [zero_add]
      exact second
  | cons term terms ih =>
      rcases value?_cons_eq_some.mp first with ⟨present, rest, seen, tail, rfl⟩
      rw [add_assoc]
      exact addTerm_value seen (ih tail)

theorem scale_value (factor : F) (valued : value? z terms = some x) :
    value? z (scale factor terms) = some (factor * x) := by
  induction terms generalizing x with
  | nil =>
      cases valued
      rw [mul_zero]
      rfl
  | cons term terms ih =>
      rcases value?_cons_eq_some.mp valued with ⟨present, rest, seen, tail, rfl⟩
      refine value?_cons_eq_some.mpr ⟨present, factor * rest, seen, ih tail, ?_⟩
      ring

theorem sub_value (first : value? z left = some x) (second : value? z right = some y) :
    value? z (sub left right) = some (x - y) := by
  rw [sub_eq_add_neg, ← neg_one_mul y]
  exact add_value first (scale_value _ second)

theorem wire_value (found : z.get? wire = some x) : value? z [(wire, 1)] = some x :=
  value?_cons_eq_some.mpr ⟨x, 0, found, rfl, by rw [one_mul, add_zero]⟩

end LinearCombination

def Constraint.Holds (z : Assignment F) (k : Constraint F) : Prop :=
  ∃ a b, k.a.value? z = some a ∧ k.b.value? z = some b ∧ k.c.value? z = some (a * b)

theorem Constraint.Holds.product {z : Assignment F} {k : Constraint F} {a b c : F}
    (holds : k.Holds z) (first : k.a.value? z = some a) (second : k.b.value? z = some b)
    (third : k.c.value? z = some c) : a * b = c := by
  rcases holds with ⟨x, y, left, right, result⟩
  cases left.symm.trans first
  cases right.symm.trans second
  exact Option.some.inj (result.symm.trans third)

def Assignment.Grows (z later : Assignment F) : Prop :=
  ∀ wire x, z.get? wire = some x → later.get? wire = some x

namespace Assignment.Grows

variable {z middle later : Assignment F}

theorem refl (z : Assignment F) : z.Grows z := fun _ _ found => found

theorem trans (first : z.Grows middle) (second : middle.Grows later) : z.Grows later :=
  fun wire x found => second wire x (first wire x found)

theorem value (grows : z.Grows later) {terms : LinearCombination F} {x : F}
    (valued : terms.value? z = some x) : terms.value? later = some x := by
  induction terms generalizing x with
  | nil => exact valued
  | cons term terms ih =>
      obtain ⟨present, rest, seen, tail, same⟩ :=
        LinearCombination.value?_cons_eq_some.mp valued
      exact LinearCombination.value?_cons_eq_some.mpr
        ⟨present, rest, grows _ _ seen, ih tail, same⟩

theorem holds (grows : z.Grows later) {k : Constraint F} (kept : k.Holds z) : k.Holds later := by
  rcases kept with ⟨a, b, first, second, third⟩
  exact ⟨a, b, grows.value first, grows.value second, grows.value third⟩

end Assignment.Grows

end Values

section Systems

variable {F : Type} [Field F]

def isInput : Operation F → Bool
  | .input _ => true
  | _ => false

def isWitness : Operation F → Bool
  | .witness _ => true
  | _ => false

def Layout.advance (layout : Layout) (operations : List (Operation F)) : Layout :=
  ⟨layout.inputs + operations.countP isInput, layout.witnesses + operations.countP isWitness⟩

def Assignment.layout (z : Assignment F) : Layout := ⟨z.inputs.length, z.witnesses.length⟩

/-- A prover runs the closures in the order of the allocations. -/
def proveStep (z : Assignment F) : Operation F → Option (Assignment F)
  | .input generate => do
      let x ← generate z
      return { z with inputs := z.inputs ++ [x] }
  | .witness generate => do
      let x ← generate z
      return { z with witnesses := z.witnesses ++ [x] }
  | .enforce _ => some z

def prove (z : Assignment F) (operations : List (Operation F)) : Option (Assignment F) :=
  operations.foldlM proveStep z

structure Satisfies (z : Assignment F) (layout : Layout) (operations : List (Operation F)) :
    Prop where
  inputs : (layout.advance operations).inputs ≤ z.inputs.length
  witnesses : (layout.advance operations).witnesses ≤ z.witnesses.length
  holds : ∀ k, .enforce k ∈ operations → k.Holds z

omit [Field F] in
theorem advance_append (layout : Layout) (front back : List (Operation F)) :
    layout.advance (front ++ back) = (layout.advance front).advance back := by
  simp only [Layout.advance, List.countP_append, Nat.add_assoc]

theorem Satisfies.front {z : Assignment F} {layout : Layout} {front back : List (Operation F)}
    (whole : Satisfies z layout (front ++ back)) : Satisfies z layout front := by
  rcases whole with ⟨inputs, witnesses, holds⟩
  rw [advance_append] at inputs witnesses
  exact ⟨(Nat.le_add_right _ _).trans inputs, (Nat.le_add_right _ _).trans witnesses,
    fun k member => holds k (List.mem_append_left _ member)⟩

theorem Satisfies.back {z : Assignment F} {layout : Layout} {front back : List (Operation F)}
    (whole : Satisfies z layout (front ++ back)) : Satisfies z (layout.advance front) back := by
  rcases whole with ⟨inputs, witnesses, holds⟩
  rw [advance_append] at inputs witnesses
  exact ⟨inputs, witnesses, fun k member => holds k (List.mem_append_right _ member)⟩

omit [Field F] in
theorem prove_append (z : Assignment F) (front back : List (Operation F)) :
    prove z (front ++ back) = (prove z front).bind fun middle => prove middle back :=
  List.foldlM_append

theorem proveStep_layout {z later : Assignment F} {operation : Operation F}
    (ran : proveStep z operation = some later) :
    later.layout = z.layout.advance [operation] ∧ z.Grows later := by
  have kept : ∀ {values : List F} {index : Nat} {x : F} (more : List F),
      values[index]? = some x → (values ++ more)[index]? = some x := by
    intro values index x more found
    rw [List.getElem?_append_left (List.getElem?_eq_some_iff.mp found).1, found]
  cases operation with
  | input generate =>
      simp only [proveStep, Option.bind_eq_bind, Option.bind_eq_some_iff, Option.pure_def,
        Option.some.injEq] at ran
      rcases ran with ⟨x, _, rfl⟩
      refine ⟨by simp [Assignment.layout, Layout.advance, isInput, isWitness], ?_⟩
      intro wire y found
      cases wire with
      | one => exact found
      | input index => exact kept _ found
      | witness index => exact found
  | witness generate =>
      simp only [proveStep, Option.bind_eq_bind, Option.bind_eq_some_iff, Option.pure_def,
        Option.some.injEq] at ran
      rcases ran with ⟨x, _, rfl⟩
      refine ⟨by simp [Assignment.layout, Layout.advance, isInput, isWitness], ?_⟩
      intro wire y found
      cases wire with
      | one => exact found
      | input index => exact found
      | witness index => exact kept _ found
  | enforce k =>
      cases ran
      exact ⟨rfl, .refl _⟩

theorem prove_layout {operations : List (Operation F)} {z later : Assignment F}
    (ran : prove z operations = some later) :
    later.layout = z.layout.advance operations ∧ z.Grows later := by
  induction operations generalizing z with
  | nil =>
      cases ran
      exact ⟨rfl, .refl _⟩
  | cons operation rest ih =>
      rw [prove, List.foldlM_cons, Option.bind_eq_bind, Option.bind_eq_some_iff] at ran
      rcases ran with ⟨middle, first, second⟩
      have stepped := proveStep_layout first
      have followed := ih second
      constructor
      · rw [followed.1, stepped.1]
        exact (advance_append z.layout [operation] rest).symm
      · exact stepped.2.trans followed.2

end Systems

section Programs

structure Built (F α : Type) where
  result : α
  operations : List (Operation F)

structure Synthesis (F α : Type) where
  build : Layout → Built F α

variable {F α β : Type}

instance : Monad (Synthesis F) where
  pure a := ⟨fun _ => ⟨a, []⟩⟩
  bind m f := ⟨fun layout =>
    let first := m.build layout
    let second := (f first.result).build (layout.advance first.operations)
    ⟨second.result, first.operations ++ second.operations⟩⟩

theorem build_bind (m : Synthesis F α) (f : α → Synthesis F β) (layout : Layout) :
    (m >>= f).build layout =
      ⟨((f (m.build layout).result).build
          (layout.advance (m.build layout).operations)).result,
        (m.build layout).operations ++ ((f (m.build layout).result).build
          (layout.advance (m.build layout).operations)).operations⟩ := rfl

theorem Synthesis.ext {m m' : Synthesis F α}
    (same : ∀ layout, m.build layout = m'.build layout) : m = m' := by
  cases m
  cases m'
  exact congrArg Synthesis.mk (funext same)

instance : LawfulMonad (Synthesis F) := LawfulMonad.mk' _
  (by
    intro α m
    apply Synthesis.ext
    intro layout
    exact congrArg (Built.mk _) (List.append_nil _))
  (by
    intro α β a f
    rfl)
  (by
    intro α β γ m f g
    apply Synthesis.ext
    intro layout
    simp only [build_bind, advance_append, List.append_assoc])

def newInput (generate : Assignment F → Option F) : Synthesis F Wire :=
  ⟨fun layout => ⟨.input layout.inputs, [.input generate]⟩⟩

def newWitness (generate : Assignment F → Option F) : Synthesis F Wire :=
  ⟨fun layout => ⟨.witness layout.witnesses, [.witness generate]⟩⟩

def enforce (k : Constraint F) : Synthesis F Unit := ⟨fun _ => ⟨(), [.enforce k]⟩⟩

variable [Field F]

/-- Every assignment that satisfies what `m` adds gives its result the property. -/
def Forces (z : Assignment F) (m : Synthesis F α) (Q : α → Prop) : Prop :=
  ∀ layout, Satisfies z layout (m.build layout).operations → Q (m.build layout).result

/-- A prover whose values so far are `z` runs `m` through, meets its constraints and ends
with the property. -/
def Proves (z : Assignment F) (m : Synthesis F α) (Q : Assignment F → α → Prop) : Prop :=
  ∃ later, prove z (m.build z.layout).operations = some later ∧
    (∀ k, .enforce k ∈ (m.build z.layout).operations → k.Holds later) ∧ Q later (m.build z.layout).result

def Honest (z : Assignment F) (m : Synthesis F α) (Q : Assignment F → α → Prop) : Prop :=
  Proves z m fun later a => later.inputs = z.inputs ∧ Q later a

/-- Two programs that differ only in the closures they give their wires. -/
def Alike (m m' : Synthesis F α) : Prop :=
  ∀ layout, (m.build layout).result = (m'.build layout).result ∧
    layout.advance (m.build layout).operations = layout.advance (m'.build layout).operations ∧
    ∀ k, .enforce k ∈ (m.build layout).operations ↔ .enforce k ∈ (m'.build layout).operations

variable {z : Assignment F} {m m' : Synthesis F α} {f f' : α → Synthesis F β}

section Soundness

variable {P : α → Prop} {Q : β → Prop}

theorem forces_pure {a : α} (holds : P a) : Forces z (pure a) P := fun _ _ => holds

theorem forces_bind (first : Forces z m P) (rest : ∀ a, P a → Forces z (f a) Q) :
    Forces z (m >>= f) Q := by
  intro layout satisfied
  exact rest _ (first layout satisfied.front) _ satisfied.back

theorem forces_mono {P' : α → Prop} (forces : Forces z m P) (weaker : ∀ a, P a → P' a) :
    Forces z m P' := fun layout satisfied => weaker _ (forces layout satisfied)

theorem forces_newWitness (generate : Assignment F → Option F) :
    Forces z (newWitness generate) fun wire => ∃ x, z.get? wire = some x := by
  intro layout satisfied
  have bound : layout.witnesses < z.witnesses.length := satisfied.witnesses
  exact ⟨_, List.getElem?_eq_getElem bound⟩

theorem forces_enforce (k : Constraint F) : Forces z (enforce k) fun _ => k.Holds z :=
  fun _ satisfied => satisfied.holds k (List.mem_singleton_self _)

theorem forces_range' (I : Nat → α → Prop) {body : α → Nat → Synthesis F α}
    (step : ∀ i a, I i a → Forces z (body a i) (I (i + 1))) (n start : Nat) {a : α}
    (init : I start a) :
    Forces z ((List.range' start n).foldlM body a) (I (start + n)) := by
  induction n generalizing start a with
  | zero => exact forces_pure init
  | succ n ih =>
      rw [List.range'_succ, List.foldlM_cons, Nat.add_comm n 1, ← Nat.add_assoc]
      exact forces_bind (step start a init) fun b kept => ih (start + 1) kept

/-- The invariant rule of `for i in 0..n`. -/
theorem forces_range (I : Nat → α → Prop) {body : α → Nat → Synthesis F α}
    (step : ∀ i a, I i a → Forces z (body a i) (I (i + 1))) (n : Nat) {a : α} (init : I 0 a) :
    Forces z ((List.range n).foldlM body a) (I n) := by
  have looped := forces_range' I step n 0 init
  rwa [Nat.zero_add, ← List.range_eq_range'] at looped

end Soundness

section Completeness

variable {P : Assignment F → α → Prop} {Q : Assignment F → β → Prop}

theorem proves_bind (first : Proves z m P)
    (rest : ∀ middle a, z.Grows middle → P middle a → Proves middle (f a) Q) :
    Proves z (m >>= f) Q := by
  rcases first with ⟨middle, ran, kept, mid⟩
  have filled := prove_layout ran
  rcases rest middle _ filled.2 mid with ⟨later, continued, met, last⟩
  rw [filled.1] at continued met last
  refine ⟨later, ?_, ?_, last⟩
  · change prove z (_ ++ _) = _
    rw [prove_append, ran]
    exact continued
  · intro k member
    rcases List.mem_append.mp member with before | after
    · exact (prove_layout continued).2.holds (kept k before)
    · exact met k after

theorem proves_mono {P' : Assignment F → α → Prop} (proves : Proves z m P)
    (weaker : ∀ later a, P later a → P' later a) : Proves z m P' := by
  rcases proves with ⟨later, ran, holds, last⟩
  exact ⟨later, ran, holds, weaker later _ last⟩

theorem proves_newInput {generate : Assignment F → Option F} {x : F}
    (given : generate z = some x) :
    Proves z (newInput generate) fun later wire =>
      later.get? wire = some x ∧ later.inputs = z.inputs ++ [x] := by
  refine ⟨{ z with inputs := z.inputs ++ [x] }, ?_, ?_, ?_, rfl⟩
  · change (proveStep z (.input generate)).bind _ = _
    rw [proveStep, given]
    rfl
  · intro k member
    cases List.mem_singleton.mp member
  · change (z.inputs ++ [x])[z.inputs.length]? = some x
    simp

theorem honest_pure {a : α} (holds : P z a) : Honest z (pure a) P :=
  ⟨z, rfl, fun _ member => absurd member List.not_mem_nil, rfl, holds⟩

theorem honest_bind (first : Honest z m P)
    (rest : ∀ middle a, z.Grows middle → P middle a → Honest middle (f a) Q) :
    Honest z (m >>= f) Q := by
  apply proves_bind first
  intro middle a grows reached
  rcases reached with ⟨same, mid⟩
  rcases rest middle a grows mid with ⟨later, ran, met, kept, last⟩
  exact ⟨later, ran, met, kept.trans same, last⟩

theorem honest_newWitness {generate : Assignment F → Option F} {x : F}
    (given : generate z = some x) :
    Honest z (newWitness generate) fun later wire => later.get? wire = some x := by
  refine ⟨{ z with witnesses := z.witnesses ++ [x] }, ?_, ?_, rfl, ?_⟩
  · change (proveStep z (.witness generate)).bind _ = _
    rw [proveStep, given]
    rfl
  · intro k member
    cases List.mem_singleton.mp member
  · change (z.witnesses ++ [x])[z.witnesses.length]? = some x
    simp

theorem honest_enforce {k : Constraint F} (holds : k.Holds z) :
    Honest z (enforce k) fun later _ => later = z := by
  refine ⟨z, rfl, ?_, rfl, rfl⟩
  intro other member
  cases List.mem_singleton.mp member
  exact holds

theorem honest_range' (I : Nat → Assignment F → α → Prop) {body : α → Nat → Synthesis F α}
    {stop : Nat}
    (step : ∀ i later a, i < stop → z.Grows later → I i later a →
      Honest later (body a i) (I (i + 1)))
    (n start : Nat) (fits : start + n ≤ stop) {middle : Assignment F} {a : α}
    (grown : z.Grows middle) (init : I start middle a) :
    Honest middle ((List.range' start n).foldlM body a) (I (start + n)) := by
  induction n generalizing start middle a with
  | zero => exact honest_pure init
  | succ n ih =>
      have inside : start < stop := by omega
      rw [List.range'_succ, List.foldlM_cons, Nat.add_comm n 1, ← Nat.add_assoc]
      exact honest_bind (step start middle a inside grown init) fun later b more kept =>
        ih (start + 1) (by omega) (grown.trans more) kept

theorem honest_range (I : Nat → Assignment F → α → Prop) {body : α → Nat → Synthesis F α} (n : Nat)
    (step : ∀ i later a, i < n → z.Grows later → I i later a →
      Honest later (body a i) (I (i + 1)))
    {a : α} (init : I 0 z a) : Honest z ((List.range n).foldlM body a) (I n) := by
  have looped := honest_range' I step n 0 (Nat.zero_add n).le (.refl z) init
  rwa [Nat.zero_add, ← List.range_eq_range'] at looped

end Completeness

section Structure

omit [Field F]

theorem alike_refl (m : Synthesis F α) : Alike m m := fun _ => ⟨rfl, rfl, fun _ => Iff.rfl⟩

theorem alike_bind (first : Alike m m') (rest : ∀ a, Alike (f a) (f' a)) :
    Alike (m >>= f) (m' >>= f') := by
  intro layout
  rcases first layout with ⟨result, advanced, constraints⟩
  obtain ⟨result', advanced', constraints'⟩ :=
    rest (m.build layout).result (layout.advance (m.build layout).operations)
  rw [result, advanced] at result' advanced' constraints'
  rw [build_bind, build_bind, advance_append, advance_append, result, advanced]
  exact ⟨result', advanced', fun k => by
    rw [List.mem_append, List.mem_append, constraints k, constraints' k]⟩

theorem alike_newInput (generate generate' : Assignment F → Option F) :
    Alike (newInput generate) (newInput generate') := by
  intro layout
  exact ⟨rfl, rfl, fun k => by simp [newInput]⟩

theorem alike_newWitness (generate generate' : Assignment F → Option F) :
    Alike (newWitness generate) (newWitness generate') := by
  intro layout
  exact ⟨rfl, rfl, fun k => by simp [newWitness]⟩

theorem alike_foldlM {body body' : α → Nat → Synthesis F α}
    (step : ∀ a i, Alike (body a i) (body' a i)) (indices : List Nat) (a : α) :
    Alike (indices.foldlM body a) (indices.foldlM body' a) := by
  induction indices generalizing a with
  | nil => exact alike_refl _
  | cons i rest ih =>
      rw [List.foldlM_cons, List.foldlM_cons]
      exact alike_bind (step a i) ih

end Structure

theorem Alike.satisfies (alike : Alike m m') (layout : Layout) :
    Satisfies z layout (m.build layout).operations ↔ Satisfies z layout (m'.build layout).operations := by
  rcases alike layout with ⟨_, advanced, constraints⟩
  constructor
  · intro satisfies
    rcases satisfies with ⟨inputs, witnesses, holds⟩
    exact ⟨advanced ▸ inputs, advanced ▸ witnesses, fun k member =>
      holds k ((constraints k).mpr member)⟩
  · intro satisfies
    rcases satisfies with ⟨inputs, witnesses, holds⟩
    exact ⟨advanced.symm ▸ inputs, advanced.symm ▸ witnesses, fun k member =>
      holds k ((constraints k).mp member)⟩

theorem Proves.satisfies {Q : Assignment F → α → Prop} (proves : Proves z m Q) :
    ∃ later, prove z (m.build z.layout).operations = some later ∧
      Satisfies later z.layout (m.build z.layout).operations ∧ Q later (m.build z.layout).result := by
  rcases proves with ⟨later, ran, holds, last⟩
  have filled := (prove_layout ran).1
  exact ⟨later, ran, ⟨filled ▸ le_refl _, filled ▸ le_refl _, holds⟩, last⟩

end Programs

end R1cs
