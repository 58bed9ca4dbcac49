import Giffy.Foundation.ConstraintSystem

/-! Field and bit variables over a constraint system, with the constraints their operations
add. -/

namespace R1cs

variable {F : Type} [Field F]

/-- A constant costs no constraint; anything else is a combination of wires. -/
inductive FpVar (F : Type)
  | constant (c : F)
  | allocated (terms : LinearCombination F)

namespace FpVar

def value? (z : Assignment F) : FpVar F → Option F
  | .constant c => some c
  | .allocated terms => terms.value? z

def terms : FpVar F → LinearCombination F
  | .constant c => [(.one, c)]
  | .allocated terms => terms

def add : FpVar F → FpVar F → FpVar F
  | .constant a, .constant b => .constant (a + b)
  | x, y => .allocated (x.terms.add y.terms)

def mulConstant (factor : F) : FpVar F → FpVar F
  | .constant c => .constant (c * factor)
  | .allocated terms => .allocated (terms.scale factor)

def newInput (generate : Assignment F → Option F) : Synthesis F (FpVar F) := do
  let wire ← R1cs.newInput generate
  return .allocated [(wire, 1)]

def newWitness (generate : Assignment F → Option F) : Synthesis F (FpVar F) := do
  let wire ← R1cs.newWitness generate
  return .allocated [(wire, 1)]

/-- The product of two combinations is a new witness tied to them by one constraint. -/
def mul : FpVar F → FpVar F → Synthesis F (FpVar F)
  | .constant a, y => pure (y.mulConstant a)
  | x, .constant b => pure (x.mulConstant b)
  | .allocated x, .allocated y => do
      let product ← R1cs.newWitness fun z => do
        let a ← x.value? z
        let b ← y.value? z
        return a * b
      enforce ⟨x, y, [(product, 1)]⟩
      return .allocated [(product, 1)]

def enforceEqual : FpVar F → FpVar F → Synthesis F Unit
  | .constant _, .constant _ => pure ()
  | x, y => enforce ⟨x.terms.sub y.terms, [(.one, 1)], []⟩

end FpVar

structure Boolean where
  wire : Wire

def bitValue (b : Bool) : F := if b then 1 else 0

/-- A bit witness comes with `(1 - b) * b = 0`. -/
def Boolean.newWitness (generate : Assignment F → Option Bool) : Synthesis F Boolean := do
  let wire ← R1cs.newWitness fun z => do
    let b ← generate z
    return bitValue b
  enforce ⟨[(.one, 1), (wire, -1)], [(wire, 1)], []⟩
  return ⟨wire⟩

/-- `r` with `b * (ifTrue - ifFalse) = r - ifFalse`; two constants need no witness. -/
def conditionallySelect [DecidableEq F] (bit : Boolean) (ifTrue ifFalse : FpVar F) :
    Synthesis F (FpVar F) :=
  match ifTrue, ifFalse with
  | .constant t, .constant f =>
      pure (.allocated (LinearCombination.add (LinearCombination.scale t [(bit.wire, 1)])
        (LinearCombination.scale f [(.one, 1), (bit.wire, -1)])))
  | t, f => do
      let result ← R1cs.newWitness fun z => do
        let b ← z.get? bit.wire
        if b = 1 then t.value? z else f.value? z
      enforce ⟨[(bit.wire, 1)], t.terms.sub f.terms,
        LinearCombination.sub [(result, 1)] f.terms⟩
      return .allocated [(result, 1)]

section Values

variable {z later : Assignment F} {x y : FpVar F} {a b : F}

namespace FpVar

theorem grows_value (grows : z.Grows later) (valued : x.value? z = some a) :
    x.value? later = some a := by
  cases x with
  | constant c => exact valued
  | allocated terms => exact grows.value valued

theorem terms_value (valued : x.value? z = some a) : x.terms.value? z = some a := by
  cases x with
  | constant c =>
      cases valued
      exact LinearCombination.value?_cons_eq_some.mpr ⟨1, 0, rfl, rfl, by ring⟩
  | allocated terms => exact valued

theorem add_value (first : x.value? z = some a) (second : y.value? z = some b) :
    (x.add y).value? z = some (a + b) := by
  have sum := LinearCombination.add_value (terms_value first) (terms_value second)
  cases x with
  | constant c =>
      cases y with
      | constant e =>
          cases first
          cases second
          rfl
      | allocated terms => exact sum
  | allocated terms => exact sum

theorem mulConstant_value (factor : F) (valued : x.value? z = some a) :
    (x.mulConstant factor).value? z = some (a * factor) := by
  cases x with
  | constant c =>
      cases valued
      rfl
  | allocated terms =>
      rw [mul_comm]
      exact LinearCombination.scale_value factor valued

theorem constant_mul_value {c : F} (first : (constant c).value? z = some a)
    (second : y.value? z = some b) : (y.mulConstant c).value? z = some (a * b) := by
  cases first
  rw [mul_comm]
  exact mulConstant_value _ second

end FpVar

theorem complement_value {wire : Wire} (found : z.get? wire = some a) :
    LinearCombination.value? z [(Wire.one, 1), (wire, -1)] = some (1 - a) := by
  have negated := LinearCombination.scale_value (-1) (LinearCombination.wire_value found)
  rw [LinearCombination.scale, List.map_singleton, mul_one] at negated
  exact LinearCombination.value?_cons_eq_some.mpr ⟨1, -1 * a, rfl, negated, by ring⟩

theorem bitValue_select (c : Bool) (a b : F) :
    bitValue c * (a - b) + b = if c then a else b := by
  cases c <;> simp [bitValue]

theorem bitValue_mul_complement (c : Bool) : (1 - bitValue c) * bitValue c = (0 : F) := by
  cases c <;> simp [bitValue]

theorem bitValue_eq_one_iff {c : Bool} : bitValue c = (1 : F) ↔ c = true := by
  cases c <;> simp [bitValue]

end Values

section ConstantSelect

variable {z : Assignment F} {bit : Boolean} {c : Bool}

theorem constant_select (chosen : z.get? bit.wire = some (bitValue c)) (a b : F) :
    LinearCombination.value? z (LinearCombination.add (LinearCombination.scale a [(bit.wire, 1)])
      (LinearCombination.scale b [(.one, 1), (bit.wire, -1)])) =
        some (bitValue c * (a - b) + b) := by
  have sum := LinearCombination.add_value
    (LinearCombination.scale_value a (LinearCombination.wire_value chosen))
    (LinearCombination.scale_value b (complement_value chosen))
  rw [sum, Option.some.injEq]
  ring

end ConstantSelect

section Soundness

variable {z : Assignment F} {x y : FpVar F} {a b : F}

theorem forces_witness (generate : Assignment F → Option F) :
    Forces z (FpVar.newWitness generate) fun x => ∃ a, x.value? z = some a :=
  forces_bind (forces_newWitness generate) fun _ found => forces_pure
    (found.imp fun _ => LinearCombination.wire_value)

theorem satisfies_input {α : Type} {generate : Assignment F → Option F}
    {f : FpVar F → Synthesis F α} {inputs witnesses : Nat}
    (satisfied : Satisfies z ⟨inputs, witnesses⟩
      ((FpVar.newInput generate >>= f).build ⟨inputs, witnesses⟩).operations) :
    Satisfies z ⟨inputs + 1, witnesses⟩
      ((f (.allocated [(.input inputs, 1)])).build ⟨inputs + 1, witnesses⟩).operations :=
  satisfied.back

theorem forces_mul (first : x.value? z = some a) (second : y.value? z = some b) :
    Forces z (x.mul y) fun product => product.value? z = some (a * b) := by
  cases x with
  | constant c => cases y <;> exact forces_pure (FpVar.constant_mul_value first second)
  | allocated left =>
      cases y with
      | constant c =>
          cases second
          exact forces_pure (FpVar.mulConstant_value _ first)
      | allocated right =>
          refine forces_bind (forces_newWitness _) ?_
          intro product read
          rcases read with ⟨c, found⟩
          have single := LinearCombination.wire_value found
          refine forces_bind (forces_enforce _) ?_
          intro _ holds
          rw [holds.product first second single]
          exact forces_pure single

theorem forces_enforceEqual {terms : LinearCombination F} (first : x.value? z = some a)
    (second : terms.value? z = some b) :
    Forces z (x.enforceEqual (.allocated terms)) fun _ => a = b := by
  have constrained : Forces z (enforce ⟨x.terms.sub terms, [(.one, 1)], []⟩) fun _ => a = b := by
    intro layout satisfied
    have holds := forces_enforce _ layout satisfied
    have product := holds.product (LinearCombination.sub_value (FpVar.terms_value first) second)
      (LinearCombination.wire_value rfl) rfl
    rw [mul_one] at product
    exact sub_eq_zero.mp product
  cases x <;> exact constrained

theorem forces_boolean (generate : Assignment F → Option Bool) :
    Forces z (Boolean.newWitness generate) fun bit =>
      ∃ b : Bool, z.get? bit.wire = some (bitValue b) := by
  refine forces_bind (forces_newWitness _) ?_
  intro wire read
  rcases read with ⟨x, found⟩
  refine forces_bind (forces_enforce _) ?_
  intro _ holds
  have single := LinearCombination.wire_value found
  have product := holds.product (complement_value found) single rfl
  apply forces_pure
  rcases mul_eq_zero.mp product with one | zero
  · exact ⟨true, by rw [found, ← sub_eq_zero.mp one]; rfl⟩
  · exact ⟨false, by rw [found, zero]; rfl⟩

theorem forces_select [DecidableEq F] {bit : Boolean} {c : Bool}
    (chosen : z.get? bit.wire = some (bitValue c)) (first : x.value? z = some a)
    (second : y.value? z = some b) :
    Forces z (conditionallySelect bit x y) fun selected =>
      selected.value? z = some (if c then a else b) := by
  have constrained : Forces z (do
      let result ← R1cs.newWitness fun z => do
        let b ← z.get? bit.wire
        if b = 1 then x.value? z else y.value? z
      enforce ⟨[(bit.wire, 1)], x.terms.sub y.terms, LinearCombination.sub [(result, 1)] y.terms⟩
      return FpVar.allocated [(result, 1)])
      fun selected => selected.value? z = some (if c then a else b) := by
    refine forces_bind (forces_newWitness _) ?_
    intro result read
    rcases read with ⟨r, found⟩
    have single := LinearCombination.wire_value found
    have other := FpVar.terms_value second
    refine forces_bind (forces_enforce _) ?_
    intro _ holds
    have product := holds.product (LinearCombination.wire_value chosen)
      (LinearCombination.sub_value (FpVar.terms_value first) other)
      (LinearCombination.sub_value single other)
    apply forces_pure
    change LinearCombination.value? z [(result, 1)] = _
    rw [single, Option.some.injEq, ← bitValue_select, product]
    ring
  cases x with
  | allocated left => exact constrained
  | constant t =>
      cases y with
      | allocated right => exact constrained
      | constant f =>
          cases first
          cases second
          apply forces_pure
          rw [← bitValue_select]
          exact constant_select chosen a b

end Soundness

section Completeness

variable {z : Assignment F} {x y : FpVar F} {a b : F}

theorem honest_witness {generate : Assignment F → Option F} (given : generate z = some a) :
    Honest z (FpVar.newWitness generate) fun later x => x.value? later = some a :=
  honest_bind (honest_newWitness given) fun _ _ _ found =>
    honest_pure (LinearCombination.wire_value found)

theorem proves_input {generate : Assignment F → Option F} (given : generate z = some a) :
    Proves z (FpVar.newInput generate) fun later x =>
      later.inputs = z.inputs ++ [a] ∧ x.value? later = some a := by
  refine proves_bind (proves_newInput given) ?_
  rintro later wire _ ⟨found, same⟩
  exact ⟨later, rfl, fun _ member => absurd member List.not_mem_nil, same,
    LinearCombination.wire_value found⟩

theorem honest_mul (first : x.value? z = some a) (second : y.value? z = some b) :
    Honest z (x.mul y) fun later product => product.value? later = some (a * b) := by
  cases x with
  | constant c => cases y <;> exact honest_pure (FpVar.constant_mul_value first second)
  | allocated left =>
      cases y with
      | constant c =>
          cases second
          exact honest_pure (FpVar.mulConstant_value _ first)
      | allocated right =>
          have leftValue : left.value? z = some a := first
          have rightValue : right.value? z = some b := second
          refine honest_bind (honest_newWitness (x := a * b) (by
            rw [leftValue, rightValue]
            rfl)) ?_
          intro later product grows found
          have single := LinearCombination.wire_value found
          refine honest_bind (honest_enforce
            ⟨a, b, grows.value leftValue, grows.value rightValue, single⟩) ?_
          rintro _ _ _ rfl
          exact honest_pure single

theorem honest_enforceEqual (first : x.value? z = some a) (second : y.value? z = some a) :
    Honest z (x.enforceEqual y) fun _ _ => True := by
  have difference := LinearCombination.sub_value (FpVar.terms_value first)
    (FpVar.terms_value second)
  have constrained : Honest z (enforce ⟨x.terms.sub y.terms, [(.one, 1)], []⟩) fun _ _ => True := by
    refine honest_bind (f := fun u => pure u) (honest_enforce ⟨_, 1, difference,
      LinearCombination.wire_value rfl, ?_⟩) fun _ _ _ _ => honest_pure trivial
    rw [sub_self, zero_mul]
    rfl
  cases x with
  | allocated left => exact constrained
  | constant c =>
      cases y with
      | allocated right => exact constrained
      | constant e => exact honest_pure trivial

theorem honest_boolean {generate : Assignment F → Option Bool} {c : Bool}
    (given : generate z = some c) :
    Honest z (Boolean.newWitness generate) fun later bit =>
      later.get? bit.wire = some (bitValue c) := by
  refine honest_bind (honest_newWitness (x := bitValue c) (by rw [given]; rfl)) ?_
  intro later wire _ found
  refine honest_bind (honest_enforce ⟨_, _, complement_value found,
    LinearCombination.wire_value found, ?_⟩) ?_
  · rw [bitValue_mul_complement]
    rfl
  · rintro _ _ _ rfl
    exact honest_pure found

theorem honest_select [DecidableEq F] {bit : Boolean} {c : Bool}
    (chosen : z.get? bit.wire = some (bitValue c)) (first : x.value? z = some a)
    (second : y.value? z = some b) :
    Honest z (conditionallySelect bit x y) fun later selected =>
      selected.value? later = some (if c then a else b) := by
  have constrained : Honest z (do
      let result ← R1cs.newWitness fun z => do
        let b ← z.get? bit.wire
        if b = 1 then x.value? z else y.value? z
      enforce ⟨[(bit.wire, 1)], x.terms.sub y.terms, LinearCombination.sub [(result, 1)] y.terms⟩
      return FpVar.allocated [(result, 1)])
      fun later selected => selected.value? later = some (if c then a else b) := by
    refine honest_bind (honest_newWitness (x := if c then a else b) ?_) ?_
    · rw [chosen, Option.bind_eq_bind, Option.bind_some]
      simp only [bitValue_eq_one_iff]
      split
      · exact first
      · exact second
    · intro later result grows found
      have other := FpVar.terms_value (FpVar.grows_value grows second)
      have single := LinearCombination.wire_value found
      refine honest_bind (honest_enforce ⟨_, _, LinearCombination.wire_value (grows _ _ chosen),
        LinearCombination.sub_value (FpVar.terms_value (FpVar.grows_value grows first)) other,
        ?_⟩) ?_
      · rw [LinearCombination.sub_value single other, ← bitValue_select, add_sub_cancel_right]
      · rintro _ _ _ rfl
        exact honest_pure single
  cases x with
  | allocated left => exact constrained
  | constant t =>
      cases y with
      | allocated right => exact constrained
      | constant f =>
          cases first
          cases second
          apply honest_pure
          rw [← bitValue_select]
          exact constant_select chosen a b

end Completeness

section Structure

theorem alike_input (generate generate' : Assignment F → Option F) :
    Alike (FpVar.newInput generate) (FpVar.newInput generate') :=
  alike_bind (alike_newInput generate generate') fun _ => alike_refl _

theorem alike_witness (generate generate' : Assignment F → Option F) :
    Alike (FpVar.newWitness generate) (FpVar.newWitness generate') :=
  alike_bind (alike_newWitness generate generate') fun _ => alike_refl _

theorem alike_boolean (generate generate' : Assignment F → Option Bool) :
    Alike (F := F) (Boolean.newWitness generate) (Boolean.newWitness generate') :=
  alike_bind (alike_newWitness _ _) fun _ => alike_refl _

end Structure

end R1cs
