import Giffy.Backend.ContributeService
import Giffy.Chain.Assets

/-! The amounts the routes and the chain layer let through. -/

namespace Giffy.Backend

open Chain

section Paths

def Under (path : List String) (issues : List Issue) : Prop := ∀ issue ∈ issues, path <+: issue.path

def PassesAt (path : List String) (issues : List Issue) : Prop := ∀ issue ∈ issues, issue.path ≠ path

variable {sdk : Sdk} {path target : List String} {issues issues' : List Issue}

theorem under_append (left : Under path issues) (right : Under path issues') :
    Under path (issues ++ issues') := by
  intro issue member
  rcases List.mem_append.mp member with inside | inside
  · exact left issue inside
  · exact right issue inside

theorem under_field {field : String} (under : Under (path ++ [field]) issues) :
    Under path issues := by
  intro issue member
  exact (List.prefix_append path [field]).trans (under issue member)

theorem under_nil : Under path [] := by
  intro issue member
  cases member

theorem check_under (message : Option String) (holds : Bool) :
    Under path (check path message holds) := by
  intro issue member
  unfold check at member
  split at member
  · cases member
  · rw [List.mem_singleton.mp member]

theorem stringMin_under (least : Nat) (text : Text) : Under path (stringMin path least text) :=
  check_under none _

theorem stringMax_under (most : Nat) (text : Text) : Under path (stringMax path most text) :=
  check_under none _

theorem stellarPublicKey_under (value : Text) : Under path (stellarPublicKey sdk path value) :=
  check_under _ _

theorem stellarAmount_under (value : Text) : Under path (stellarAmount path value) :=
  under_append (check_under _ _) (check_under _ _)

theorem assetCode_under (value : Text) : Under path (assetCode path value) :=
  under_append (under_append (stringMin_under 1 value) (stringMax_under 12 value))
    (check_under _ _)

theorem nullish_under {α : Type} {schema : α → List Issue} (each : ∀ x, Under path (schema x))
    (value : Option α) : Under path (nullish schema value) := by
  cases value with
  | none => exact under_nil
  | some x => exact each x

theorem conditionStep_under (step : ConditionStep) : Under path (conditionStep path step) := by
  rw [conditionStep, List.append_assoc]
  apply under_append
  · exact under_field (under_append (stringMin_under 1 step.label) (stringMax_under 120 step.label))
  · exact under_field (under_append (stringMin_under 1 step.description)
      (stringMax_under 280 step.description))

theorem conditionInput_under (body : ConditionBody) : Under path (conditionInput sdk path body) := by
  cases body with
  | none => exact under_nil
  | trivia question answer =>
      rw [conditionInput, List.append_assoc]
      apply under_append
      · exact under_field (under_append (stringMin_under 1 question) (stringMax_under 280 question))
      · exact under_field (under_append (stringMin_under 1 answer) (stringMax_under 280 answer))
  | stepGate steps stepUnlockerPublicKey =>
      rw [conditionInput]
      apply under_append
      · apply under_append
        · exact under_field (under_append (check_under none _) (check_under none _))
        · intro issue member
          rcases List.mem_flatten.mp member with ⟨step, inside, within⟩
          rcases List.mem_mapIdx.mp inside with ⟨i, _, rfl⟩
          exact (List.prefix_append path _).trans (conditionStep_under _ issue within)
      · exact under_field (nullish_under stellarPublicKey_under stepUnlockerPublicKey)

theorem passesAt_append :
    PassesAt target (issues ++ issues') ↔ PassesAt target issues ∧ PassesAt target issues' :=
  List.forall_mem_append

theorem passesAt_of_under (under : Under path issues) (apart : ¬path <+: target) :
    PassesAt target issues := by
  intro issue member same
  exact apart (same ▸ under issue member)

theorem passesAt_stellarAmount (value : Text) :
    PassesAt path (stellarAmount path value) ↔ stellarAmount path value = [] := by
  have own : ∀ message holds, PassesAt path (check path message holds) ↔
      check path message holds = [] := by
    intro message holds
    unfold check
    cases holds <;> simp [PassesAt]
  rw [stellarAmount, passesAt_append, own, own, List.append_eq_nil_iff]

end Paths

section Routes

variable (sdk : Sdk) (settings : Settings)

/-- Every field of the routes that holds an amount passes when the chain layer's check does. -/
structure RoutesAgree (amount : Text) : Prop where
  gift : ∀ body : CreateGiftBody, body.amount = amount →
    (PassesAt ["body", "amount"] (createGiftIssues sdk settings body) ↔
      assertValidAmount amount = .ok ())
  goal : ∀ body : CreateGiftBody, body.goalAmount = some amount →
    (PassesAt ["body", "goalAmount"] (createGiftIssues sdk settings body) ↔
      assertValidAmount amount = .ok ())
  contribute : ∀ body : ContributeBody, body.amount = amount →
    (PassesAt ["body", "amount"] (contributeIssues sdk body) ↔ assertValidAmount amount = .ok ())
  contributeSubmit : ∀ body : Contributions.ContributeSubmitBody, body.amount = amount →
    (PassesAt ["body", "amount"] (Contributions.contributeSubmitSchema sdk body) ↔
      assertValidAmount amount = .ok ())

variable {sdk settings}

theorem stellarAmount_passes {path : List String} (amount : Text) :
    PassesAt path (stellarAmount path amount) ↔ assertValidAmount amount = .ok () := by
  rw [passesAt_stellarAmount, stellarAmount_eq_nil, assertValidAmount_eq_ok]

theorem createGiftIssues_at (body : CreateGiftBody) {field : String}
    (named : field = "amount" ∨ field = "goalAmount") :
    PassesAt ["body", field] (createGiftIssues sdk settings body) ↔
      PassesAt ["body", field] (stellarAmount ["body", "amount"] body.amount) ∧
        PassesAt ["body", field] (nullish (stellarAmount ["body", "goalAmount"]) body.goalAmount) := by
  have away : ∀ {other : String} {issues : List Issue}, Under ["body", other] issues →
      other ≠ "amount" → other ≠ "goalAmount" → PassesAt ["body", field] issues := by
    intro other issues under first second
    apply passesAt_of_under under
    intro inside
    have same : other = field := by simpa using inside
    rcases named with amount | goal
    · exact first (same.trans amount)
    · exact second (same.trans goal)
  simp only [createGiftIssues, passesAt_append, and_assoc]
  constructor
  · intro passes
    rcases passes with ⟨_, _, _, _, amount, _, _, _, _, _, goal, _⟩
    exact ⟨amount, goal⟩
  · intro passes
    exact ⟨away (stellarPublicKey_under _) (by decide) (by decide),
      away (stellarPublicKey_under _) (by decide) (by decide),
      away (assetCode_under _) (by decide) (by decide),
      away (nullish_under stellarPublicKey_under _) (by decide) (by decide),
      passes.1,
      away (stringMin_under _ _) (by decide) (by decide),
      away (stringMax_under _ _) (by decide) (by decide),
      away (check_under _ _) (by decide) (by decide),
      away (check_under _ _) (by decide) (by decide),
      away (check_under _ _) (by decide) (by decide),
      passes.2,
      away (nullish_under conditionInput_under _) (by decide) (by decide),
      away (check_under _ _) (by decide) (by decide),
      away (check_under _ _) (by decide) (by decide),
      away (check_under _ _) (by decide) (by decide)⟩

theorem routes_agree (sdk : Sdk) (settings : Settings) (amount : Text) :
    RoutesAgree sdk settings amount := by
  have contributed : ∀ body : ContributeBody, body.amount = amount →
      (PassesAt ["body", "amount"] (contributeIssues sdk body) ↔
        assertValidAmount amount = .ok ()) := by
    intro body same
    have key : PassesAt ["body", "amount"]
        (stellarPublicKey sdk ["body", "contributorPublicKey"] body.contributorPublicKey) :=
      passesAt_of_under (stellarPublicKey_under _) (by decide)
    rw [contributeIssues, passesAt_append, and_iff_right key, stellarAmount_passes, same]
  constructor
  · intro body same
    have goal : PassesAt ["body", "amount"]
        (nullish (stellarAmount ["body", "goalAmount"]) body.goalAmount) :=
      passesAt_of_under (nullish_under stellarAmount_under _) (by decide)
    rw [createGiftIssues_at body (Or.inl rfl), and_iff_left goal, stellarAmount_passes, same]
  · intro body same
    have amount' : PassesAt ["body", "goalAmount"]
        (stellarAmount ["body", "amount"] body.amount) :=
      passesAt_of_under (stellarAmount_under _) (by decide)
    rw [createGiftIssues_at body (Or.inr rfl), and_iff_right amount', same, nullish,
      stellarAmount_passes]
  · exact contributed
  · intro body same
    have signed : PassesAt ["body", "amount"] (stringMin ["body", "signedXdr"] 1 body.signedXdr) :=
      passesAt_of_under (stringMin_under _ _) (by decide)
    rw [Contributions.contributeSubmitSchema, passesAt_append, and_iff_left signed]
    exact contributed body.toContributeBody same

end Routes

section Zeros

/-- Two or more zeros, and perhaps a point with one to seven zeros behind it. -/
def PaddedZero (amount : Text) : Prop :=
  ∃ n, 2 ≤ n ∧ (amount = List.replicate n '0' ∨
    ∃ k, 1 ≤ k ∧ k ≤ 7 ∧ amount = List.replicate n '0' ++ '.' :: List.replicate k '0')

def AcceptsPositive (amount : Text) : Prop :=
  assertValidAmount amount = .ok () ↔ ∃ x, Decimal.Spells 7 amount x ∧ 0 < x

theorem zeros_iff_replicate {text : Text} :
    (∀ c ∈ text, c = '0') ↔ text = List.replicate text.length '0' := by
  rw [List.eq_replicate_iff, and_iff_right rfl]

theorem zeros_of_replicate {n : Nat} : ∀ c ∈ List.replicate n '0', c = '0' := by
  intro c member
  exact List.eq_of_mem_replicate member

theorem replicate_nonempty {n : Nat} (positive : 1 ≤ n) : List.replicate n '0' ≠ [] := by
  rw [ne_eq, List.replicate_eq_nil_iff]
  omega

theorem isRun_replicate {n : Nat} (positive : 1 ≤ n) :
    Decimal.isRun (List.replicate n '0') = true :=
  Decimal.isRun_of_zeros (replicate_nonempty positive) zeros_of_replicate

theorem replicate_ne_single {n : Nat} (two : 2 ≤ n) : List.replicate n '0' ≠ ['0'] := by
  intro same
  have count := congrArg List.length same
  rw [List.length_replicate, List.length_singleton] at count
  omega

theorem zeros_length {text : Text} (nonempty : text ≠ []) (zeros : ∀ c ∈ text, c = '0')
    (notSingle : text ≠ ['0']) : 2 ≤ text.length := by
  have positive := List.length_pos_of_ne_nil nonempty
  by_contra short
  have one : text.length = 1 := by omega
  have same := zeros_iff_replicate.mp zeros
  rw [one] at same
  exact notSingle same

theorem paddedZero_passes {amount : Text} (padded : PaddedZero amount) :
    Decimal.isDecimal 7 amount = true ∧ Decimal.isPlainZero 7 amount = false ∧
      Decimal.value amount = 0 := by
  rcases padded with ⟨n, two, rfl | ⟨k, positive, most, rfl⟩⟩
  · have noPoint := Decimal.no_point_of_zeros (zeros_of_replicate (n := n))
    rw [Decimal.isDecimal_of_integer noPoint, Decimal.isPlainZero_of_integer noPoint,
      decide_eq_false_iff_not]
    exact ⟨isRun_replicate (by omega), replicate_ne_single two,
      Decimal.value_of_zeros zeros_of_replicate⟩
  · have noPoint := Decimal.no_point_of_zeros (zeros_of_replicate (n := n))
    have whole := isRun_replicate (show 1 ≤ n by omega)
    have fraction := isRun_replicate positive
    refine ⟨?_, ?_, ?_⟩
    · rw [Decimal.isDecimal_of_point noPoint, List.length_replicate]
      exact ⟨whole, fraction, most⟩
    · rw [Bool.eq_false_iff, ne_eq, Decimal.isPlainZero_of_point noPoint]
      intro plain
      exact replicate_ne_single two plain.1
    · rw [Decimal.value_of_point_eq_zero whole fraction]
      exact ⟨zeros_of_replicate, zeros_of_replicate⟩

theorem paddedZero_of_passes {amount : Text} (decimal : Decimal.isDecimal 7 amount = true)
    (notPlain : Decimal.isPlainZero 7 amount = false) (zero : Decimal.value amount = 0) :
    PaddedZero amount := by
  rcases Decimal.isDecimal_iff.mp decimal with run | ⟨whole, fraction, rfl, run, run', short⟩
  · have noPoint := Decimal.no_point_of_run run
    rw [Decimal.isPlainZero_of_integer noPoint, decide_eq_false_iff_not] at notPlain
    rw [Decimal.value_of_integer noPoint, Nat.cast_eq_zero, Decimal.natural_eq_zero
      (List.all_eq_true.mpr (Decimal.isRun_iff.mp run).2)] at zero
    exact ⟨amount.length, zeros_length (Decimal.isRun_iff.mp run).1 zero notPlain,
      Or.inl (zeros_iff_replicate.mp zero)⟩
  · have noPoint := Decimal.no_point_of_run run
    have nonempty := (Decimal.isRun_iff.mp run').1
    rw [Decimal.value_of_point_eq_zero run run'] at zero
    rw [Bool.eq_false_iff, ne_eq, Decimal.isPlainZero_of_point noPoint] at notPlain
    have notSingle : whole ≠ ['0'] := by
      intro single
      exact notPlain ⟨single, nonempty, short, zero.2⟩
    refine ⟨whole.length, zeros_length (Decimal.isRun_iff.mp run).1 zero.1 notSingle, Or.inr
      ⟨fraction.length, List.length_pos_of_ne_nil nonempty, short, ?_⟩⟩
    rw [← zeros_iff_replicate.mp zero.1, ← zeros_iff_replicate.mp zero.2]

theorem paddedZero_iff {amount : Text} : PaddedZero amount ↔
    Decimal.isDecimal 7 amount = true ∧ Decimal.isPlainZero 7 amount = false ∧
      Decimal.value amount = 0 := by
  constructor
  · exact paddedZero_passes
  · intro passes
    exact paddedZero_of_passes passes.1 passes.2.1 passes.2.2

theorem plainZero_value {amount : Text} (plain : Decimal.isPlainZero 7 amount = true) :
    Decimal.value amount = 0 := by
  rcases Decimal.isPlainZero_iff.mp plain with rfl | ⟨fraction, rfl, nonempty, _, zeros⟩
  · exact Decimal.value_of_zeros (zeros_of_replicate (n := 1))
  · rw [Decimal.value_of_point_eq_zero rfl (Decimal.isRun_of_zeros nonempty zeros)]
    exact ⟨zeros_of_replicate (n := 1), zeros⟩

theorem spells_positive_iff {amount : Text} : (∃ x, Decimal.Spells 7 amount x ∧ 0 < x) ↔
    Decimal.isDecimal 7 amount = true ∧ Decimal.value amount ≠ 0 := by
  constructor
  · intro spelled
    rcases spelled with ⟨x, spells, positive⟩
    rcases Decimal.spells_iff.mp spells with ⟨decimal, rfl⟩
    exact ⟨decimal, ne_of_gt positive⟩
  · intro passes
    have positive := lt_of_le_of_ne (Decimal.value_nonneg amount) (Ne.symm passes.2)
    exact ⟨_, Decimal.spells_iff.mpr ⟨passes.1, rfl⟩, positive⟩

theorem acceptsPositive_iff {amount : Text} : AcceptsPositive amount ↔ ¬PaddedZero amount := by
  rw [AcceptsPositive, assertValidAmount_eq_ok, spells_positive_iff, paddedZero_iff]
  have plain : Decimal.isPlainZero 7 amount = true → Decimal.value amount = 0 := plainZero_value
  cases hp : Decimal.isPlainZero 7 amount with
  | false => simp
  | true => simp [plain hp]

end Zeros

/-- The routes and the chain layer take the same texts, and these are the positive decimals of
at most seven places unless the text is a zero of two or more leading digits. -/
theorem amount_checks_iff (sdk : Sdk) (settings : Settings) (amount : Text) :
    RoutesAgree sdk settings amount ∧
      (AcceptsPositive amount ∧ RoutesAgree sdk settings amount ↔ ¬PaddedZero amount) := by
  have agree := routes_agree sdk settings amount
  rw [and_iff_left agree]
  exact ⟨agree, acceptsPositive_iff⟩

theorem double_zero_accepted : assertValidAmount "00".toList = .ok () ∧
    Decimal.value "00".toList = 0 ∧ ¬AcceptsPositive "00".toList := by
  have zero : Decimal.value "00".toList = 0 :=
    Decimal.value_of_zeros (zeros_of_replicate (n := 2))
  have accepted : assertValidAmount "00".toList = .ok () := by decide +kernel
  refine ⟨accepted, zero, ?_⟩
  intro accepts
  exact (spells_positive_iff.mp (accepts.mp accepted)).2 zero

end Giffy.Backend
