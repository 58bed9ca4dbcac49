import Giffy.Chain.SorobanClient
import Giffy.Foundation.Decimal
import Giffy.Foundation.TextSearch

/-! What the chain layer makes of a refusal of the escrow contract. -/

namespace Giffy.Chain

open TextSearch

/-- What the layer throws: a `ChainError` with its code and message, or an error of some other
class. -/
inductive ChainFailure
  | chain (code message : String)
  | other
deriving DecidableEq

section Contract

def CONTRACT_ERROR_CODES : Nat → Option String
  | 1 => some "GIFT_NOT_FOUND"
  | 2 => some "GIFT_NOT_OPEN"
  | 3 => some "GIFT_EXPIRED"
  | 4 => some "GIFT_NOT_YET_EXPIRED"
  | 5 => some "NOT_RECEIVER"
  | 6 => some "WRONG_ANSWER"
  | 7 => some "STEPS_NOT_COMPLETE"
  | 8 => some "NOT_AUTHORIZED_UNLOCKER"
  | 9 => some "ALL_STEPS_ALREADY_COMPLETE"
  | 10 => some "INVALID_CONTRIBUTION_AMOUNT"
  | 11 => some "INVALID_EXPIRY"
  | 12 => some "NOT_STEP_GATED"
  | 13 => some "NOT_SENDER_OR_CONTRIBUTOR"
  | _ => none

/-- `\s` -/
def isSpace (c : Char) : Bool :=
  c.toNat ∈ [0x9, 0xA, 0xB, 0xC, 0xD, 0x20, 0xA0, 0x1680, 0x2028, 0x2029, 0x202F, 0x205F, 0x3000,
    0xFEFF] || (0x2000 ≤ c.toNat && c.toNat ≤ 0x200A)

/-- `Error\(\s*Contract\s*,\s*#(\d+)\s*\)` at the front of a text, in either case: its digits. -/
def contractErrorHere (text : Text) : Option Text := do
  let text ← literal "Error(".toList text
  let text ← literal "Contract".toList (text.dropWhile isSpace)
  let text ← mark ',' (text.dropWhile isSpace)
  let text ← mark '#' (text.dropWhile isSpace)
  let _ ← mark ')' ((text.dropWhile Char.isDigit).dropWhile isSpace)
  if text.takeWhile Char.isDigit = [] then none else some (text.takeWhile Char.isDigit)

def firstInfinite : Nat := 2 ^ 1024 - 2 ^ 970

/-- A number too long to be read exactly is kept as it is spelled: no error has one. -/
def findCodeInString (text : Text) : Option Nat := do
  let digits ← search contractErrorHere text
  if Decimal.natural digits < firstInfinite then some (Decimal.natural digits) else none

inductive EventValue
  | contractError (code : Nat)
  /-- another value, or one that cannot be read -/
  | other

/-- The topics and data of a diagnostic event; `none` where they cannot be reached. -/
abbrev DiagnosticEvent := Option (List EventValue)

/-- What the layer finds in the value it was thrown or sent; the three lists are there when they
are arrays, the message when the value is an `Error`. -/
structure Rejection where
  error : Option Text
  diagnosticEventsXdr : Option (List DiagnosticEvent)
  diagnosticEvents : Option (List DiagnosticEvent)
  events : Option (List DiagnosticEvent)
  message : Option Text

def EventValue.code : EventValue → Option Nat
  | .contractError code => some code
  | .other => none

def codeFromDiagnosticEvent (event : DiagnosticEvent) : Option Nat :=
  event.bind fun values => values.findSome? EventValue.code

def extractDiagnosticEvents (err : Rejection) : List DiagnosticEvent :=
  (err.diagnosticEventsXdr <|> err.diagnosticEvents <|> err.events).getD []

def extractContractErrorCode (err : Rejection) : Option Nat :=
  err.error.bind findCodeInString <|>
    (extractDiagnosticEvents err).findSome? codeFromDiagnosticEvent <|>
    err.message.bind findCodeInString

def contractFailure (err : Rejection) : ChainFailure :=
  let code := extractContractErrorCode err
  .chain ((code.bind CONTRACT_ERROR_CODES).getD "UNKNOWN_CONTRACT_ERROR") (parseContractError code)

end Contract

section Reading

variable {text digits : Text}

def Spelled (text digits : Text) : Prop :=
  ∃ word before kind after around behind rest : Text,
    text = word ++ (before ++ (kind ++ (after ++ ',' :: (around ++ '#' :: (digits ++
      (behind ++ ')' :: rest)))))) ∧
    word.map Char.toLower = "error(".toList ∧ kind.map Char.toLower = "contract".toList ∧
    (∀ c ∈ before, isSpace c = true) ∧ (∀ c ∈ after, isSpace c = true) ∧
    (∀ c ∈ around, isSpace c = true) ∧ (∀ c ∈ behind, isSpace c = true) ∧
    Decimal.isRun digits = true

theorem toLower_of_space {c : Char} (space : isSpace c = true) : c.toLower = c := by
  unfold Char.toLower
  rw [dif_neg]
  rintro ⟨above, below⟩
  have low : 65 ≤ c.toNat := above
  have high : c.toNat ≤ 90 := below
  simp only [isSpace, List.mem_cons, List.not_mem_nil, or_false, Bool.or_eq_true, decide_eq_true_eq,
    Bool.and_eq_true] at space
  omega

theorem space_not_digit {c : Char} (space : isSpace c = true) : c.isDigit = false := by
  simp only [isSpace, List.mem_cons, List.not_mem_nil, or_false, Bool.or_eq_true, decide_eq_true_eq,
    Bool.and_eq_true] at space
  rw [Char.isDigit, Bool.and_eq_false_iff, decide_eq_false_iff_not, decide_eq_false_iff_not]
  by_contra digit
  rw [not_or, not_not, not_not] at digit
  have low : 48 ≤ c.toNat := digit.1
  have high : c.toNat ≤ 57 := digit.2
  omega

theorem mark_stops {p : Char → Bool} {c : Char} {rest : Text} (stop : p c = false) :
    ∀ d ∈ (c :: rest).head?, p d = false := by
  intro d first
  rw [List.head?_cons, Option.mem_some_iff] at first
  exact first ▸ stop

theorem skip_spaces {p : Char → Bool} {spaces rest : Text} (skipped : ∀ c ∈ spaces, p c = true)
    (stop : ∀ c ∈ rest.head?, p c = false) : (spaces ++ rest).dropWhile p = rest := by
  rw [List.dropWhile_append_of_pos skipped]
  cases rest with
  | nil => rfl
  | cons c rest =>
      have here := stop c rfl
      rw [List.dropWhile_cons_of_neg (by rw [here]; exact Bool.false_ne_true)]

theorem word_stops {word letters rest : Text} (spelled : word.map Char.toLower = letters)
    (nonempty : letters ≠ []) (letter : (letters.all fun c => !isSpace c) = true) :
    ∀ c ∈ (word ++ rest).head?, isSpace c = false := by
  cases word with
  | nil => exact absurd spelled.symm nonempty
  | cons c word =>
      apply mark_stops
      by_contra space
      rw [Bool.not_eq_false] at space
      have inside : c.toLower ∈ letters := by
        rw [← spelled]
        exact List.mem_cons_self
      have first := List.all_eq_true.mp letter c.toLower inside
      rw [toLower_of_space space, space] at first
      cases first

theorem split_while (p : Char → Bool) (text : Text) :
    ∃ front, (∀ c ∈ front, p c = true) ∧ text = front ++ text.dropWhile p :=
  ⟨text.takeWhile p, fun _ => List.mem_takeWhile_imp, List.takeWhile_append_dropWhile.symm⟩

theorem contractErrorHere_eq_some : contractErrorHere text = some digits ↔ Spelled text digits := by
  constructor
  · intro found
    simp only [contractErrorHere, Option.bind_eq_bind, Option.bind_eq_some_iff, literal_eq_some,
      mark_eq_some] at found
    obtain ⟨t1, ⟨word, rfl, spelled⟩, t2, ⟨kind, kind_eq, spelled'⟩, t3, comma, t4, hash, t5, paren,
      run⟩ := found
    rcases split_while isSpace t1 with ⟨before, spaces, t1_eq⟩
    rcases split_while isSpace t2 with ⟨after, spaces', t2_eq⟩
    rcases split_while isSpace t3 with ⟨around, spacesAround, t3_eq⟩
    rcases split_while isSpace (t4.dropWhile Char.isDigit) with ⟨behind, spacesBehind, t4_eq⟩
    split at run
    next => cases run
    next nonempty =>
      cases run
      refine ⟨word, before, kind, after, around, behind, t5, ?_, spelled, spelled', spaces, spaces',
        spacesAround, spacesBehind, Decimal.isRun_iff.mpr ⟨nonempty, fun _ => List.mem_takeWhile_imp⟩⟩
      have digits_eq := List.takeWhile_append_dropWhile (p := Char.isDigit) (l := t4)
      rw [t4_eq, paren] at digits_eq
      rw [digits_eq, ← hash, ← t3_eq, ← comma, ← t2_eq, ← kind_eq, ← t1_eq]
  · intro spelled
    obtain ⟨word, before, kind, after, around, behind, rest, rfl, error, contract, spaces, spaces',
      spacesAround, spacesBehind, run⟩ := spelled
    rcases Decimal.isRun_iff.mp run with ⟨nonempty, each⟩
    have stops : ∀ c ∈ (behind ++ ')' :: rest).head?, c.isDigit = false := by
      cases behind with
      | nil => exact mark_stops (by decide)
      | cons c behind => exact mark_stops (space_not_digit (spacesBehind c List.mem_cons_self))
    have past_digits := skip_spaces each stops
    have taken : (digits ++ (behind ++ ')' :: rest)).takeWhile Char.isDigit = digits := by
      have whole := List.takeWhile_append_dropWhile (p := Char.isDigit)
        (l := digits ++ (behind ++ ')' :: rest))
      rw [past_digits] at whole
      exact List.append_cancel_right whole
    simp only [contractErrorHere, Option.bind_eq_bind, Option.bind_eq_some_iff]
    refine ⟨_, literal_eq_some.mpr ⟨word, rfl, error⟩, _,
      literal_eq_some.mpr ⟨kind, skip_spaces spaces
        (word_stops contract (by decide) (by decide)), contract⟩, _,
      mark_eq_some.mpr (skip_spaces spaces' (mark_stops (by decide))), _,
      mark_eq_some.mpr (skip_spaces spacesAround (mark_stops (by decide))), rest, ?_, ?_⟩
    · rw [past_digits, skip_spaces spacesBehind (mark_stops (by decide)), mark_eq_some]
    · rw [taken, if_neg nonempty]

theorem findCodeInString_of_first {before rest : Text} (first : Unmatched contractErrorHere before rest)
    (spelled : Spelled rest digits) (finite : Decimal.natural digits < firstInfinite) :
    findCodeInString (before ++ rest) = some (Decimal.natural digits) := by
  have here := search_of_match (contractErrorHere_eq_some.mpr spelled)
  simp only [findCodeInString, Option.bind_eq_bind, search_append first, here, Option.bind_some,
    if_pos finite]

end Reading

end Giffy.Chain
