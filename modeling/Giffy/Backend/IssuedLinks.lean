import Giffy.Backend.ClaimLinks
import Giffy.Foundation.Base64
import Giffy.Foundation.EventLog

/-! The claim links of all gifts: which link opens which gift while drafts are made, submitted
and changed by any number of requests at once. -/

namespace Giffy.Backend.IssuedLinks

open EventLog

section Tokens

def generateClaimToken {size : Nat} (random : BytesN size) : Text := Base64.encode random.data

def lastSegment (url : Text) : Text := url.rtakeWhile (· ≠ '/')

structure Config where
  rt : Runtime
  links : Links
  claimTokenBytes : Nat
  enough : 16 ≤ claimTokenBytes

structure Link where
  gift : Nat
  token : Text
  claimUrl : Text

def newest (i : Nat) (past : List Link) : Option Link := past.reverse.find? fun link => link.gift = i

theorem newest_append (i : Nat) (past : List Link) (link : Link) :
    newest i (past ++ [link]) = if link.gift = i then some link else newest i past := by
  rw [newest, List.reverse_append, List.reverse_singleton, List.singleton_append, List.find?_cons]
  by_cases own : link.gift = i
  · rw [if_pos own, decide_eq_true own]
  · rw [if_neg own, decide_eq_false own]
    rfl

end Tokens

section Machine

variable (Address : Type) [LinearOrder Address]

inductive Write
  | pending (read : GiftDocument)
  | refundPending (now : Instant)
  | status (onChain : Escrow.GiftRecord Address)
  | txHash (leg : Leg) (txHash : Text)
  | contribution (row : Contribution)

/-- The documents, each named by its place, and what the submit requests in flight have read. -/
structure World where
  gifts : List GiftDocument
  submits : List (Option (Nat × GiftDocument))

inductive Act (size : Nat)
  | createDraft (now : Instant) (random : BytesN size) (input : CreateGiftInput)
  | submit (i : Nat)
  /-- `saves`: whether the database takes what is written besides the token's hash -/
  | saveSubmit (k : Nat) (random : BytesN size) (contractGiftId txHash : Text) (now : Instant)
      (saves : Bool)
  | drop (k : Nat)
  | write (i : Nat) (write : Write Address)

inductive Refused
  | service (error : ServiceError)
  | database
  | notRunning

variable {Address}

/-- A reconciliation needs an id to read, and no write takes the id away again. -/
def Write.apply (gift : GiftDocument) : Write Address → Option GiftDocument
  | .pending read =>
      if read.status = .draft ∨ read.status = .pendingChain then some (savedBuild read gift)
      else none
  | .refundPending now =>
      if gift.status = .active ∧ gift.expiresAt.getTime < now.getTime then
        some { gift with status := .refundPending }
      else none
  | .status onChain =>
      if truthy gift.contractGiftId then some (savedStatus gift onChain) else none
  | .txHash leg hash => some (savedTxHash gift leg hash)
  | .contribution row => some { gift with contributions := gift.contributions ++ [row] }

variable (c : Config) (w : World)

/-- The unique index on the hash. -/
def free (gifts : List GiftDocument) (claimTokenHash : Text) : Bool :=
  gifts.all fun gift => gift.claimTokenHash ≠ claimTokenHash

def createDraft (now : Instant) (random : BytesN c.claimTokenBytes) (input : CreateGiftInput) :
    Except Refused (World × Option Link) :=
  let claimTokenHash := hashClaimToken c.rt (generateClaimToken random)
  match Backend.createDraft c.rt now claimTokenHash input with
  | .error error => .error (.service error)
  | .ok gift =>
      if free w.gifts claimTokenHash then .ok ({ w with gifts := w.gifts ++ [gift] }, none)
      else .error .database

/-- `submitCreateTransaction` up to its first await after the read. -/
def submit (i : Nat) : Except Refused (World × Option Link) :=
  match w.gifts[i]? with
  | some gift =>
      if gift.status ≠ .pendingChain then
        .error (.service (.giftNotDraft (if gift.status = .draft then
          "This gift has no built transaction to submit yet."
          else "This gift is already " ++ statusText gift.status ++ ".")))
      else .ok ({ w with submits := w.submits ++ [some (i, gift)] }, none)
  | none => .error .notRunning

/-- The network has confirmed the transaction; the token is minted, its hash saved and the link
answered. -/
def saveSubmit (k : Nat) (random : BytesN c.claimTokenBytes) (contractGiftId txHash : Text)
    (now : Instant) (saves : Bool) : Except Refused (World × Option Link) :=
  match w.submits[k]? with
  | some (some (i, read)) =>
      match w.gifts[i]? with
      | some stored =>
          let rawToken := generateClaimToken random
          let claimTokenHash := hashClaimToken c.rt rawToken
          if saves ∧ free (w.gifts.eraseIdx i) claimTokenHash then
            .ok (⟨w.gifts.set i (savedSubmit read stored contractGiftId txHash claimTokenHash now),
                w.submits.set k none⟩, some ⟨i, rawToken, buildClaimUrl c.links rawToken⟩)
          else .ok ({ w with submits := w.submits.set k none }, none)
      | none => .error .notRunning
  | _ => .error .notRunning

def write (i : Nat) (write : Write Address) : Except Refused (World × Option Link) :=
  match w.gifts[i]? with
  | some gift =>
      match write.apply gift with
      | some changed => .ok ({ w with gifts := w.gifts.set i changed }, none)
      | none => .ok (w, none)
  | none => .error .notRunning

def exec : Act Address c.claimTokenBytes → Except Refused (World × Option Link)
  | .createDraft now random input => createDraft c w now random input
  | .submit i => submit w i
  | .saveSubmit k random contractGiftId txHash now saves =>
      saveSubmit c w k random contractGiftId txHash now saves
  | .drop k => .ok ({ w with submits := w.submits.set k none }, none)
  | .write i change => write w i change

abbrev machine (Address : Type) [LinearOrder Address] (c : Config) :
    Runs.Machine World (Act Address c.claimTokenBytes) Refused (Option Link) := ⟨exec c⟩

def World.empty : World := ⟨[], []⟩

abbrev issued (c : Config) (acts : List (Act Address c.claimTokenBytes)) : List Link :=
  log (fun _ => Option.toList) ((machine Address c).trace World.empty acts)

end Machine

section Shapes

def isPathLetter (c : Char) : Bool := isAlphanumeric c || c = '_' || c = '-'

theorem letters_plain (bytes : List UInt8) : ∀ c ∈ Base64.encode bytes, isPathLetter c = true :=
  Base64.encode_chars (P := fun c => isPathLetter c = true) (by decide +kernel) bytes

theorem letters_narrow (bytes : List UInt8) : ∀ c ∈ Base64.encode bytes, c.toNat < 0x10000 :=
  Base64.encode_chars (P := fun c => c.toNat < 0x10000) (by decide +kernel) bytes

theorem utf16Length_narrow {text : Text} (narrow : ∀ c ∈ text, c.toNat < 0x10000) :
    utf16Length text = text.length := by
  induction text with
  | nil => rfl
  | cons c text ih =>
      have rest := ih fun other member => narrow other (List.mem_cons_of_mem _ member)
      rw [utf16Length] at rest ⊢
      rw [List.map_cons, List.sum_cons, rest, if_pos (narrow c List.mem_cons_self),
        List.length_cons, Nat.add_comm]

theorem minted_wellFormed {size : Nat} (positive : 0 < size) (random : BytesN size) :
    isWellFormedClaimToken (generateClaimToken random) = decide (size ≤ 96) := by
  have length : (generateClaimToken random).length = Base64.letters size := by
    rw [generateClaimToken, Base64.length_encode, random.width]
  have counted : utf16Length (generateClaimToken random) = Base64.letters size :=
    (utf16Length_narrow (letters_narrow random.data)).trans length
  have nonempty : generateClaimToken random ≠ [] := by
    intro empty
    rw [empty, List.length_nil, Base64.letters] at length
    omega
  have shape : isTokenText (generateClaimToken random) = true := by
    rw [isTokenText, Bool.and_eq_true, decide_eq_true_eq, List.all_eq_true]
    exact ⟨nonempty, letters_plain random.data⟩
  rw [isWellFormedClaimToken, counted, shape, Bool.and_true, ← Bool.decide_and, Base64.letters]
  apply decide_eq_decide.mpr
  omega

theorem lastSegment_link {size : Nat} (links : Links) (random : BytesN size) :
    lastSegment (buildClaimUrl links (generateClaimToken random)) = generateClaimToken random := by
  have plain : ∀ c ∈ (generateClaimToken random).reverse, decide (c ≠ '/') = true := by
    intro c member
    rw [decide_eq_true_eq]
    rintro rfl
    have letter := letters_plain random.data _ (List.mem_reverse.mp member)
    cases letter
  rw [lastSegment, buildClaimUrl, List.rtakeWhile, List.reverse_append, List.reverse_cons,
    List.append_assoc, List.takeWhile_append_of_pos plain, List.singleton_append,
    List.takeWhile_cons_of_neg (by simp), List.append_nil, List.reverse_reverse]

end Shapes

section Steps

def Answered (gift : GiftDocument) : Prop :=
  Submitted gift.status ∨ truthy gift.contractGiftId = true

/-- The stored hashes are those of the newest links, and distinct. -/
structure Kept (c : Config) (past : List Link) (w : World) : Prop where
  distinct : (w.gifts.map GiftDocument.claimTokenHash).Nodup
  stored : ∀ i link, newest i past = some link →
    ∃ gift, w.gifts[i]? = some gift ∧ gift.claimTokenHash = hashClaimToken c.rt link.token
  answered : ∀ i gift, w.gifts[i]? = some gift → Answered gift →
    ∃ link, newest i past = some link

def Minted (c : Config) (link : Link) : Prop :=
  ∃ random : BytesN c.claimTokenBytes, link.token = generateClaimToken random ∧
    link.claimUrl = buildClaimUrl c.links link.token

variable {Address : Type} [LinearOrder Address] {c : Config} {w after : World}
  {past : List Link} {answer : Option Link}

theorem apply_keeps {gift changed : GiftDocument} {change : Write Address}
    (applied : change.apply gift = some changed) :
    changed.claimTokenHash = gift.claimTokenHash ∧ (Answered changed → Answered gift) := by
  cases change with
  | pending read =>
      rw [Write.apply] at applied
      split at applied
      · cases applied
        unfold savedBuild
        split
        · exact ⟨rfl, id⟩
        · refine ⟨rfl, ?_⟩
          rintro (⟨_, pending⟩ | named)
          · exact absurd rfl pending
          · exact Or.inr named
      · cases applied
  | refundPending now =>
      rw [Write.apply] at applied
      split at applied
      next due =>
        cases applied
        refine ⟨rfl, fun _ => Or.inl ?_⟩
        rw [due.1]
        exact ⟨by simp, by simp⟩
      next => cases applied
  | status onChain =>
      rw [Write.apply] at applied
      split at applied
      next named =>
        cases applied
        exact ⟨rfl, fun _ => Or.inr named⟩
      next => cases applied
  | txHash leg hash =>
      cases applied
      cases leg <;> exact ⟨rfl, id⟩
  | contribution row =>
      cases applied
      exact ⟨rfl, id⟩

theorem free_eq_true {gifts : List GiftDocument} {claimTokenHash : Text} :
    free gifts claimTokenHash = true ↔
      ∀ gift ∈ gifts, gift.claimTokenHash ≠ claimTokenHash := by
  rw [free, List.all_eq_true]
  simp only [decide_eq_true_eq]

inductive Step (c : Config) (w : World) : World → Option Link → Prop
  | drafted {gift : GiftDocument} (unanswered : ¬Answered gift)
      (unused : ∀ other ∈ w.gifts, other.claimTokenHash ≠ gift.claimTokenHash) :
      Step c w { w with gifts := w.gifts ++ [gift] } none
  | answered {i : Nat} {stored saved : GiftDocument} {submits : List (Option (Nat × GiftDocument))}
      {random : BytesN c.claimTokenBytes} (found : w.gifts[i]? = some stored)
      (hashed : saved.claimTokenHash = hashClaimToken c.rt (generateClaimToken random))
      (unused : ∀ other ∈ w.gifts.eraseIdx i, other.claimTokenHash ≠ saved.claimTokenHash) :
      Step c w ⟨w.gifts.set i saved, submits⟩
        (some ⟨i, generateClaimToken random, buildClaimUrl c.links (generateClaimToken random)⟩)
  | wrote {i : Nat} {gift changed : GiftDocument} (found : w.gifts[i]? = some gift)
      (same : changed.claimTokenHash = gift.claimTokenHash)
      (kept : Answered changed → Answered gift) :
      Step c w { w with gifts := w.gifts.set i changed } none
  | elsewhere {submits : List (Option (Nat × GiftDocument))} :
      Step c w { w with submits := submits } none

theorem createDraft_step {now : Instant} {random : BytesN c.claimTokenBytes}
    {input : CreateGiftInput} (ran : createDraft c w now random input = .ok (after, answer)) :
    Step c w after answer := by
  rw [createDraft] at ran
  split at ran
  · cases ran
  next gift drafted =>
    rcases createDraft_eq_ok drafted with ⟨_, _, _, _, made⟩
    split at ran
    next unused =>
      cases ran
      apply Step.drafted
      · rw [made]
        rintro (⟨early, _⟩ | named)
        · exact early rfl
        · cases named
      · rw [made]
        exact free_eq_true.mp unused
    next => cases ran

theorem submit_step {i : Nat} (ran : submit w i = .ok (after, answer)) : Step c w after answer := by
  rw [submit] at ran
  split at ran
  · split at ran
    · cases ran
    · cases ran
      exact .elsewhere
  · cases ran

theorem saveSubmit_step {k : Nat} {random : BytesN c.claimTokenBytes}
    {contractGiftId txHash : Text} {now : Instant} {saves : Bool}
    (ran : saveSubmit c w k random contractGiftId txHash now saves = .ok (after, answer)) :
    Step c w after answer := by
  rw [saveSubmit] at ran
  split at ran
  next i read _ =>
    split at ran
    next stored found =>
      dsimp only at ran
      split at ran
      next accepted =>
        cases ran
        exact .answered found rfl (free_eq_true.mp accepted.2)
      next =>
        cases ran
        exact .elsewhere
    next => cases ran
  next => cases ran

theorem write_step {i : Nat} {change : Write Address}
    (ran : write w i change = .ok (after, answer)) : Step c w after answer := by
  rw [write] at ran
  split at ran
  next gift found =>
    split at ran
    next changed applied =>
      cases ran
      rcases apply_keeps applied with ⟨same, kept⟩
      exact .wrote found same kept
    next =>
      cases ran
      exact .elsewhere
  next => cases ran

theorem exec_step {act : Act Address c.claimTokenBytes} (ran : exec c w act = .ok (after, answer)) :
    Step c w after answer := by
  cases act with
  | createDraft => exact createDraft_step ran
  | submit => exact submit_step ran
  | saveSubmit => exact saveSubmit_step ran
  | drop =>
      cases ran
      exact .elsewhere
  | write => exact write_step ran

theorem next_cases (c : Config) (w : World) (act : Act Address c.claimTokenBytes) :
    (∃ answer, (machine Address c).outcome w act = .ok answer ∧
      Step c w ((machine Address c).next w act) answer) ∨
    (∃ refused, (machine Address c).outcome w act = .error refused) ∧
      (machine Address c).next w act = w :=
  Runs.Machine.next_cases (m := machine Address c) exec_step w act

theorem Kept.drafted (kept : Kept c past w) {gift : GiftDocument} (unanswered : ¬Answered gift)
    (unused : ∀ other ∈ w.gifts, other.claimTokenHash ≠ gift.claimTokenHash) :
    Kept c past { w with gifts := w.gifts ++ [gift] } where
  distinct := Updates.nodup_keys_append kept.distinct unused
  stored i link last := by
    rcases kept.stored i link last with ⟨old, found, hashed⟩
    have inside : i < w.gifts.length := (List.getElem?_eq_some_iff.mp found).1
    exact ⟨old, (List.getElem?_append_left inside).trans found, hashed⟩
  answered i other found had := by
    by_cases inside : i < w.gifts.length
    · rw [List.getElem?_append_left inside] at found
      exact kept.answered i other found had
    · rw [List.getElem?_append_right (Nat.le_of_not_lt inside)] at found
      have new := List.mem_of_getElem? found
      cases List.mem_singleton.mp new
      exact absurd had unanswered

theorem Kept.issue (kept : Kept c past w) {i : Nat} {stored saved : GiftDocument}
    {submits : List (Option (Nat × GiftDocument))} {link : Link} (own : link.gift = i)
    (found : w.gifts[i]? = some stored)
    (hashed : saved.claimTokenHash = hashClaimToken c.rt link.token)
    (unused : ∀ other ∈ w.gifts.eraseIdx i, other.claimTokenHash ≠ saved.claimTokenHash) :
    Kept c (past ++ [link]) ⟨w.gifts.set i saved, submits⟩ where
  distinct := Updates.nodup_keys_set kept.distinct unused
  stored j last given := by
    rw [newest_append, own] at given
    by_cases same : i = j
    · rw [if_pos same, Option.some.injEq] at given
      subst same given
      have inside : i < w.gifts.length := (List.getElem?_eq_some_iff.mp found).1
      exact ⟨saved, List.getElem?_set_self inside, hashed⟩
    · rw [if_neg same] at given
      rcases kept.stored j last given with ⟨old, present, hashed⟩
      exact ⟨old, (List.getElem?_set_ne same).trans present, hashed⟩
  answered j other present had := by
    rw [newest_append, own]
    by_cases same : i = j
    · rw [if_pos same]
      exact ⟨link, rfl⟩
    · rw [if_neg same]
      exact kept.answered j other ((List.getElem?_set_ne same).symm.trans present) had

theorem Kept.wrote (kept : Kept c past w) {i : Nat} {gift changed : GiftDocument}
    (found : w.gifts[i]? = some gift) (same : changed.claimTokenHash = gift.claimTokenHash)
    (earlier : Answered changed → Answered gift) :
    Kept c past { w with gifts := w.gifts.set i changed } := by
  have inside : i < w.gifts.length := (List.getElem?_eq_some_iff.mp found).1
  constructor
  · rw [Updates.map_set_same found same]
    exact kept.distinct
  · intro j link last
    rcases kept.stored j link last with ⟨old, present, hashed⟩
    by_cases own : i = j
    · subst own
      cases found.symm.trans present
      exact ⟨changed, List.getElem?_set_self inside, same.trans hashed⟩
    · exact ⟨old, (List.getElem?_set_ne own).trans present, hashed⟩
  · intro j other present had
    by_cases own : i = j
    · subst own
      cases (List.getElem?_set_self inside).symm.trans present
      exact kept.answered i gift found (earlier had)
    · exact kept.answered j other ((List.getElem?_set_ne own).symm.trans present) had

theorem step_kept (kept : Kept c past w) (step : Step c w after answer) :
    Kept c (past ++ answer.toList) after ∧ ∀ link ∈ answer.toList, Minted c link := by
  cases step with
  | drafted unanswered unused =>
      refine ⟨?_, by simp⟩
      rw [Option.toList_none, List.append_nil]
      exact kept.drafted unanswered unused
  | @answered _ _ _ _ random found hashed unused =>
      refine ⟨kept.issue rfl found hashed unused, ?_⟩
      intro link member
      cases List.mem_singleton.mp member
      exact ⟨random, rfl, rfl⟩
  | wrote found same earlier =>
      refine ⟨?_, by simp⟩
      rw [Option.toList_none, List.append_nil]
      exact kept.wrote found same earlier
  | elsewhere =>
      refine ⟨?_, by simp⟩
      rw [Option.toList_none, List.append_nil]
      exact ⟨kept.distinct, kept.stored, kept.answered⟩

theorem next_kept (kept : Kept c past w) (act : Act Address c.claimTokenBytes) :
    let out := published (fun _ => Option.toList) ((machine Address c).record w act)
    Kept c (past ++ out) ((machine Address c).next w act) ∧ Justified (fun _ => Minted c) out := by
  intro out
  rcases next_cases c w act with ⟨answer, ran, step⟩ | ⟨⟨refused, failed⟩, same⟩
  · have given : out = answer.toList := by
      simp only [out, Runs.Machine.record, ran]
      rfl
    rcases step_kept kept step with ⟨after, minted⟩
    rw [given]
    refine ⟨after, ?_⟩
    intro front link back split
    apply minted link
    rw [split]
    simp
  · have silent : out = [] := by
      simp only [out, Runs.Machine.record, failed]
      rfl
    rw [silent, same, List.append_nil]
    exact ⟨kept, justified_nil⟩

end Steps

section Opening

variable {Address : Type} [LinearOrder Address] {c : Config} {w : World} {past : List Link}

def answerTo (c : Config) (gift : GiftDocument) : Response :=
  if 96 < c.claimTokenBytes then
    validationError [⟨["params", "token"], some "Invalid claim token."⟩]
  else if Submitted gift.status then ⟨200, .preview (toPreview gift)⟩
  else toResponse (.api giftNotFoundError)

theorem findGiftByToken_stored (kept : Kept c past w) {i : Nat} {gift : GiftDocument}
    {token : Text} (found : w.gifts[i]? = some gift)
    (hashed : gift.claimTokenHash = hashClaimToken c.rt token)
    (wellFormed : isWellFormedClaimToken token = true) :
    findGiftByToken c.rt w.gifts token = .ok gift := by
  have lookup := Updates.find_of_key kept.distinct found
  rw [hashed] at lookup
  rw [findGiftByToken, if_pos wellFormed, lookup]

theorem resolveClaimToken_found {rt : Runtime} {gifts : List GiftDocument} {token : Text}
    {gift : GiftDocument} (found : findGiftByToken rt gifts token = .ok gift) :
    resolveClaimToken rt gifts token =
      if Submitted gift.status then .ok (toPreview gift) else .error giftNotFoundError := by
  rw [resolveClaimToken, found]
  by_cases submitted : Submitted gift.status
  · have early : ¬(gift.status = .draft ∨ gift.status = .pendingChain) := not_or.mpr submitted
    simp only [bind, Except.bind, refuseIf, if_neg early, if_pos submitted]
    rfl
  · have early : gift.status = .draft ∨ gift.status = .pendingChain := by
      rw [← not_not (a := _ ∨ _), not_or]
      exact submitted
    simp only [bind, Except.bind, refuseIf, if_pos early, if_neg submitted]

theorem claimRoute_wellFormed {rt : Runtime} {gifts : List GiftDocument} {token : Text}
    (wellFormed : isWellFormedClaimToken token = true) :
    claimRoute rt gifts false token = preview rt gifts token := by
  simp [claimRoute, claimTokenSchema, check, wellFormed, validateRequest]

theorem newest_answer (kept : Kept c past w) {i : Nat} {link : Link}
    (last : newest i past = some link) (minted : Minted c link) :
    ∃ gift, w.gifts[i]? = some gift ∧
      claimRoute c.rt w.gifts false link.token = answerTo c gift := by
  rcases kept.stored i link last with ⟨gift, found, hashed⟩
  rcases minted with ⟨random, token, _⟩
  refine ⟨gift, found, ?_⟩
  have shape : isWellFormedClaimToken link.token = decide (c.claimTokenBytes ≤ 96) := by
    rw [token]
    exact minted_wellFormed (Nat.lt_of_lt_of_le (by decide) c.enough) random
  rw [answerTo]
  by_cases long : 96 < c.claimTokenBytes
  · rw [if_pos long]
    apply claimRoute_malformed
    rw [shape, decide_eq_false (Nat.not_le_of_lt long)]
  · have wellFormed : isWellFormedClaimToken link.token = true := by
      rw [shape, decide_eq_true (Nat.le_of_not_lt long)]
    have opened := findGiftByToken_stored kept found hashed wellFormed
    rw [if_neg long, claimRoute_wellFormed wellFormed, preview, resolveClaimToken_found opened]
    by_cases submitted : Submitted gift.status
    · rw [if_pos submitted, if_pos submitted]
    · rw [if_neg submitted, if_neg submitted]

theorem opened_newest (kept : Kept c past w) {token : Text} {shown : GiftPreviewDTO}
    (opened : claimRoute c.rt w.gifts false token = ⟨200, .preview shown⟩) :
    ∃ i link gift, newest i past = some link ∧ w.gifts[i]? = some gift ∧
      hashClaimToken c.rt token = hashClaimToken c.rt link.token ∧ shown = toPreview gift := by
  cases wellFormed : isWellFormedClaimToken token with
  | false =>
      rw [claimRoute_malformed wellFormed] at opened
      cases opened
  | true =>
      rw [claimRoute_wellFormed wellFormed, preview] at opened
      cases looked : findGiftByToken c.rt w.gifts token with
      | error error =>
          rw [resolveClaimToken, looked] at opened
          have body := congrArg Response.body opened
          cases body
      | ok gift =>
          rw [resolveClaimToken_found looked] at opened
          by_cases submitted : Submitted gift.status
          · rw [if_pos submitted] at opened
            rw [findGiftByToken, if_pos wellFormed] at looked
            split at looked
            next _ found =>
              cases looked
              rcases List.mem_iff_getElem?.mp (List.mem_of_find?_eq_some found) with ⟨i, placed⟩
              rcases kept.answered i gift placed (Or.inl submitted) with ⟨link, last⟩
              rcases kept.stored i link last with ⟨stored, present, hashed⟩
              cases placed.symm.trans present
              have own : gift.claimTokenHash = hashClaimToken c.rt token := by
                simpa using List.find?_some found
              cases opened
              exact ⟨i, link, gift, last, placed, own.symm.trans hashed, rfl⟩
            next => cases looked
          · rw [if_neg submitted] at opened
            cases opened

end Opening

/-- In every run of requests and cron jobs over any gifts: a link is the base URL, a slash and a
token that survives the path; the link a gift's sender was given last opens that gift, as long as
its document counts as submitted and tokens of that length are read at all; and nothing else opens
a gift than a token with the same hash. -/
theorem newest_link_opens {Address : Type} [LinearOrder Address] (c : Config)
    (acts : List (Act Address c.claimTokenBytes)) :
    let w := (machine Address c).final World.empty acts
    (∀ link ∈ issued c acts, lastSegment link.claimUrl = link.token ∧
      (∀ letter ∈ link.token, isPathLetter letter = true)) ∧
    (∀ i link, newest i (issued c acts) = some link →
      ∃ gift, w.gifts[i]? = some gift ∧
        claimRoute c.rt w.gifts false link.token = answerTo c gift) ∧
    ∀ token shown, claimRoute c.rt w.gifts false token = ⟨200, .preview shown⟩ →
      ∃ i link gift, newest i (issued c acts) = some link ∧ w.gifts[i]? = some gift ∧
        hashClaimToken c.rt token = hashClaimToken c.rt link.token ∧ shown = toPreview gift := by
  intro w
  have start : Kept c [] World.empty := by
    constructor
    · exact List.nodup_nil
    · intro i link last
      cases last
    · intro i gift found
      cases found
  rcases run_justified (m := machine Address c) (fun _ => Option.toList)
    (fun _ => Minted c) (Kept c)
    (fun _ _ => True) start (fun _ _ act kept _ => next_kept kept act) acts
    (fun _ _ => trivial) with ⟨kept, justified⟩
  have minted : ∀ link ∈ issued c acts, Minted c link := by
    intro link member
    rcases List.append_of_mem member with ⟨front, back, split⟩
    exact justified front link back split
  refine ⟨?_, ?_, fun token shown => opened_newest kept⟩
  · intro link member
    rcases minted link member with ⟨random, token, url⟩
    rw [url, token]
    exact ⟨lastSegment_link c.links random, letters_plain random.data⟩
  · intro i link last
    apply newest_answer kept last
    apply minted
    exact List.mem_reverse.mp (List.mem_of_find?_eq_some last)

end Giffy.Backend.IssuedLinks
