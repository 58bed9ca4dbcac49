import Giffy.Backend.ContributeService
import Giffy.Backend.OneGift
import Giffy.Foundation.Updates

/-! The contribution rows of a gift's document, against what the transactions did on the
chain. -/

namespace Giffy.Backend.Contributions

open Chain

variable {Address : Type} [LinearOrder Address] (p : Platform Address)

section Effects

def Desk.Included (w : Desk Address) (txHash : Text) : Prop :=
  ∃ calls entries, w.txs txHash = some ⟨calls, .landed entries⟩

inductive Step (w : Desk Address) : Act Address → Desk Address → Prop
  | signed {txHash : Text} {calls : List (Escrow.Call Address)} (fresh : w.txs txHash = none) :
      Step w (.sign txHash calls) (w.know txHash ⟨calls, .signed⟩)
  | submitted {body : ContributeSubmitBody} {txHash : Text}
      (valid : contributeSubmitSchema p.sdk body = []) :
      Step w (.submit body txHash)
        { w with requests := w.requests ++ [⟨body.toContributeBody, txHash, .sending⟩] }
  | sent {k : Nat} {answer : Option SendStatus} {reaches : Bool} {request : Request Address}
      {tx gone : SignedTx Address} {next : Stage Address}
      (running : w.requests[k]? = some request) (live : request.stage.live = true)
      (unseen : next.seen = false) (known : w.txs request.txHash = some tx)
      (same : gone = tx ∨ gone = tx.handedOver) :
      Step w (.send k answer reaches) ((w.put k request next).know request.txHash gone)
  | moved {act : Act Address} {k : Nat} {request : Request Address} {next : Stage Address}
      (running : w.requests[k]? = some request) (live : request.stage.live = true)
      (knows : next.seen = true → request.stage.seen = true ∨ w.Included request.txHash) :
      Step w act (w.put k request next)
  | stood {act : Act Address} : Step w act w
  | savedStatus {k : Nat} {request : Request Address} {onChain : Escrow.GiftRecord Address}
      (running : w.requests[k]? = some request) (seen : request.stage.seen = true) :
      Step w (.saveStatus k)
        { w.put k request .pushing with gift := savedStatus w.gift onChain }
  | pushed {k : Nat} {request : Request Address} {contributedAt : Instant}
      (running : w.requests[k]? = some request) (seen : request.stage.seen = true) :
      Step w (.push k contributedAt)
        { w.put k request .done with
          gift := { w.gift with
            contributions := w.gift.contributions ++
              [rowOf request.body request.txHash contributedAt] } }
  | handedOver {txHash : Text} {tx : SignedTx Address} (known : w.txs txHash = some tx) :
      Step w (.handOver txHash) (w.know txHash tx.handedOver)
  | settled {txHash : Text} {env : Env Address} {calls : List (Escrow.Call Address)}
      (known : w.txs txHash = some ⟨calls, .sent⟩)
      (succeeded : ((Escrow.machine p.escrow).trace w.escrow
        (calls.map (Action.invoke env))).all Succeeded = true) :
      Step w (.settle txHash env)
        { w.know txHash ⟨calls, .landed ((Escrow.machine p.escrow).trace w.escrow
            (calls.map (Action.invoke env)))⟩ with
          escrow := (Escrow.machine p.escrow).final w.escrow (calls.map (Action.invoke env)) }
  | failed {txHash : Text} {env : Env Address} {calls : List (Escrow.Call Address)}
      (known : w.txs txHash = some ⟨calls, .sent⟩) :
      Step w (.settle txHash env) (w.know txHash ⟨calls, .failed⟩)
  | chained {action : Action Address (Escrow.Call Address)} :
      Step w (.chain action)
        { w with escrow := (Escrow.machine p.escrow).next w.escrow action }
  | saved {written : GiftDocument} :
      Step w (.save written)
        { w with gift := { written with
          contractGiftId := w.gift.contractGiftId
          contributions := w.gift.contributions } }

variable {p} {w after : Desk Address} {act : Act Address}

theorem sign_step {txHash : Text} {calls : List (Escrow.Call Address)}
    (ran : sign w txHash calls = .ok (after, ())) : Step p w (.sign txHash calls) after := by
  unfold sign at ran
  split at ran
  next fresh =>
    cases ran
    exact .signed fresh
  next => cases ran

theorem submit_step {body : ContributeSubmitBody} {txHash : Text}
    (ran : submit p w body txHash = .ok (after, ())) : Step p w (.submit body txHash) after := by
  unfold submit at ran
  split at ran
  next valid _ =>
    cases ran
    exact .submitted valid
  next => cases ran
  next => cases ran

theorem send_step {k : Nat} {answer : Option SendStatus} {reaches : Bool}
    (ran : send w k answer reaches = .ok (after, ())) : Step p w (.send k answer reaches) after := by
  unfold send at ran
  split at ran
  next body txHash running =>
    split at ran
    next tx known =>
      split at ran
      next =>
        cases ran
        apply Step.sent running rfl _ known
        · split
          · exact Or.inr rfl
          · exact Or.inl rfl
        · split <;> rfl
      next => cases ran
    next => cases ran
  next => cases ran

theorem poll_step {k : Nat} (ran : poll w k = .ok (after, ())) : Step p w (.poll k) after := by
  unfold poll at ran
  split at ran
  next body txHash running =>
    split at ran
    next entries landed =>
      cases ran
      rcases Option.map_eq_some_iff.mp landed with ⟨tx, known, fate⟩
      refine .moved running rfl fun _ => Or.inr ⟨tx.calls, entries, ?_⟩
      rw [known, ← fate]
    next =>
      cases ran
      exact .moved running rfl fun seen => absurd seen Bool.false_ne_true
    next =>
      cases ran
      exact .stood
  next => cases ran

theorem reconcile_step {k : Nat} (ran : reconcile w k = .ok (after, ())) :
    Step p w (.reconcile k) after := by
  unfold reconcile at ran
  split at ran
  next body txHash running =>
    have goes : ∀ next, after = w.put k ⟨body, txHash, .reconciling⟩ next →
        Step p w (.reconcile k) after := by
      intro next same
      subst same
      exact .moved running rfl fun _ => Or.inl rfl
    split at ran
    next =>
      split at ran
      · cases ran
        exact goes _ rfl
      · cases ran
        exact goes _ rfl
    next =>
      cases ran
      exact goes _ rfl
  next => cases ran

theorem readChain_step {k : Nat} (ran : readChain w k = .ok (after, ())) :
    Step p w (.readChain k) after := by
  unfold readChain at ran
  split at ran
  next body txHash id running =>
    split at ran
    · cases ran
      exact .moved running rfl fun _ => Or.inl rfl
    · cases ran
      exact .moved running rfl fun _ => Or.inl rfl
  next => cases ran

theorem saveStatus_step {k : Nat} (ran : saveStatus w k = .ok (after, ())) :
    Step p w (.saveStatus k) after := by
  unfold saveStatus at ran
  split at ran
  next body txHash onChain running =>
    cases ran
    exact .savedStatus running rfl
  next => cases ran

theorem push_step {k : Nat} {contributedAt : Instant}
    (ran : push w k contributedAt = .ok (after, ())) : Step p w (.push k contributedAt) after := by
  unfold push at ran
  split at ran
  next body txHash running =>
    cases ran
    exact .pushed running rfl
  next => cases ran

theorem drop_step {k : Nat} (ran : drop w k = .ok (after, ())) : Step p w (.drop k) after := by
  unfold drop at ran
  split at ran
  next request running =>
    split at ran
    next live =>
      cases ran
      exact .moved running live fun seen => absurd seen Bool.false_ne_true
    next => cases ran
  next => cases ran

theorem handOver_step {txHash : Text} (ran : handOver w txHash = .ok (after, ())) :
    Step p w (.handOver txHash) after := by
  unfold handOver at ran
  split at ran
  next tx known =>
    cases ran
    exact .handedOver known
  next => cases ran

theorem settle_step {txHash : Text} {env : Env Address}
    (ran : settle p w txHash env = .ok (after, ())) : Step p w (.settle txHash env) after := by
  unfold settle at ran
  split at ran
  next calls known =>
    simp only at ran
    split at ran
    next succeeded =>
      cases ran
      exact .settled known succeeded
    next =>
      cases ran
      exact .failed known
  next => cases ran

theorem exec_step {result : Unit} (ran : exec p w act = .ok (after, result)) :
    Step p w act after := by
  cases act with
  | sign => exact sign_step ran
  | submit => exact submit_step ran
  | send => exact send_step ran
  | poll => exact poll_step ran
  | reconcile => exact reconcile_step ran
  | readChain => exact readChain_step ran
  | saveStatus => exact saveStatus_step ran
  | push => exact push_step ran
  | drop => exact drop_step ran
  | handOver => exact handOver_step ran
  | settle => exact settle_step ran
  | chain =>
      cases ran
      exact .chained
  | save =>
      cases ran
      exact .saved

theorem next_cases (w : Desk Address) (act : Act Address) :
    Step p w act ((machine p).next w act) ∨ (machine p).next w act = w := by
  cases ran : exec p w act with
  | ok pair =>
      left
      rw [Runs.Machine.next_of_ok (m := machine p) ran]
      exact exec_step ran
  | error refused => exact Or.inr (Runs.Machine.next_of_error ran)

end Effects

section Rows

def contributeCall (p : Platform Address) (id : Nat) (body : ContributeBody) :
    Option (Escrow.Call Address) := do
  let contributor ← p.address body.contributorPublicKey
  let amount ← p.sdk.i128 body.amount
  return .contribute contributor id amount

def Desk.Makes (w : Desk Address) (body : ContributeBody) (txHash : Text) : Prop :=
  ∃ id call tx, bigInt w.gift.contractGiftId = .ok id ∧ contributeCall p id body = some call ∧
    w.txs txHash = some tx ∧ call ∈ tx.calls

/-- The row's values are those of a call for this gift that succeeded in its transaction. -/
def Desk.Genuine (w : Desk Address) (row : Contribution) : Prop :=
  ∃ id call calls entries entry env, bigInt w.gift.contractGiftId = .ok id ∧
    contributeCall p id ⟨row.contributorPublicKey, row.amount⟩ = some call ∧
    w.txs row.txHash = some ⟨calls, .landed entries⟩ ∧ entry ∈ entries ∧
    entry.call = .invoke env call ∧ Succeeded entry = true

def RecordedOnce (old : List Contribution) (w : Desk Address) : Prop :=
  ∃ added, w.gift.contributions = old ++ added ∧ (added.map Contribution.txHash).Nodup ∧
    ∀ row ∈ added, w.Genuine p row

def Desk.Unused (w : Desk Address) (txHash : Text) : Prop :=
  (∀ row ∈ w.gift.contributions, row.txHash ≠ txHash) ∧
    ∀ request ∈ w.requests, request.stage.live = true → request.txHash ≠ txHash

/-- A request that passes the schema brings a transaction that no other has, and states what
it does. -/
def Meets (w : Desk Address) : Act Address → Prop
  | .submit body txHash => contributeSubmitSchema p.sdk body = [] →
      w.Makes p body.toContributeBody txHash ∧ w.Unused txHash
  | _ => True

end Rows

section Invariant

def Desk.carried (w : Desk Address) : List Text :=
  (w.requests.filter fun request => request.stage.live).map Request.txHash

structure Ran (calls : List (Escrow.Call Address)) (entries : List (Escrow.Entry Address)) :
    Prop where
  made : ∃ env, entries.map Runs.Record.call = calls.map (Action.invoke env)
  succeeded : entries.all Succeeded = true

structure Sound (old added : List Contribution) (w : Desk Address) : Prop where
  stored : w.gift.contributions = old ++ added
  once : (added.map Contribution.txHash ++ w.carried).Nodup
  genuine : ∀ row ∈ added, w.Genuine p row
  stated : ∀ request ∈ w.requests, request.stage.live = true →
    w.Makes p request.body request.txHash
  seen : ∀ request ∈ w.requests, request.stage.seen = true → w.Included request.txHash
  ran : ∀ txHash calls entries, w.txs txHash = some ⟨calls, .landed entries⟩ → Ran calls entries

variable {p} {old added : List Contribution} {w after : Desk Address} {act : Act Address}

theorem Stage.live_of_seen {stage : Stage Address} (seen : stage.seen = true) :
    stage.live = true := by
  cases stage <;> first | rfl | cases seen

theorem put_cases {k : Nat} {request : Request Address} (running : w.requests[k]? = some request)
    (next : Stage Address) :
    ∃ front back, w.requests = front ++ request :: back ∧
      (w.put k request next).requests = front ++ { request with stage := next } :: back := by
  rcases Updates.set_split running with ⟨front, back, split, replaced⟩
  exact ⟨front, back, split, replaced _⟩

theorem carried_kept {k : Nat} {request : Request Address}
    (running : w.requests[k]? = some request) (live : request.stage.live = true)
    {next : Stage Address} (live' : next.live = true) :
    (w.put k request next).carried = w.carried := by
  rcases put_cases running next with ⟨front, back, split, replaced⟩
  rw [Desk.carried, Desk.carried, replaced, split]
  simp [List.filter_append, live, live']

theorem carried_ended {k : Nat} {request : Request Address}
    (running : w.requests[k]? = some request) (live : request.stage.live = true)
    (next : Stage Address) (ended : next.live = false) :
    w.carried.Perm (request.txHash :: (w.put k request next).carried) := by
  rcases put_cases running next with ⟨front, back, split, replaced⟩
  rw [Desk.carried, Desk.carried, replaced, split]
  simp [List.filter_append, live, ended, List.perm_middle]

structure Grows (w after : Desk Address) : Prop where
  gift : after.gift.contractGiftId = w.gift.contractGiftId
  calls : ∀ txHash tx, w.txs txHash = some tx → ∃ tx', after.txs txHash = some tx' ∧
    tx'.calls = tx.calls
  landed : ∀ txHash calls entries, w.txs txHash = some ⟨calls, .landed entries⟩ →
    after.txs txHash = some ⟨calls, .landed entries⟩

theorem grows_of_same (gift : after.gift.contractGiftId = w.gift.contractGiftId)
    (same : after.txs = w.txs) : Grows w after :=
  ⟨gift, fun _ tx known => ⟨tx, same ▸ known, rfl⟩, fun _ _ _ known => same ▸ known⟩

theorem Desk.Makes.grows {body : ContributeBody} {txHash : Text} (makes : w.Makes p body txHash)
    (grows : Grows w after) : after.Makes p body txHash := by
  rcases makes with ⟨id, call, tx, named, stated, known, member⟩
  rcases grows.calls txHash tx known with ⟨tx', known', same⟩
  exact ⟨id, call, tx', grows.gift ▸ named, stated, known', same ▸ member⟩

theorem Desk.Genuine.grows {row : Contribution} (genuine : w.Genuine p row)
    (grows : Grows w after) : after.Genuine p row := by
  rcases genuine with ⟨id, call, calls, entries, entry, env, named, stated, known, rest⟩
  exact ⟨id, call, calls, entries, entry, env, grows.gift ▸ named, stated,
    grows.landed _ _ _ known, rest⟩

theorem Desk.Included.grows {txHash : Text} (included : w.Included txHash)
    (grows : Grows w after) : after.Included txHash := by
  rcases included with ⟨calls, entries, known⟩
  exact ⟨calls, entries, grows.landed _ _ _ known⟩

theorem Sound.grow (sound : Sound p old added w) (grows : Grows w after)
    (requests : after.requests = w.requests)
    (rows : after.gift.contributions = w.gift.contributions)
    (ran : ∀ txHash calls entries, after.txs txHash = some ⟨calls, .landed entries⟩ →
      Ran calls entries) : Sound p old added after where
  stored := rows.trans sound.stored
  once := by
    have carried : after.carried = w.carried := by rw [Desk.carried, requests, Desk.carried]
    rw [carried]
    exact sound.once
  genuine row member := (sound.genuine row member).grows grows
  stated request member live := (sound.stated request (requests ▸ member) live).grows grows
  seen request member seen := (sound.seen request (requests ▸ member) seen).grows grows
  ran := ran

theorem Sound.know (sound : Sound p old added w) (txHash : Text) (new : SignedTx Address)
    (kept : ∀ tx, w.txs txHash = some tx → new.calls = tx.calls ∧
      ∀ entries, tx.fate = .landed entries → new = tx)
    (ran : ∀ entries, new.fate = .landed entries → Ran new.calls entries) :
    Sound p old added (w.know txHash new) := by
  have here : (w.know txHash new).txs txHash = some new := Function.update_self _ _ _
  have elsewhere : ∀ other, other ≠ txHash → (w.know txHash new).txs other = w.txs other :=
    fun other apart => Function.update_of_ne apart _ _
  refine sound.grow ⟨rfl, ?_, ?_⟩ rfl rfl ?_
  · intro other tx known
    by_cases same : other = txHash
    · subst same
      exact ⟨new, here, (kept tx known).1⟩
    · exact ⟨tx, (elsewhere other same).trans known, rfl⟩
  · intro other calls entries known
    by_cases same : other = txHash
    · subst same
      rw [here, (kept _ known).2 entries rfl]
    · exact (elsewhere other same).trans known
  · intro other calls entries known
    by_cases same : other = txHash
    · subst same
      cases Option.some.inj (here.symm.trans known)
      exact ran entries rfl
    · exact sound.ran other calls entries ((elsewhere other same).symm.trans known)

theorem handedOver_calls (tx : SignedTx Address) : tx.handedOver.calls = tx.calls := by
  unfold SignedTx.handedOver
  split <;> rfl

theorem handedOver_landed {tx : SignedTx Address} {entries : List (Escrow.Entry Address)} :
    tx.handedOver.fate = .landed entries ↔ tx.fate = .landed entries := by
  unfold SignedTx.handedOver
  split
  next signed => simp [signed]
  next => rfl

theorem Sound.handed (sound : Sound p old added w) {txHash : Text} {tx : SignedTx Address}
    (known : w.txs txHash = some tx) : Sound p old added (w.know txHash tx.handedOver) := by
  apply sound.know
  · intro tx' known'
    cases Option.some.inj (known.symm.trans known')
    refine ⟨handedOver_calls tx, fun entries landed => ?_⟩
    rw [SignedTx.handedOver, landed]
  · intro entries landed
    rw [handedOver_calls]
    apply sound.ran txHash
    rw [known, ← handedOver_landed.mp landed]

theorem sent_kept {txHash : Text} {calls : List (Escrow.Call Address)}
    (known : w.txs txHash = some ⟨calls, .sent⟩) (fate : Fate Address) :
    ∀ tx, w.txs txHash = some tx → (⟨calls, fate⟩ : SignedTx Address).calls = tx.calls ∧
      ∀ entries, tx.fate = .landed entries → ⟨calls, fate⟩ = tx := by
  intro tx known'
  cases Option.some.inj (known.symm.trans known')
  refine ⟨rfl, ?_⟩
  intro entries landed
  cases landed

theorem Sound.put (sound : Sound p old added w) {k : Nat} {request : Request Address}
    (next : Stage Address) (running : w.requests[k]? = some request)
    (live : request.stage.live = true)
    (knows : next.seen = true → request.stage.seen = true ∨ w.Included request.txHash) :
    Sound p old added (w.put k request next) where
  stored := sound.stored
  once := by
    cases live' : next.live with
    | true =>
        rw [carried_kept running live live']
        exact sound.once
    | false =>
        have moved := (carried_ended running live next live').append_left
          (added.map Contribution.txHash)
        have once := moved.nodup_iff.mp sound.once
        rw [List.perm_middle.nodup_iff] at once
        exact (List.nodup_cons.mp once).2
  genuine := sound.genuine
  stated other member live' := by
    rcases List.mem_or_eq_of_mem_set member with old | rfl
    · exact sound.stated other old live'
    · exact sound.stated request (List.mem_of_getElem? running) live
  seen other member seen := by
    rcases List.mem_or_eq_of_mem_set member with old | rfl
    · exact sound.seen other old seen
    · rcases knows seen with before | included
      · exact sound.seen request (List.mem_of_getElem? running) before
      · exact included
  ran := sound.ran

theorem Sound.row (sound : Sound p old added w) {request : Request Address}
    (member : request ∈ w.requests) (seen : request.stage.seen = true) (contributedAt : Instant) :
    w.Genuine p (rowOf request.body request.txHash contributedAt) := by
  obtain ⟨id, call, tx, named, stated, known, made⟩ :=
    sound.stated request member (Stage.live_of_seen seen)
  rcases sound.seen request member seen with ⟨calls, entries, landed⟩
  cases Option.some.inj (known.symm.trans landed)
  have ran := sound.ran _ _ _ landed
  rcases ran.made with ⟨env, calls_eq⟩
  have recorded : Action.invoke env call ∈ entries.map Runs.Record.call := by
    rw [calls_eq]
    exact List.mem_map_of_mem made
  rcases List.mem_map.mp recorded with ⟨entry, inside, called⟩
  exact ⟨id, call, calls, entries, entry, env, named, stated, landed, inside, called,
    List.all_eq_true.mp ran.succeeded entry inside⟩

theorem Sound.pushed (sound : Sound p old added w) {k : Nat} {request : Request Address}
    (running : w.requests[k]? = some request) (seen : request.stage.seen = true)
    (contributedAt : Instant) :
    Sound p old (added ++ [rowOf request.body request.txHash contributedAt])
      { w.put k request .done with
        gift := { w.gift with
          contributions := w.gift.contributions ++
            [rowOf request.body request.txHash contributedAt] } } := by
  have live := Stage.live_of_seen seen
  have ended := sound.put .done running live fun impossible => absurd impossible
    Bool.false_ne_true
  have grows : Grows w { w.put k request .done with
      gift := { w.gift with
        contributions := w.gift.contributions ++
          [rowOf request.body request.txHash contributedAt] } } :=
    ⟨rfl, fun _ tx known => ⟨tx, known, rfl⟩, fun _ _ _ known => known⟩
  constructor
  · rw [← List.append_assoc, ← sound.stored]
  · have moved := (carried_ended running live .done rfl).append_left
      (added.map Contribution.txHash)
    have once := moved.nodup_iff.mp sound.once
    rw [List.map_append, List.append_assoc]
    exact once
  · intro row member
    rcases List.mem_append.mp member with before | last
    · exact (sound.genuine row before).grows grows
    · rw [List.mem_singleton.mp last]
      exact (sound.row (List.mem_of_getElem? running) seen contributedAt).grows grows
  · intro other member live'
    exact (ended.stated other member live').grows (grows_of_same rfl rfl)
  · exact ended.seen
  · exact ended.ran

theorem Sound.submitted (sound : Sound p old added w) {body : ContributeBody} {txHash : Text}
    (makes : w.Makes p body txHash) (unused : w.Unused txHash) :
    Sound p old added
      { w with requests := w.requests ++ [⟨body, txHash, .sending⟩] } where
  stored := sound.stored
  once := by
    have carried : Desk.carried { w with requests := w.requests ++ [⟨body, txHash, .sending⟩] } =
        w.carried ++ [txHash] := by
      simp [Desk.carried, List.filter_append, Stage.live]
    have row_unused : txHash ∉ added.map Contribution.txHash := by
      intro member
      rcases List.mem_map.mp member with ⟨row, inside, same⟩
      exact unused.1 row (sound.stored ▸ List.mem_append_right _ inside) same
    have request_unused : txHash ∉ w.carried := by
      intro member
      rcases List.mem_map.mp member with ⟨request, inside, same⟩
      rcases List.mem_filter.mp inside with ⟨member', live⟩
      exact unused.2 request member' live same
    rw [carried, ← List.append_assoc, List.nodup_append_comm, List.singleton_append,
      List.nodup_cons, List.mem_append]
    exact ⟨fun used => used.elim row_unused request_unused, sound.once⟩
  genuine := sound.genuine
  stated request member live := by
    rcases List.mem_append.mp member with before | last
    · exact sound.stated request before live
    · rw [List.mem_singleton.mp last]
      exact makes
  seen request member seen := by
    rcases List.mem_append.mp member with before | last
    · exact sound.seen request before seen
    · rw [List.mem_singleton.mp last] at seen
      cases seen
  ran := sound.ran

theorem step_sound (sound : Sound p old added w) (step : Step p w act after)
    (meets : Meets p w act) : ∃ added', Sound p old added' after := by
  cases step with
  | signed fresh =>
      refine ⟨added, sound.know _ _ ?_ ?_⟩
      · intro tx known
        rw [fresh] at known
        cases known
      · intro entries landed
        cases landed
  | submitted valid =>
      rcases meets valid with ⟨makes, unused⟩
      exact ⟨added, sound.submitted makes unused⟩
  | @sent k answer reaches request tx gone next running live unseen known same =>
      have put := sound.put next running live fun seen => by
        rw [unseen] at seen
        cases seen
      rcases same with rfl | rfl
      · refine ⟨added, put.know _ _ ?_ ?_⟩
        · intro tx' known'
          cases Option.some.inj (known.symm.trans known')
          exact ⟨rfl, fun _ _ => rfl⟩
        · intro entries landed
          apply sound.ran request.txHash
          rw [known, ← landed]
      · exact ⟨added, put.handed known⟩
  | moved running live knows => exact ⟨added, sound.put _ running live knows⟩
  | stood => exact ⟨added, sound⟩
  | savedStatus running seen =>
      have put := sound.put .pushing running (Stage.live_of_seen seen)
        fun _ => Or.inl seen
      exact ⟨added, put.grow (grows_of_same rfl rfl) rfl rfl put.ran⟩
  | pushed running seen => exact ⟨_, sound.pushed running seen _⟩
  | handedOver known => exact ⟨added, sound.handed known⟩
  | @settled txHash env calls known succeeded =>
      have ran : ∀ entries, Fate.landed ((Escrow.machine p.escrow).trace w.escrow
          (calls.map (Action.invoke env))) = .landed entries → Ran calls entries := by
        intro entries landed
        cases landed
        exact ⟨⟨env, Runs.Machine.trace_calls _ _⟩, succeeded⟩
      have learnt := sound.know txHash ⟨calls, _⟩ (sent_kept known _) ran
      exact ⟨added, learnt.grow (grows_of_same rfl rfl) rfl rfl learnt.ran⟩
  | failed known =>
      refine ⟨added, sound.know _ _ (sent_kept known _) ?_⟩
      intro entries landed
      cases landed
  | chained =>
      exact ⟨added, sound.grow (grows_of_same rfl rfl) rfl rfl sound.ran⟩
  | saved =>
      exact ⟨added, sound.grow (grows_of_same rfl rfl) rfl rfl sound.ran⟩

theorem Sound.recorded (sound : Sound p old added w) : RecordedOnce p old w :=
  ⟨added, sound.stored, (List.nodup_append.mp sound.once).1, sound.genuine⟩

end Invariant

section Runs

/-- In every run whose requests each bring a transaction that no other has and state what it
does, every state's rows are recorded once and are genuine. -/
theorem rows_recorded_once (p : Platform Address) (gift : GiftDocument)
    (escrow : Escrow.State Address) (acts : List (Act Address))
    (met : ∀ entry ∈ (machine p).trace (Desk.opened gift escrow) acts,
      Meets p entry.before entry.call) :
    RecordedOnce p gift.contributions ((machine p).final (Desk.opened gift escrow) acts) := by
  have start : ∃ added, Sound p gift.contributions added (Desk.opened gift escrow) := by
    refine ⟨[], (List.append_nil _).symm, List.nodup_nil, ?_, ?_, ?_, ?_⟩
    · intro row member
      cases member
    · intro request member
      cases member
    · intro request member
      cases member
    · intro txHash calls entries known
      cases known
  have final := Runs.Machine.state_invariant (m := machine p)
    (fun w => ∃ added, Sound p gift.contributions added w) (Meets p) start ?_ acts met
  · rcases final with ⟨added, sound⟩
    exact sound.recorded
  · intro w act sound meets
    rcases sound with ⟨added, sound⟩
    rcases next_cases (p := p) w act with step | same
    · exact step_sound sound step meets
    · exact ⟨added, same.symm ▸ sound⟩

def sampleLedger : Escrow.State Nat :=
  (Escrow.machine Escrow.sampleDeployment).final Escrow.State.empty
    [.outside 9 1 500,
      .invoke (Escrow.sampleEnv 10) (.createGift 1 2 9 Escrow.sampleAmount 1000 .none 1
        (BytesN.ofNat 32 0))]

def sampleGift : GiftDocument :=
  { sampleDraft with
    status := .active
    contractGiftId := some "1".toList
    contributions := [⟨sampleSender, "100".toList, "c0".toList, ⟨10000, by decide⟩⟩] }

def sampleRequest : ContributeSubmitBody := ⟨⟨sampleSender, "7".toList⟩, "AAAA".toList⟩

def sampleCall : Escrow.Call Nat := .contribute 1 1 ⟨7, by decide, by decide⟩

def sampleRest (k : Nat) : List (Act Nat) :=
  [.poll k, .reconcile k, .readChain k, .saveStatus k, .push k ⟨20000, by decide⟩]

def sampleContribution : List (Act Nat) :=
  [.sign "c1".toList [sampleCall], .submit sampleRequest "c1".toList,
    .send 0 (some .pending) true, .settle "c1".toList (Escrow.sampleEnv 20)] ++ sampleRest 0

theorem sampleContribution_met : ∀ entry ∈ (machine samplePlatform).trace
    (Desk.opened sampleGift sampleLedger) sampleContribution,
    Meets samplePlatform entry.before entry.call := by
  have makes : ((machine samplePlatform).next (Desk.opened sampleGift sampleLedger)
      (.sign "c1".toList [sampleCall])).Makes samplePlatform sampleRequest.toContributeBody
        "c1".toList :=
    ⟨1, sampleCall, ⟨[sampleCall], .signed⟩, rfl, rfl, rfl, List.mem_cons_self⟩
  have unused : ((machine samplePlatform).next (Desk.opened sampleGift sampleLedger)
      (.sign "c1".toList [sampleCall])).Unused "c1".toList := by
    constructor
    · intro row member
      rw [List.mem_singleton.mp member]
      decide
    · intro request member
      cases member
  simp only [sampleContribution, sampleRest, List.cons_append, List.nil_append,
    Runs.Machine.trace_cons, Runs.Machine.trace_nil, List.forall_mem_cons, Runs.Machine.record,
    Meets, true_and, List.not_mem_nil]
  exact ⟨fun _ => ⟨makes, unused⟩, fun _ impossible => impossible.elim⟩

theorem rows_recorded_once_sample :
    RecordedOnce samplePlatform sampleGift.contributions
      ((machine samplePlatform).final (Desk.opened sampleGift sampleLedger) sampleContribution) :=
  rows_recorded_once samplePlatform sampleGift sampleLedger sampleContribution
    sampleContribution_met

def sampleRetry : List (Act Nat) :=
  sampleContribution ++
    [.submit sampleRequest "c1".toList, .send 1 (some .duplicate) true] ++ sampleRest 1

/-- The body states a hundred times what the transaction pays. -/
def sampleForged : List (Act Nat) :=
  [.sign "c1".toList [sampleCall],
    .submit { sampleRequest with amount := "700".toList } "c1".toList,
    .send 0 (some .pending) true, .settle "c1".toList (Escrow.sampleEnv 20)] ++ sampleRest 0

/-- The retry's row is pushed a second time, and the forged one as it stands. -/
theorem rows_pushed_unchecked :
    ¬RecordedOnce samplePlatform sampleGift.contributions
      ((machine samplePlatform).final (Desk.opened sampleGift sampleLedger) sampleRetry) ∧
    ¬RecordedOnce samplePlatform sampleGift.contributions
      ((machine samplePlatform).final (Desk.opened sampleGift sampleLedger) sampleForged) := by
  constructor
  · intro recorded
    rcases recorded with ⟨added, stored, once, _⟩
    have hashes : ((machine samplePlatform).final (Desk.opened sampleGift sampleLedger)
        sampleRetry).gift.contributions.map Contribution.txHash =
          ["c0".toList, "c1".toList, "c1".toList] := by decide +kernel
    rw [stored, List.map_append] at hashes
    have pushed : added.map Contribution.txHash = ["c1".toList, "c1".toList] :=
      (List.cons.inj hashes).2
    rw [pushed] at once
    exact absurd once (by decide)
  · intro recorded
    rcases recorded with ⟨added, stored, _, genuine⟩
    have rows : ((machine samplePlatform).final (Desk.opened sampleGift sampleLedger)
        sampleForged).gift.contributions = sampleGift.contributions ++
          [⟨sampleSender, "700".toList, "c1".toList, ⟨20000, by decide⟩⟩] := rfl
    have row := List.append_cancel_left (stored.symm.trans rows)
    obtain ⟨id, call, calls, entries, entry, env, named, stated, landed, member, called, _⟩ :=
      genuine _ (row ▸ List.mem_cons_self)
    cases named
    cases stated
    cases landed
    cases List.mem_singleton.mp member
    cases called

end Runs

end Giffy.Backend.Contributions
