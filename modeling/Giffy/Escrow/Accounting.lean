import Giffy.Escrow.Refunds

/-! The escrow's balances to the unit: what is owed to open gifts and what was given to the
contract itself. From there every gift can be paid back. -/

namespace Giffy.Escrow

open TokenLedger

variable {Address : Type} [LinearOrder Address]

section Definitions

def Unsigned (self : Address) : Action Address (Call Address) → Prop
  | .invoke env _ => env.authorized self = false
  | .outside .. => True

def donationOf (self token : Address) (entry : Entry Address) : Int :=
  match entry.call, entry.outcome with
  | .outside inToken holder change, .ok _ => if token = inToken ∧ self = holder then change else 0
  | _, _ => 0

def donations (self token : Address) (past : List (Entry Address)) : Int :=
  (past.map (donationOf self token)).sum

theorem donations_append (self token : Address) (past : List (Entry Address))
    (entry : Entry Address) :
    donations self token (past ++ [entry]) =
      donations self token past + donationOf self token entry := by
  simp [donations]

omit [LinearOrder Address] in
theorem Unsigned.notSelfPaid {self : Address} {action : Action Address (Call Address)}
    (unsigned : Unsigned self action) : NotSelfPaid Call.payer self action := by
  cases action with
  | invoke env call => exact fun _ => unsigned
  | outside => trivial

/-- The contract holds exactly what it owes and what it was given, and owes nothing to itself. -/
structure Accounted (d : Deployment Address) (past : List (Entry Address)) (s : State Address) :
    Prop where
  sound : Sound d s
  outsiders : ∀ id gift, s.gifts.get id = some gift → gift.contributions.contains d.self = false
  exact : ∀ token, s.balances token d.self = s.escrowed token + donations d.self token past

end Definitions

section Steps

variable {d : Deployment Address} {s after : State Address} {receipt : Receipt Address}
  {action : Action Address (Call Address)} {past : List (Entry Address)}

omit [LinearOrder Address] in
theorem signer_ne_self {env : Env Address} {call : Call Address} {signer : Address}
    (unsigned : Unsigned d.self (.invoke env call)) (authorized : env.authorized signer = true) :
    signer ≠ d.self := by
  rintro rfl
  rw [unsigned] at authorized
  cases authorized

theorem contains_set_outsider {gift : GiftRecord Address} {contributor : Address} {raised : I128}
    (other : contributor ≠ d.self) (outsider : gift.contributions.contains d.self = false) :
    (gift.contributions.set contributor raised).contains d.self = false := by
  rw [SortedMap.contains, SortedMap.get_set_ne _ other]
  exact outsider

theorem outsiders_set {gifts : SortedMap Nat (GiftRecord Address)} {id : Nat}
    {new : GiftRecord Address}
    (old : ∀ id gift, gifts.get id = some gift → gift.contributions.contains d.self = false)
    (own : new.contributions.contains d.self = false) (other : Nat) (found : GiftRecord Address)
    (present : (gifts.set id new).get other = some found) :
    found.contributions.contains d.self = false := by
  rw [SortedMap.get_set] at present
  split at present
  · cases present
    exact own
  · exact old other found present

theorem step_outsiders (unsigned : Unsigned d.self action)
    (outsiders : ∀ id gift, s.gifts.get id = some gift →
      gift.contributions.contains d.self = false)
    (step : Step d s action after receipt) (id : Nat) (gift : GiftRecord Address)
    (present : after.gifts.get id = some gift) : gift.contributions.contains d.self = false := by
  cases step with
  | created authorized _ _ _ record =>
      have other := signer_ne_self unsigned authorized
      subst record
      apply outsiders_set outsiders _ id gift present
      rw [newGift, SortedMap.contains, SortedMap.get_set_ne _ other]
      rfl
  | contributed authorized _ stored =>
      have other := signer_ne_self unsigned authorized
      exact outsiders_set outsiders (contains_set_outsider other (outsiders _ _ stored)) id gift
        present
  | unlocked _ stored | claimed _ stored | refunded _ stored =>
      have own := outsiders _ _ stored
      exact outsiders_set outsiders (by exact own) id gift present
  | outside => exact outsiders id gift present

theorem refunds_leave {gift : GiftRecord Address}
    (outsider : gift.contributions.contains d.self = false) :
    ∀ t ∈ refunds d gift, t.source = d.self ∧ t.recipient ≠ d.self := by
  intro t member
  rcases List.mem_map.mp member with ⟨⟨who, amount⟩, inside, rfl⟩
  refine ⟨rfl, ?_⟩
  rintro rfl
  have present : gift.contributions.contains d.self = true :=
    SortedMap.contains_iff.mpr ⟨amount, SortedMap.mem_entries.mp inside⟩
  rw [outsider] at present
  cases present

theorem paid_in_exact {changed : State Address} {inToken payer : Address} {amount : Int}
    (other : payer ≠ d.self) (token : Address)
    (before : s.balances token d.self = s.escrowed token + donations d.self token past)
    (paid : changed.balances = move s.balances ⟨inToken, payer, d.self, amount⟩)
    (owed : changed.escrowed token = s.escrowed token + if token = inToken then amount else 0) :
    changed.balances token d.self = changed.escrowed token + donations d.self token past := by
  rw [paid, owed, move_apply, net_paid_in other, before]
  omega

theorem paid_out_exact {gift shut : GiftRecord Address} {id : Nat} {counter : Option Nat}
    {transfers : List (Transfer Address)} (stored : s.gifts.get id = some gift)
    (isOpen : gift.status = .open) (closed : shut.status ≠ .open)
    (leave : ∀ t ∈ transfers, t.source = d.self ∧ t.recipient ≠ d.self) (token : Address)
    (before : s.balances token d.self = s.escrowed token + donations d.self token past)
    (sum : (transfers.map fun t => if token = t.token then t.amount else 0).sum =
      if token = gift.token then gift.totalAmount.value else 0) :
    transfers.foldl move s.balances token d.self =
      State.escrowed ⟨counter, s.gifts.set id shut, transfers.foldl move s.balances⟩ token +
        donations d.self token past := by
  rw [escrowed_set stored, openAmount_open isOpen, openAmount_closed closed,
    foldl_move_source leave, sum, before]
  omega

theorem donationOf_invoke (token : Address) (env : Env Address) (call : Call Address)
    (outcome : Except (Trap GiftEscrowError) (Receipt Address)) :
    donationOf d.self token ⟨s, .invoke env call, outcome⟩ = 0 := rfl

theorem step_exact (unsigned : Unsigned d.self action) (accounted : Accounted d past s)
    (step : Step d s action after receipt) (token : Address) :
    after.balances token d.self = after.escrowed token +
      donations d.self token (past ++ [⟨s, action, .ok receipt⟩]) := by
  have before := accounted.exact token
  rw [donations_append]
  cases step with
  | created authorized _ _ next record paid =>
      subst paid record
      rw [donationOf_invoke, add_zero]
      apply paid_in_exact (signer_ne_self unsigned authorized) token before rfl
      rw [escrowed_new (accounted.sound.counted.fresh next), openAmount_open rfl]
      rfl
  | contributed authorized _ stored isOpen _ paid _ total =>
      subst paid
      rw [donationOf_invoke, add_zero]
      apply paid_in_exact (signer_ne_self unsigned authorized) token before rfl
      rw [escrowed_set stored, openAmount_open isOpen, openAmount_open (by exact isOpen), total]
      split <;> omega
  | @unlocked _ _ _ gift _ _ stored =>
      rw [donationOf_invoke, add_zero, escrowed_set stored]
      change s.balances token d.self = s.escrowed token - openAmount token gift +
        openAmount token gift + _
      omega
  | @claimed _ _ claimant _ gift _ authorized stored _ isOpen _ _ paid =>
      have other := signer_ne_self unsigned authorized
      have leave : ∀ t ∈ [Transfer.mk gift.token d.self claimant gift.totalAmount.value],
          t.source = d.self ∧ t.recipient ≠ d.self := by
        simpa using other
      subst paid
      rw [donationOf_invoke, add_zero]
      exact paid_out_exact stored isOpen (by simp) leave token before (by simp)
  | refunded _ stored _ isOpen _ =>
      have total := (accounted.sound.recorded _ _ stored).total
      rw [donationOf_invoke, add_zero]
      exact paid_out_exact stored isOpen (by simp)
        (refunds_leave (accounted.outsiders _ _ stored)) token before
        ((refunds_token_sum d _ token).trans (by rw [total]))
  | @outside inToken holder change =>
      change add s.balances inToken holder change token d.self =
        s.escrowed token + (_ + if token = inToken ∧ d.self = holder then change else 0)
      rw [add]
      split <;> omega

theorem next_accounted (unsigned : Unsigned d.self action) (accounted : Accounted d past s) :
    Accounted d (past ++ [(machine d).record s action]) ((machine d).next s action) := by
  rcases next_cases (d := d) s action with ⟨receipt, ran, step⟩ | ⟨⟨trap, failed⟩, same⟩
  · rw [Runs.Machine.record, ran]
    exact ⟨step_sound accounted.sound unsigned.notSelfPaid step,
      step_outsiders unsigned accounted.outsiders step, step_exact unsigned accounted step⟩
  · have nothing : ∀ token, donationOf d.self token ((machine d).record s action) = 0 := by
      intro token
      rw [Runs.Machine.record, failed]
      cases action <;> rfl
    rw [same]
    refine ⟨accounted.sound, accounted.outsiders, fun token => ?_⟩
    rw [donations_append, nothing, add_zero]
    exact accounted.exact token

theorem run_accounted_from (accounted : Accounted d past s)
    (actions : List (Action Address (Call Address)))
    (unsigned : ∀ action ∈ actions, Unsigned d.self action) :
    Accounted d (past ++ (machine d).trace s actions) ((machine d).final s actions) := by
  induction actions generalizing past s with
  | nil => simpa using accounted
  | cons action rest ih =>
      have first := next_accounted (unsigned action List.mem_cons_self) accounted
      have tail := ih first fun other member => unsigned other (List.mem_cons_of_mem _ member)
      rw [Runs.Machine.trace_cons, Runs.Machine.final_cons]
      simpa [List.append_assoc] using tail

theorem run_accounted (d : Deployment Address) (actions : List (Action Address (Call Address)))
    (unsigned : ∀ action ∈ actions, Unsigned d.self action) :
    Accounted d ((machine d).trace State.empty actions) ((machine d).final State.empty actions) := by
  have start : Accounted d [] State.empty := by
    refine ⟨empty_sound d, ?_, fun token => rfl⟩
    intro id gift present
    simp [State.empty] at present
  exact run_accounted_from start actions unsigned

end Steps

section Paybacks

structure Ripe (own : Address) (env : Env Address) (gift : GiftRecord Address) : Prop where
  signed : env.authorized gift.sender = true
  unsigned : env.authorized own = false
  expired : gift.expiresAt ≤ env.timestamp

variable (d : Deployment Address) (envs : Nat → Env Address) (s : State Address)

def payback (id : Nat) : List (Action Address (Call Address)) :=
  match s.gifts.get id with
  | some gift => [.invoke (envs id) (.refund id gift.sender)]
  | none => []

def paybacks (count : Nat) : List (Action Address (Call Address)) :=
  (List.range count).flatMap (payback envs s)

instance (env : Env Address) (gift : GiftRecord Address) : Decidable (Refundable d env gift) :=
  decidable_of_iff (gift.status = .open ∧ gift.expiresAt ≤ env.timestamp ∧
    ∀ transfer ∈ refunds d gift, env.refuses transfer = false)
    ⟨fun parts => ⟨parts.1, parts.2.1, parts.2.2⟩, fun due => ⟨due.isOpen, due.expired, due.taken⟩⟩

/-- What the refund leaves of a gift: it closes one whose payouts are all taken. -/
def settled (env : Env Address) (gift : GiftRecord Address) : GiftRecord Address :=
  if Refundable d env gift then { gift with status := .refunded } else gift

variable {d envs s} {past : List (Entry Address)} {id : Nat} {gift : GiftRecord Address}
  {env : Env Address}

theorem paybacks_succ (count : Nat) :
    paybacks envs s (count + 1) = paybacks envs s count ++ payback envs s count := by
  rw [paybacks, List.range_succ, List.flatMap_append, List.flatMap_singleton]
  rfl

theorem payback_unsigned (due : ∀ id gift, s.gifts.get id = some gift → Ripe d.self (envs id) gift)
    {action : Action Address (Call Address)} (member : action ∈ payback envs s id) :
    Unsigned d.self action := by
  unfold payback at member
  split at member
  next stored =>
    cases List.mem_singleton.mp member
    exact (due _ _ stored).unsigned
  · cases member

theorem payback_donations (id : Nat) (t : State Address) (token : Address) :
    donations d.self token ((machine d).trace t (payback envs s id)) = 0 := by
  unfold payback
  split
  · simp [donations, donationOf, Runs.Machine.record]
  · rfl

/-- The refund that its sender asks for pays a gift back and closes it, or does nothing. -/
theorem refund_settles {t : State Address} {before : List (Entry Address)}
    (books : Accounted d before t) (stored : t.gifts.get id = some gift)
    (due : Ripe d.self env gift) :
    (∀ other, ((machine d).next t (.invoke env (.refund id gift.sender))).gifts.get other =
      if id = other then some (settled d env gift) else t.gifts.get other) ∧
    ∀ who, returned d id who ((machine d).record t (.invoke env (.refund id gift.sender))) =
      if Refundable d env gift then ((gift.contributions.get who).map I128.value).getD 0 else 0 := by
  have paid := @refund_ok_iff _ _ d id gift t books.sound stored env gift.sender (Or.inl rfl)
  by_cases refundable : Refundable d env gift
  · rcases paid.mpr ⟨due.signed, refundable⟩ with ⟨after, receipt, ran, transfers⟩
    rw [Runs.Machine.record_of_ok (m := machine d) ran,
      Runs.Machine.next_of_ok (m := machine d) ran, settled, if_pos refundable]
    constructor
    · intro other
      cases exec_step ran with
      | refunded _ found =>
          cases stored.symm.trans found
          exact SortedMap.get_set ..
    · intro who
      rw [if_pos refundable, ← refunds_at d, ← transfers]
      simp [returned, concerns]
  · cases ran : exec d t (.invoke env (.refund id gift.sender)) with
    | ok result =>
        exact absurd (paid.mp ⟨_, _, ran, refund_transfers stored ran⟩).2 refundable
    | error trap =>
        rw [Runs.Machine.record_of_error (m := machine d) ran,
          Runs.Machine.next_of_error (m := machine d) ran, settled, if_neg refundable]
        refine ⟨fun other => ?_, fun who => (if_neg refundable).symm⟩
        split
        next same => rw [← same, stored]
        · rfl

structure PaidBack (d : Deployment Address) (envs : Nat → Env Address)
    (past : List (Entry Address)) (s : State Address) (count : Nat) : Prop where
  accounted : Accounted d (past ++ (machine d).trace s (paybacks envs s count))
    ((machine d).final s (paybacks envs s count))
  gifts : ∀ id, ((machine d).final s (paybacks envs s count)).gifts.get id =
    if id < count then (s.gifts.get id).map (settled d (envs id)) else s.gifts.get id
  donated : ∀ token, donations d.self token ((machine d).trace s (paybacks envs s count)) = 0
  returned : ∀ id gift, s.gifts.get id = some gift → ∀ who,
    returnedTo d id who ((machine d).trace s (paybacks envs s count)) =
      if id < count ∧ Refundable d (envs id) gift then paidBy id who past else 0

theorem paidBack_zero (accounted : Accounted d past s) : PaidBack d envs past s 0 where
  accounted := by simpa [paybacks] using accounted
  gifts _ := rfl
  donated _ := rfl
  returned _ _ _ _ := by simp [paybacks, returnedTo]

/-- One more number: its gift, if there is one, is settled, and nothing else changes. -/
theorem payback_gifts {t : State Address} (same : t.gifts.get id = s.gifts.get id)
    (due : ∀ gift, s.gifts.get id = some gift → Ripe d.self (envs id) gift)
    {before : List (Entry Address)} (books : Accounted d before t) (other : Nat) :
    ((machine d).final t (payback envs s id)).gifts.get other =
      if id = other then (s.gifts.get id).map (settled d (envs id)) else t.gifts.get other := by
  unfold payback
  cases stored : s.gifts.get id with
  | none =>
      rw [Runs.Machine.final_nil]
      split
      next itself => rw [← itself, same, stored, Option.map_none]
      · rfl
  | some gift =>
      rw [Runs.Machine.final_cons, Runs.Machine.final_nil]
      exact (refund_settles books (same.trans stored) (due gift stored)).1 other

theorem returned_refund_other {t : State Address} {env : Env Address} {caller who : Address}
    {other : Nat} (different : other ≠ id) :
    returned d other who ((machine d).record t (.invoke env (.refund id caller))) = 0 := by
  apply returned_other
  rw [Runs.Machine.record]
  cases (machine d).outcome t (.invoke env (.refund id caller)) with
  | ok receipt =>
      intro same
      exact different (Option.some.inj same).symm
  | error trap =>
      intro same
      cases same

theorem payback_returned {t : State Address} {before : List (Entry Address)}
    (books : Accounted d before t) (same : t.gifts.get id = s.gifts.get id) {other : Nat}
    (agrees : Matches other past gift) (stored : s.gifts.get other = some gift)
    (due : ∀ gift, s.gifts.get id = some gift → Ripe d.self (envs id) gift) (who : Address) :
    returnedTo d other who ((machine d).trace t (payback envs s id)) =
      if other = id ∧ Refundable d (envs other) gift then paidBy other who past else 0 := by
  unfold payback
  by_cases own : other = id
  · subst own
    rw [stored, Runs.Machine.trace_cons, Runs.Machine.trace_nil, returnedTo, List.map_singleton,
      List.sum_singleton, (refund_settles books (same.trans stored) (due gift stored)).2,
      agrees.shares who]
    simp
  · rw [if_neg fun both => own both.1]
    split
    · rw [Runs.Machine.trace_cons, Runs.Machine.trace_nil, returnedTo, List.map_singleton,
        List.sum_singleton]
      exact returned_refund_other own
    · rfl

theorem paidBack_succ {count : Nat} (history : History past s)
    (due : ∀ id gift, s.gifts.get id = some gift → Ripe d.self (envs id) gift)
    (paid : PaidBack d envs past s count) : PaidBack d envs past s (count + 1) := by
  have same : ((machine d).final s (paybacks envs s count)).gifts.get count =
      s.gifts.get count := by rw [paid.gifts, if_neg (lt_irrefl count)]
  have final : (machine d).final s (paybacks envs s (count + 1)) =
      (machine d).final ((machine d).final s (paybacks envs s count)) (payback envs s count) := by
    rw [paybacks_succ, Runs.Machine.final, List.foldl_append]
    rfl
  have trace : (machine d).trace s (paybacks envs s (count + 1)) =
      (machine d).trace s (paybacks envs s count) ++
        (machine d).trace ((machine d).final s (paybacks envs s count)) (payback envs s count) := by
    rw [paybacks_succ, Runs.Machine.trace_append]
  constructor
  · rw [final, trace, ← List.append_assoc]
    exact run_accounted_from paid.accounted _ fun _ member => payback_unsigned due member
  · intro id
    rw [final, payback_gifts same (due count) paid.accounted, paid.gifts]
    by_cases last : count = id
    · subst last
      rw [if_pos rfl, if_pos (Nat.lt_succ_self count)]
    · have earlier : id < count + 1 ↔ id < count := by omega
      rw [if_neg last]
      simp only [earlier]
  · intro token
    have earlier := paid.donated token
    have now : donations d.self token ((machine d).trace ((machine d).final s
        (paybacks envs s count)) (payback envs s count)) = 0 := payback_donations count _ token
    rw [donations] at earlier now
    rw [trace, donations, List.map_append, List.sum_append, earlier, now, add_zero]
  · intro id gift stored who
    have earlier := paid.returned id gift stored who
    have now := payback_returned paid.accounted same (history.stored id gift stored) stored
      (due count) who
    rw [returnedTo] at earlier now
    rw [trace, returnedTo, List.map_append, List.sum_append, earlier, now]
    by_cases last : id = count
    · subst last
      simp
    · have earlier : id < count + 1 ↔ id < count := by omega
      simp [last, earlier]

theorem run_paidBack (history : History past s) (accounted : Accounted d past s)
    (due : ∀ id gift, s.gifts.get id = some gift → Ripe d.self (envs id) gift) (count : Nat) :
    PaidBack d envs past s count := by
  induction count with
  | zero => exact paidBack_zero accounted
  | succ count ih => exact paidBack_succ history due ih

theorem escrowed_closed {t : State Address}
    (closed : ∀ id gift, t.gifts.get id = some gift → gift.status ≠ .open) (token : Address) :
    t.escrowed token = 0 := by
  have nothing : ∀ entry ∈ t.gifts.entries, openAmount token entry.2 = 0 := by
    rintro ⟨id, gift⟩ member
    exact openAmount_closed (closed id gift (SortedMap.mem_entries.mp member)) token
  rw [State.escrowed, SortedMap.total, List.map_congr_left nothing]
  simp

theorem settled_open_iff (expired : gift.expiresAt ≤ env.timestamp) :
    (settled d env gift).status = .open ↔
      gift.status = .open ∧ ∃ transfer ∈ refunds d gift, env.refuses transfer = true := by
  unfold settled
  split
  next refundable =>
    refine iff_of_false (by simp) ?_
    rintro ⟨_, transfer, member, refused⟩
    rw [refundable.taken transfer member] at refused
    cases refused
  next blocked =>
    refine ⟨fun isOpen => ⟨isOpen, ?_⟩, And.left⟩
    by_contra allowed
    refine blocked ⟨isOpen, expired, fun transfer member => ?_⟩
    rw [← Bool.not_eq_true]
    exact fun refused => allowed ⟨transfer, member, refused⟩

end Paybacks

/-- In every reachable state the contract holds the open gifts' amounts and what it was given
directly, to the unit. Once the expiries have passed, one refund of each gift by its sender closes
every open gift whose payouts the token takes and pays its contributors exactly what they paid in;
a gift with a payout turned down stays as it was. When none is turned down, what was given is all
that is left. -/
theorem escrow_winds_down (d : Deployment Address) (actions : List (Action Address (Call Address)))
    (unsigned : ∀ action ∈ actions, Unsigned d.self action) (envs : Nat → Env Address)
    (due : ∀ id gift, ((machine d).final State.empty actions).gifts.get id = some gift →
      Ripe d.self (envs id) gift) :
    let past := (machine d).trace State.empty actions
    let s := (machine d).final State.empty actions
    let calls := paybacks envs s (s.giftCounter.getD 0 + 1)
    let after := (machine d).final s calls
    (∀ token, s.balances token d.self = s.escrowed token + donations d.self token past) ∧
    (∀ token, after.balances token d.self = after.escrowed token + donations d.self token past) ∧
    (∀ id gift, s.gifts.get id = some gift →
      after.gifts.get id = some (settled d (envs id) gift) ∧
      ∀ who, returnedTo d id who ((machine d).trace s calls) =
        if Refundable d (envs id) gift then paidBy id who past else 0) ∧
    ((∀ id gift, s.gifts.get id = some gift → gift.status = .open →
        ∀ transfer ∈ refunds d gift, (envs id).refuses transfer = false) →
      ∀ token, after.balances token d.self = donations d.self token past) := by
  intro past s calls after
  have accounted : Accounted d past s := run_accounted d actions unsigned
  have history : History past s :=
    (run_history d actions fun action member => (unsigned action member).notSelfPaid).2
  have paid := run_paidBack history accounted due (s.giftCounter.getD 0 + 1)
  have below : ∀ id gift, s.gifts.get id = some gift → id < s.giftCounter.getD 0 + 1 := by
    intro id gift stored
    have counted := accounted.sound.counted id gift stored
    omega
  have exact : ∀ token, after.balances token d.self =
      after.escrowed token + donations d.self token past := by
    intro token
    have kept := paid.accounted.exact token
    have none := paid.donated token
    rw [donations] at none
    rw [donations, List.map_append, List.sum_append, none, add_zero] at kept
    exact kept
  have gifts : ∀ id gift, s.gifts.get id = some gift →
      after.gifts.get id = some (settled d (envs id) gift) := by
    intro id gift stored
    exact (paid.gifts id).trans (by rw [if_pos (below id gift stored), stored, Option.map_some])
  refine ⟨accounted.exact, exact, ?_, ?_⟩
  · intro id gift stored
    refine ⟨gifts id gift stored, fun who => ?_⟩
    rw [paid.returned id gift stored who]
    simp only [below id gift stored, true_and]
  · intro taken token
    have closed : ∀ id gift, after.gifts.get id = some gift → gift.status ≠ .open := by
      intro id found present isOpen
      cases stored : s.gifts.get id with
      | none =>
          have absent := paid.gifts id
          rw [stored, Option.map_none, ite_self] at absent
          cases absent.symm.trans present
      | some gift =>
          cases (gifts id gift stored).symm.trans present
          rcases (settled_open_iff (due id gift stored).expired).mp isOpen with
            ⟨wasOpen, transfer, member, refused⟩
          rw [taken id gift stored wasOpen transfer member] at refused
          cases refused
    rw [exact token, escrowed_closed closed, zero_add]

theorem sampleFunding_unsigned :
    ∀ action ∈ sampleFunding, Unsigned sampleDeployment.self action := by
  simp [sampleFunding, Unsigned, sampleDeployment, sampleEnv]

def sampleLate (_ : Nat) : Env Nat := ⟨fun who => decide (who ≠ 0), 1000, fun _ => false⟩

theorem escrow_winds_down_sample :
    let s := (machine sampleDeployment).final State.empty sampleFunding
    let after := (machine sampleDeployment).final s (paybacks sampleLate s 2)
    after.balances 9 0 =
      donations 0 9 ((machine sampleDeployment).trace State.empty sampleFunding) := by
  have due : ∀ id gift,
      ((machine sampleDeployment).final State.empty sampleFunding).gifts.get id = some gift →
        Ripe sampleDeployment.self (sampleLate id) gift := by
    intro id gift stored
    have every : ((machine sampleDeployment).final State.empty sampleFunding).gifts.entries.all
        (fun entry => entry.2.sender ≠ 0 ∧ entry.2.expiresAt ≤ 1000) = true := by decide +kernel
    have timely := List.all_eq_true.mp every (id, gift) (SortedMap.mem_entries.mpr stored)
    simp only [decide_eq_true_eq] at timely
    exact ⟨by simpa [sampleLate] using timely.1, rfl, timely.2⟩
  exact (escrow_winds_down sampleDeployment sampleFunding sampleFunding_unsigned sampleLate
    due).2.2.2 (fun _ _ _ _ _ _ => rfl) 9

end Giffy.Escrow
