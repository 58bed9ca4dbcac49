import Giffy.Backend.CachedStatus
import Giffy.Backend.Gates

/-! What a draft asks for is what its transactions lock, in every run. -/

namespace Giffy.Backend

open Chain

section Locks

variable {Address : Type}

structure Lock (Address : Type) where
  sender : Address
  receiver : Address
  token : Address
  expiresAt : Nat
  condition : Escrow.ClaimCondition
  stepUnlocker : Address
  messageHash : BytesN 32
deriving DecidableEq

def CreateArgs.lock (args : CreateArgs Address) : Lock Address :=
  ⟨args.sender, args.receiver, args.token, args.expiresAt, args.condition, args.stepUnlocker,
    args.messageHash⟩

def recordLock [LT Address] (record : Escrow.GiftRecord Address) : Lock Address :=
  ⟨record.sender, record.receiver, record.token, record.expiresAt, record.condition,
    record.stepUnlocker, record.messageHash⟩

variable (p : Platform Address)

def asked (gift : GiftDocument) : Option (Lock Address) := do
  let sender ← p.account gift.senderPublicKey
  let receiver ← p.account gift.receiverPublicKey
  let token ← p.account gift.tokenContractId
  let encoding ← (encodeCondition (toConditionInput gift)).toOption
  let condition ← readCondition encoding
  let stepUnlocker ← p.account (gift.condition.stepUnlockerPublicKey.getD gift.senderPublicKey)
  return ⟨sender, receiver, token, gift.expiresAt.getTime / 1000, condition, stepUnlocker,
    p.rt.sha256 (utf8 gift.message)⟩

variable {p}

structure SameTerms (read gift : GiftDocument) : Prop where
  sender : gift.senderPublicKey = read.senderPublicKey
  receiver : gift.receiverPublicKey = read.receiverPublicKey
  token : gift.tokenContractId = read.tokenContractId
  message : gift.message = read.message
  expiresAt : gift.expiresAt = read.expiresAt
  condition : gift.condition =
    { read.condition with stepsCompleted := gift.condition.stepsCompleted }

theorem SameTerms.refl (gift : GiftDocument) : SameTerms gift gift := ⟨rfl, rfl, rfl, rfl, rfl, rfl⟩

theorem SameTerms.trans {first second third : GiftDocument} (early : SameTerms first second)
    (late : SameTerms second third) : SameTerms first third where
  sender := late.sender.trans early.sender
  receiver := late.receiver.trans early.receiver
  token := late.token.trans early.token
  message := late.message.trans early.message
  expiresAt := late.expiresAt.trans early.expiresAt
  condition := by
    rw [late.condition, early.condition]

theorem SameTerms.conditionInput {read gift : GiftDocument} (same : SameTerms read gift) :
    toConditionInput gift = toConditionInput read := by
  rw [toConditionInput, toConditionInput, same.condition]

theorem SameTerms.asked {read gift : GiftDocument} (same : SameTerms read gift) :
    asked p gift = asked p read := by
  have unlocker : gift.condition.stepUnlockerPublicKey = read.condition.stepUnlockerPublicKey := by
    rw [same.condition]
  rw [Backend.asked, Backend.asked, same.conditionInput, unlocker, same.sender, same.receiver,
    same.token, same.message, same.expiresAt]

structure Meets (p : Platform Address) (gift : GiftDocument) (lock : Lock Address) : Prop where
  sender : p.account gift.senderPublicKey = some lock.sender
  receiver : p.account gift.receiverPublicKey = some lock.receiver
  token : p.account gift.tokenContractId = some lock.token
  expiresAt : lock.expiresAt = gift.expiresAt.getTime / 1000
  condition : ∃ encoding, encodeCondition (toConditionInput gift) = .ok encoding ∧
    readCondition encoding = some lock.condition
  stepUnlocker : p.account (gift.condition.stepUnlockerPublicKey.getD gift.senderPublicKey) =
    some lock.stepUnlocker
  messageHash : lock.messageHash = p.rt.sha256 (utf8 gift.message)

theorem asked_meets {gift : GiftDocument} {lock : Lock Address} (asks : asked p gift = some lock) :
    Meets p gift lock := by
  simp only [asked, bind, Option.bind_eq_some_iff, pure, Option.some.injEq] at asks
  rcases asks with ⟨sender, senderNamed, receiver, receiverNamed, token, tokenNamed, encoding,
    encodes, condition, read, unlocker, unlockerNamed, rfl⟩
  refine ⟨senderNamed, receiverNamed, tokenNamed, rfl, ⟨encoding, ?_, read⟩, unlockerNamed, rfl⟩
  cases encoded : encodeCondition (toConditionInput gift) with
  | ok other =>
      rw [encoded] at encodes
      cases encodes
      rfl
  | error =>
      rw [encoded] at encodes
      cases encodes

/-- A transaction built from a document locks what it asks for, with its amount. -/
theorem built_asked {gift : GiftDocument} {built : Invocation} {args : CreateArgs Address}
    (builds : buildCreateGiftTx p.sdk (createGiftParams p.rt gift) = .ok built)
    (read : readCreateArgs p.address built.args = some args) :
    asked p gift = some args.lock ∧ p.sdk.i128 gift.amount = some args.initialAmount := by
  simp only [buildCreateGiftTx, createGiftParams, scU64_eq_ok, bind_eq_ok, orThrow_eq_ok,
    pure_eq_ok] at builds
  rcases builds with ⟨sender, senderEncoded, receiver, receiverEncoded, token, tokenEncoded, amount,
    amountEncoded, _, ⟨_, rfl⟩, condition, conditionEncoded, unlocker, unlockerEncoded, rfl⟩
  dsimp only at read
  unfold readCreateArgs at read
  split at read
  next _ _ _ _ _ _ _ _ _ same =>
    simp only [List.cons.injEq, ScVal.i128.injEq, ScVal.u64.injEq, ScVal.bytes.injEq,
      and_true] at same
    rcases same with ⟨rfl, rfl, rfl, rfl, rfl, rfl, rfl, rfl⟩
    simp only [bind, Option.bind_eq_some_iff, pure, Option.some.injEq, readBytes32_data] at read
    rcases read with ⟨who, whoNamed, other, otherNamed, coin, coinNamed, gate, gateRead, opener,
      openerNamed, _, rfl, rfl⟩
    constructor
    · simp only [asked, Platform.account, senderEncoded, receiverEncoded, tokenEncoded,
        unlockerEncoded, conditionEncoded, whoNamed, otherNamed, coinNamed, openerNamed,
        Except.toOption, gateRead, bind, Option.bind, pure, CreateArgs.lock]
    · exact amountEncoded
  next => cases read

end Locks

section Records

variable {Address : Type} [LinearOrder Address] {d : Escrow.Deployment Address}
  {s after : Escrow.State Address} {receipt : Escrow.Receipt Address}
  {action : Action Address (Escrow.Call Address)} {id : Nat}
  {record changed : Escrow.GiftRecord Address}

structure Grows (record changed : Escrow.GiftRecord Address) : Prop where
  lock : recordLock changed = recordLock record
  steps : record.stepsCompleted ≤ changed.stepsCompleted
  shares : ∀ who share, record.contributions.get who = some share →
    ∃ more, changed.contributions.get who = some more ∧ share.value ≤ more.value

theorem Grows.of_same (lock : recordLock changed = recordLock record)
    (steps : record.stepsCompleted ≤ changed.stepsCompleted)
    (same : changed.contributions = record.contributions) : Grows record changed where
  lock := lock
  steps := steps
  shares _ share held := ⟨share, same.symm ▸ held, le_refl _⟩

theorem Grows.refl (record : Escrow.GiftRecord Address) : Grows record record :=
  .of_same rfl (le_refl _) rfl

theorem Grows.trans {last : Escrow.GiftRecord Address} (early : Grows record changed)
    (late : Grows changed last) : Grows record last where
  lock := late.lock.trans early.lock
  steps := early.steps.trans late.steps
  shares who share held := by
    rcases early.shares who share held with ⟨more, kept, below⟩
    rcases late.shares who more kept with ⟨most, still, above⟩
    exact ⟨most, still, below.trans above⟩

theorem Grows.contributed {contributor : Address} {amount raised totalAmount : I128}
    (positive : 0 < amount.value)
    (raised_eq : raised.value =
      ((record.contributions.get contributor).getD I128.zero).value + amount.value) :
    Grows record { record with
      contributions := record.contributions.set contributor raised
      totalAmount := totalAmount } where
  lock := rfl
  steps := le_refl _
  shares who share held := by
    rw [SortedMap.get_set]
    split
    next same =>
      subst same
      rw [held, Option.getD_some] at raised_eq
      exact ⟨raised, rfl, by omega⟩
    next => exact ⟨share, held, le_refl _⟩

theorem step_grows (counted : Escrow.Counted s) (step : Escrow.Step d s action after receipt)
    (stored : s.gifts.get id = some record) :
    ∃ changed, after.gifts.get id = some changed ∧ Grows record changed := by
  have replaced : ∀ {target : Nat} {old new : Escrow.GiftRecord Address},
      s.gifts.get target = some old → Grows old new →
      ∃ changed, (s.gifts.set target new).get id = some changed ∧ Grows record changed := by
    intro target old new found grows
    rw [SortedMap.get_set]
    split
    next same =>
      subst same
      cases stored.symm.trans found
      exact ⟨new, rfl, grows⟩
    next => exact ⟨record, stored, .refl record⟩
  cases step with
  | @created _ _ _ _ _ _ _ _ _ new _ _ _ _ _ next =>
      have different : new ≠ id := by
        intro same
        subst same
        rw [counted.fresh next] at stored
        cases stored
      exact ⟨record, (SortedMap.get_set_ne _ different _).trans stored, .refl record⟩
  | contributed _ positive found _ _ _ raised_eq =>
      exact replaced found (.contributed positive raised_eq)
  | unlocked _ found => exact replaced found (.of_same rfl (Nat.le_succ _) rfl)
  | claimed _ found => exact replaced found (.of_same rfl (le_refl _) rfl)
  | refunded _ found => exact replaced found (.of_same rfl (le_refl _) rfl)
  | outside => exact ⟨record, stored, .refl record⟩

theorem next_grows (counted : Escrow.Counted s) (action : Action Address (Escrow.Call Address))
    (stored : s.gifts.get id = some record) :
    ∃ changed, ((Escrow.machine d).next s action).gifts.get id = some changed ∧
      Grows record changed := by
  rcases Escrow.next_cases (d := d) s action with ⟨receipt, _, step⟩ | ⟨_, same⟩
  · exact step_grows counted step stored
  · exact ⟨record, same.symm ▸ stored, .refl record⟩

theorem created_lock {env : Env Address} {args : CreateArgs Address}
    (ran : Escrow.exec d s (.invoke env args.call) = .ok (after, receipt))
    (named : receipt.giftId = some id) :
    ∃ record, after.gifts.get id = some record ∧ recordLock record = args.lock ∧
      record.contributions.get record.sender = some args.initialAmount := by
  have step := Escrow.exec_step ran
  rw [CreateArgs.call] at step
  cases step with
  | created _ _ _ _ is_new =>
      cases named
      refine ⟨_, SortedMap.get_set_self .., ?_, ?_⟩
      · rw [is_new]
        rfl
      · rw [is_new]
        exact SortedMap.get_set_self ..

theorem created_id_lt {env : Env Address} {args : CreateArgs Address}
    (ran : Escrow.exec d s (.invoke env args.call) = .ok (after, receipt))
    (named : receipt.giftId = some id) : id < 2 ^ 64 := by
  simp only [CreateArgs.call, Escrow.exec, Escrow.invoke, Escrow.createGift, bind_eq_ok,
    Escrow.nextGiftId_eq_ok, pure_eq_ok, Prod.mk.injEq] at ran
  rcases ran with ⟨_, _, _, _, _, _, _, _, new, ⟨_, fits⟩, _, same⟩
  rw [← same] at named
  cases named
  exact fits

end Records

section Builds

variable {Address : Type} [LinearOrder Address] {p : Platform Address} {w after : World Address}
  {act : Act Address} {wrote : Option GiftStatus} {Q Wanted : CreateArgs Address → Prop}

def Task.Builds (p : Platform Address) (Q : CreateArgs Address → Prop) : Task Address → Prop
  | .building _ built => ∀ args, readCreateArgs p.address built.args = some args → Q args
  | .simulating _ built _ _ => ∀ args, readCreateArgs p.address built.args = some args → Q args
  | .savingBuild _ _ _ args => Q args
  | _ => True

structure BuiltWith (p : Platform Address) (Q : CreateArgs Address → Prop) (w : World Address) :
    Prop where
  tasks : ∀ task ∈ w.tasks, task.Builds p Q
  txs : ∀ args ∈ w.txs.map CreateTx.args, Q args

omit [LinearOrder Address] in
theorem handedOver_args (tx : CreateTx Address) : tx.handedOver.args = tx.args := by
  unfold CreateTx.handedOver
  split <;> rfl

theorem Task.Builds.mono (weaker : ∀ args, Q args → Wanted args) {task : Task Address}
    (builds : task.Builds p Q) : task.Builds p Wanted := by
  cases task with
  | building => exact fun args read => weaker args (builds args read)
  | simulating => exact fun args read => weaker args (builds args read)
  | savingBuild => exact weaker _ builds
  | _ => trivial

theorem BuiltWith.mono (weaker : ∀ args, Q args → Wanted args) (builtWith : BuiltWith p Q w) :
    BuiltWith p Wanted w where
  tasks task member := (builtWith.tasks task member).mono weaker
  txs args member := weaker args (builtWith.txs args member)

theorem BuiltWith.start (builtWith : BuiltWith p Q w) {new : Task Address}
    (builds : new.Builds p Q) : BuiltWith p Q (w.start new) where
  tasks task member := by
    rcases mem_start member with old | rfl
    · exact builtWith.tasks task old
    · exact builds
  txs := builtWith.txs

theorem BuiltWith.put (builtWith : BuiltWith p Q w) (k : Nat) {new : Task Address}
    (builds : new.Builds p Q) : BuiltWith p Q (w.put k new) where
  tasks task member := by
    rcases mem_put member with old | rfl
    · exact builtWith.tasks task old
    · exact builds
  txs := builtWith.txs

theorem BuiltWith.done (builtWith : BuiltWith p Q w) (k : Nat) : BuiltWith p Q (w.put k .done) :=
  builtWith.put k trivial

theorem BuiltWith.of_same (builtWith : BuiltWith p Q w) (tasks : after.tasks = w.tasks)
    (txs : after.txs.map CreateTx.args = w.txs.map CreateTx.args) : BuiltWith p Q after where
  tasks := tasks.symm ▸ builtWith.tasks
  txs := txs.symm ▸ builtWith.txs

theorem BuiltWith.running (builtWith : BuiltWith p Q w) {k : Nat} {task : Task Address}
    (running : w.tasks[k]? = some task) : task.Builds p Q :=
  builtWith.tasks task (List.mem_of_getElem? running)

def Act.builds : Act Address → Bool
  | .build | .fetchAccount _ | .simulate .. | .saveBuild _ => true
  | _ => false

theorem step_builtWith (step : Step p w act after wrote) (builtWith : BuiltWith p Q w)
    (other : act.builds = false) : BuiltWith p Q after := by
  cases step with
  | built => cases other
  | fetched => cases other
  | simulated => cases other
  | savedBuild => cases other
  | submitted => exact builtWith.start trivial
  | submittedOther => exact builtWith.start trivial
  | @sent k t answer reaches read next running goesOn =>
      have plain : next.Builds p Q := by
        rcases goesOn with rfl | rfl
        · trivial
        · trivial
      exact (builtWith.put k plain).of_same rfl (map_handed handedOver_args w.txs t _)
  | seen => exact builtWith.put _ trivial
  | savedSubmit => exact (builtWith.done _).of_same rfl rfl
  | answered => exact builtWith.put _ trivial
  | savedOther => exact (builtWith.done _).of_same rfl rfl
  | ended => exact builtWith.done _
  | reconciling => exact builtWith.start trivial
  | readChain => exact builtWith.put _ trivial
  | savedStatus => exact (builtWith.done _).of_same rfl rfl
  | settled placed => exact builtWith.of_same rfl (Updates.map_set_same placed rfl)
  | rejected placed => exact builtWith.of_same rfl (Updates.map_set_same placed rfl)
  | _ => exact builtWith.of_same rfl rfl

/-- A build takes its arguments from the document it reads; no other action builds. -/
theorem exec_builtWith (ran : exec p w act = .ok (after, wrote)) (builtWith : BuiltWith p Q w)
    (fresh : ∀ built args, buildCreateGiftTx p.sdk (createGiftParams p.rt w.gift) = .ok built →
      readCreateArgs p.address built.args = some args → Q args) : BuiltWith p Q after := by
  have step := exec_step ran
  cases act with
  | build =>
      simp only [exec, build, bind_eq_ok, orRefuse_eq_ok, orFail_eq_ok, pure_eq_ok,
        Prod.mk.injEq] at ran
      rcases ran with ⟨_, _, built, builds, rfl, _⟩
      exact builtWith.start fun args read => fresh built args builds read
  | fetchAccount k =>
      simp only [exec, fetchAccount] at ran
      split at ran
      next read built running =>
        cases ran
        have builds := builtWith.running running
        exact builtWith.put k builds
      next => cases ran
  | simulate k env =>
      simp only [exec, simulate] at ran
      split at ran
      next read built sequence maxTime running =>
        split at ran
        next args simulates =>
          cases ran
          apply builtWith.put k
          simp only [simulated, bind, Option.bind_eq_some_iff] at simulates
          rcases simulates with ⟨found, read, returned⟩
          split at returned
          next =>
            cases returned
            exact builtWith.running running _ read
          next => cases returned
        next =>
          cases ran
          exact builtWith.done k
      next => cases ran
  | saveBuild k =>
      simp only [exec, saveBuild] at ran
      split at ran
      next read sequence maxTime args running =>
        cases ran
        constructor
        · exact (builtWith.done k).tasks
        · intro other member
          rw [List.map_append] at member
          rcases List.mem_append.mp member with old | new
          · exact builtWith.txs other old
          · rw [List.mem_singleton.mp new]
            exact builtWith.running running
      next => cases ran
  | _ => exact step_builtWith step builtWith rfl

end Builds

section Steps

variable {Address : Type} [LinearOrder Address] {p : Platform Address} {w after : World Address}
  {act : Act Address} {wrote : Option GiftStatus} {draft : GiftDocument}

theorem savedBuild_terms (read stored : GiftDocument) : SameTerms stored (savedBuild read stored) := by
  unfold savedBuild
  split
  · exact .refl stored
  · exact ⟨rfl, rfl, rfl, rfl, rfl, rfl⟩

theorem savedTxHash_terms (stored : GiftDocument) (leg : Leg) (txHash : Text) :
    SameTerms stored (savedTxHash stored leg txHash) := by
  cases leg with
  | claim => exact ⟨rfl, rfl, rfl, rfl, rfl, rfl⟩
  | refund => exact ⟨rfl, rfl, rfl, rfl, rfl, rfl⟩

theorem step_terms (step : Step p w act after wrote) : SameTerms w.gift after.gift := by
  cases step with
  | savedBuild => exact savedBuild_terms _ _
  | savedTxHash => exact savedTxHash_terms _ _ _
  | savedSubmit => exact ⟨rfl, rfl, rfl, rfl, rfl, rfl⟩
  | savedOther => exact ⟨rfl, rfl, rfl, rfl, rfl, rfl⟩
  | savedStatus => exact ⟨rfl, rfl, rfl, rfl, rfl, rfl⟩
  | marked => exact ⟨rfl, rfl, rfl, rfl, rfl, rfl⟩
  | _ => exact .refl _

theorem step_landing (step : Step p w act after wrote) {t id : Nat}
    (landed : after.landed t = some id) : w.landed t = some id ∨
      ∃ env tx receipt, w.txs[t]? = some tx ∧ w.Due tx ∧
        Escrow.exec p.escrow w.escrow (.invoke env tx.args.call) = .ok (after.escrow, receipt) ∧
        receipt.giftId = some id := by
  cases step with
  | savedBuild _ unsent =>
      left
      rw [← landed]
      exact (landed_append (by rw [CreateTx.created?, unsent]) t).symm
  | sent => exact Or.inl ((landed_handed _ _ t).symm.trans landed)
  | @settled s env tx escrow receipt placed due accepted =>
      have outcome := (landed_set _ placed t).symm.trans landed
      split at outcome
      next same =>
        subst same
        rw [fateOf_created] at outcome
        exact Or.inr ⟨env, tx, receipt, placed, due, accepted, outcome⟩
      next => exact Or.inl outcome
  | rejected placed due =>
      have outcome := (landed_set _ placed t).symm.trans landed
      split at outcome
      next => cases outcome
      next => exact Or.inl outcome
  | _ => exact Or.inl landed

theorem step_stored_grows (step : Step p w act after wrote) (counted : Escrow.Counted w.escrow)
    {id : Nat} {record : Escrow.GiftRecord Address} (stored : w.escrow.gifts.get id = some record) :
    ∃ changed, after.escrow.gifts.get id = some changed ∧ Grows record changed := by
  rcases step_escrow step with same | ⟨action, moved⟩
  · exact ⟨record, same.symm ▸ stored, .refl record⟩
  · rw [moved]
    exact next_grows counted action stored

theorem step_creates (step : Step p w act after wrote) (landed : w.creates ≠ []) :
    after.creates ≠ [] := by
  rcases List.exists_mem_of_ne_nil _ landed with ⟨id, created⟩
  rcases mem_creates.mp created with ⟨t, before⟩
  exact List.ne_nil_of_mem (mem_creates.mpr ⟨t, step_landed step before⟩)

/-- The document, the transactions and the gifts they created all have the draft's lock. -/
structure Faithful (p : Platform Address) (draft : GiftDocument) (w : World Address) : Prop where
  counted : Escrow.Counted w.escrow
  document : SameTerms draft w.gift
  built : BuiltWith p (fun args => asked p draft = some args.lock) w
  bounded : ∀ id ∈ w.creates, id < 2 ^ 64
  locked : ∀ id ∈ w.creates, ∃ record, w.escrow.gifts.get id = some record ∧
    asked p draft = some (recordLock record)

theorem exec_faithful (ran : exec p w act = .ok (after, wrote)) (faithful : Faithful p draft w) :
    Faithful p draft after where
  counted := step_counted (exec_step ran) faithful.counted
  document := faithful.document.trans (step_terms (exec_step ran))
  built := by
    apply exec_builtWith ran faithful.built
    intro built args builds read
    rw [← faithful.document.asked]
    exact (built_asked builds read).1
  bounded := by
    intro id created
    rcases mem_creates.mp created with ⟨t, landed⟩
    rcases step_landing (exec_step ran) landed with before | ⟨_, _, _, _, _, taken, named⟩
    · exact faithful.bounded id (mem_creates.mpr ⟨t, before⟩)
    · exact created_id_lt taken named
  locked := by
    intro id created
    rcases mem_creates.mp created with ⟨t, landed⟩
    rcases step_landing (exec_step ran) landed with
      before | ⟨env, tx, receipt, placed, _, taken, named⟩
    · rcases faithful.locked id (mem_creates.mpr ⟨t, before⟩) with ⟨record, stored, lock⟩
      rcases step_stored_grows (exec_step ran) faithful.counted stored with
        ⟨changed, kept, grows⟩
      exact ⟨changed, kept, grows.lock.symm ▸ lock⟩
    · rcases created_lock taken named with ⟨record, stored, lock, _⟩
      have signed := faithful.built.txs tx.args
        (List.mem_map_of_mem (List.mem_of_getElem? placed))
      exact ⟨record, stored, lock.symm ▸ signed⟩

def Task.reconciles : Task Address → Bool
  | .readingChain _ => true
  | .savingStatus _ _ => true
  | _ => false

/-- Until a gift is created the amount is the draft's, and then it is the sender's share. -/
structure Priced (p : Platform Address) (draft : GiftDocument) (w : World Address) : Prop where
  anchored : Anchored w
  tracked : Tracked w
  amount : w.creates = [] → w.gift.amount = draft.amount
  reconciling : ∀ task ∈ w.tasks, task.reconciles = true → w.creates ≠ []
  built : BuiltWith p
    (fun args => w.creates = [] → p.sdk.i128 draft.amount = some args.initialAmount) w
  share : ∀ id ∈ w.creates, ∃ record amount share, w.escrow.gifts.get id = some record ∧
    p.sdk.i128 draft.amount = some amount ∧
    record.contributions.get record.sender = some share ∧ amount.value ≤ share.value

theorem savedBuild_amount (read stored : GiftDocument) :
    (savedBuild read stored).amount = stored.amount := by
  unfold savedBuild
  split <;> rfl

theorem savedTxHash_amount (stored : GiftDocument) (leg : Leg) (txHash : Text) :
    (savedTxHash stored leg txHash).amount = stored.amount := by
  cases leg <;> rfl

theorem step_amount (step : Step p w act after wrote) :
    after.gift.amount = w.gift.amount ∨ ∃ task ∈ w.tasks, task.reconciles = true := by
  cases step with
  | savedBuild => exact Or.inl (savedBuild_amount _ _)
  | savedTxHash => exact Or.inl (savedTxHash_amount _ _ _)
  | savedStatus running => exact Or.inr ⟨_, List.mem_of_getElem? running, rfl⟩
  | _ => exact Or.inl rfl

theorem step_reconciling (step : Step p w act after wrote) (anchored : Anchored w)
    (reconciling : ∀ task ∈ w.tasks, task.reconciles = true → w.creates ≠ []) :
    ∀ task ∈ after.tasks, task.reconciles = true → w.creates ≠ [] := by
  intro task member reconciles
  rcases step_tasks step member with old | learns
  · exact reconciling task old reconciles
  · cases learns with
    | nothing uninformed => cases task <;> cases reconciles <;> cases uninformed
    | created => cases reconciles
    | told => cases reconciles
    | named named =>
        rcases bigInt_named named with ⟨text, held⟩
        rcases anchored.pointed text held with ⟨id, created, _⟩
        exact List.ne_nil_of_mem created
    | stored reading => exact reconciling _ reading rfl

/-- A build fetches the account only while none of the draft's transactions has landed, and only
what a build returned is submitted. -/
def Regular (w : World Address) : Act Address → Prop
  | .fetchAccount _ => w.creates = []
  | .submitOther => False
  | _ => True

instance (w : World Address) : DecidablePred (Regular w)
  | .fetchAccount _ => inferInstanceAs (Decidable (_ = _))
  | .submitOther => isFalse not_false
  | .tick _ | .build | .simulate .. | .saveBuild _ | .submit _ | .send .. | .poll _ | .answerOther ..
  | .saveSubmit .. | .drop _ | .markRefundPending | .reconcile | .readChain _ | .saveStatus _
  | .saveTxHash .. | .settle .. | .bump | .chain _ => isTrue trivial

theorem exec_priced (ran : exec p w act = .ok (after, wrote)) (priced : Priced p draft w)
    (regular : Regular w act) : Priced p draft after := by
  have step := exec_step ran
  have anchored := priced.anchored
  have none_before : after.creates = [] → w.creates = [] := by
    intro none_after
    by_contra landed
    exact step_creates step landed none_after
  constructor
  · apply step_anchored step anchored
    rintro rfl
    exact regular
  · apply step_tracked step anchored priced.tracked
    rintro k rfl
    exact regular
  · intro none_after
    rcases step_amount step with same | ⟨task, member, reconciles⟩
    · exact same.trans (priced.amount (none_before none_after))
    · exact absurd (none_before none_after) (priced.reconciling task member reconciles)
  · intro task member reconciles
    exact step_creates step
      (step_reconciling step anchored priced.reconciling task member reconciles)
  · have built : BuiltWith p
        (fun args => w.creates = [] → p.sdk.i128 draft.amount = some args.initialAmount) after := by
      apply exec_builtWith ran priced.built
      intro built args builds read unlanded
      rw [← priced.amount unlanded]
      exact (built_asked builds read).2
    exact built.mono fun args holds none_after => holds (none_before none_after)
  · intro id created
    rcases mem_creates.mp created with ⟨t, landed⟩
    rcases step_landing step landed with before | ⟨env, tx, receipt, placed, due, taken, named⟩
    · rcases priced.share id (mem_creates.mpr ⟨t, before⟩) with
        ⟨record, amount, share, stored, drafted, held, enough⟩
      rcases step_stored_grows step anchored.counted stored with ⟨changed, kept, grows⟩
      rcases grows.shares _ _ held with ⟨more, still, most⟩
      have sender : changed.sender = record.sender := congrArg Lock.sender grows.lock
      exact ⟨changed, amount, more, kept, drafted, sender.symm ▸ still, enough.trans most⟩
    · rcases created_lock taken named with ⟨record, stored, _, own⟩
      have signed := priced.built.txs tx.args
        (List.mem_map_of_mem (List.mem_of_getElem? placed))
        (priced.tracked.nothing_landed placed due)
      exact ⟨record, _, _, stored, signed, own, le_refl _⟩

end Steps

section Runs

variable {Address : Type} [LinearOrder Address] {p : Platform Address} {draft : GiftDocument}
  {past : List (Action Address (Escrow.Call Address))} {now : Instant} {sequence : Nat}

theorem freshly_anchored (unnamed : draft.contractGiftId = none) :
    Anchored (World.freshly p past now draft sequence) :=
  drafted_anchored sequence (Escrow.run_counted p.escrow past) unnamed

theorem freshly_builtWith (Q : CreateArgs Address → Prop) :
    BuiltWith p Q (World.freshly p past now draft sequence) where
  tasks task member := by cases member
  txs args member := by cases member

theorem freshly_faithful :
    Faithful p draft (World.freshly p past now draft sequence) where
  counted := Escrow.run_counted p.escrow past
  document := .refl draft
  built := freshly_builtWith _
  bounded _ created := by cases created
  locked _ created := by cases created

theorem freshly_priced (unnamed : draft.contractGiftId = none) :
    Priced p draft (World.freshly p past now draft sequence) where
  anchored := freshly_anchored unnamed
  tracked := (drafted_kept sequence (Escrow.run_counted p.escrow past) unnamed).tracked
  amount _ := rfl
  reconciling _ member := by cases member
  built := freshly_builtWith _
  share _ created := by cases created

theorem next_faithful (w : World Address) (act : Act Address) (faithful : Faithful p draft w) :
    Faithful p draft ((machine p).next w act) := by
  unfold Runs.Machine.next
  split
  next ran => exact exec_faithful ran faithful
  next => exact faithful

theorem next_priced (w : World Address) (act : Act Address) (priced : Priced p draft w)
    (regular : Regular w act) : Priced p draft ((machine p).next w act) := by
  unfold Runs.Machine.next
  split
  next ran => exact exec_priced ran priced regular
  next => exact priced

theorem run_faithful (acts : List (Act Address)) :
    Faithful p draft ((machine p).final (World.freshly p past now draft sequence) acts) :=
  Runs.Machine.state_invariant (Faithful p draft) (fun _ _ => True) freshly_faithful
    (fun w act faithful _ => next_faithful w act faithful) acts fun _ _ => trivial

theorem run_priced (unnamed : draft.contractGiftId = none) (acts : List (Act Address))
    (regular : ∀ entry ∈ (machine p).trace (World.freshly p past now draft sequence) acts,
      Regular entry.before entry.call) :
    Priced p draft ((machine p).final (World.freshly p past now draft sequence) acts) :=
  Runs.Machine.state_invariant (Priced p draft) Regular (freshly_priced unnamed) next_priced acts
    regular

/-- In every run of handlers, sweeps and ledger steps for one draft. The amount is the text of the
document as the contract is sent it, in the token's smallest unit. -/
theorem locked_as_drafted (p : Platform Address)
    (past : List (Action Address (Escrow.Call Address))) (now : Instant) (token : Text)
    (input : CreateGiftInput) (draft : GiftDocument)
    (drafted : createDraft p.rt now token input = .ok draft) (sequence : Nat)
    (acts : List (Act Address)) (w : World Address)
    (ran : w = (machine p).final (World.freshly p past now draft sequence) acts) :
    asked p w.gift = asked p draft ∧
    (∀ id ∈ w.creates, ∃ record, w.escrow.gifts.get id = some record ∧
      asked p draft = some (recordLock record)) ∧
    ((∀ entry ∈ (machine p).trace (World.freshly p past now draft sequence) acts,
        Regular entry.before entry.call) →
      ∀ id ∈ w.creates, ∃ record amount share, w.escrow.gifts.get id = some record ∧
        p.sdk.i128 draft.amount = some amount ∧
        record.contributions.get record.sender = some share ∧ amount.value ≤ share.value) := by
  have unnamed : draft.contractGiftId = none := by
    rcases createDraft_eq_ok drafted with ⟨_, _, _, _, rfl⟩
    rfl
  have faithful : Faithful p draft w := ran.symm ▸ run_faithful acts
  refine ⟨faithful.document.asked, faithful.locked, ?_⟩
  intro regular
  have priced : Priced p draft w := ran.symm ▸ run_priced unnamed acts regular
  exact priced.share

theorem locked_as_drafted_sample :
    let w := (machine samplePlatform).final sampleWorld sampleActive
    ∃ record amount share, w.escrow.gifts.get 1 = some record ∧
      sampleSdk.i128 sampleDraft.amount = some amount ∧
      record.contributions.get record.sender = some share ∧ amount.value ≤ share.value :=
  (locked_as_drafted samplePlatform samplePast sampleStart [] (sampleInput "10") sampleDraft rfl 0
    sampleActive _ rfl).2.2 (by decide +kernel) 1 (by decide +kernel)

end Runs

end Giffy.Backend
