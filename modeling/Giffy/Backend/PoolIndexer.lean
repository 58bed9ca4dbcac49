import Giffy.Chain.ShieldedPool
import Giffy.Foundation.Decimal
import Giffy.Pool.Tree

/-! The deposit indexer: the pool's ledgers, the leaf cache, the stored resume ledger and any
number of sync calls in flight. Every leg of a sync between two awaits is one action. -/

namespace Giffy.PoolIndexer

open Chain

structure Leaf where
  poolId : Text
  leafIndex : Nat
  commitment : Text
  ledger : Nat
  txHash : Text
deriving DecidableEq

/-- `{ poolId, ...ev }` -/
def leafOf (poolId : Text) (ev : DepositEvent) : Leaf :=
  ⟨poolId, ev.leafIndex, ev.commitment, ev.ledger, ev.txHash⟩

inductive Task
  | locating
  | paging (paging : Paging)
  | writing (startLedger : Nat) (remaining : List DepositEvent) (latestLedger indexed : Nat)
  | counting (indexed : Nat)
  | done

/-- The newest ledger, the calls made to the pool and the events they emitted, the cache, the
resume ledger of the pool and the syncs in flight. -/
structure World (Address : Type) where
  latest : Nat
  actions : List (Action Address (Pool.Call Address))
  events : List ContractEvent
  leaves : List Leaf
  lastLedger : Option Nat
  tasks : List Task

/-- The pool contract, its id, and `SHIELDED_POOL_START_LOOKBACK`. -/
structure Setup (Address : Type) where
  pool : Pool.Deployment Address
  poolId : Text
  lookback : Nat

inductive Act (Address : Type)
  /-- the network closes a ledger with these calls of the pool -/
  | close (txs : List (Action Address (Pool.Call Address) × Text))
  | start
  | locate (k sequence : Nat)
  | page (k : Nat) (answer : EventPage)
  | upsert (k : Nat)
  | store (k : Nat)
  | count (k : Nat)
  | drop (k : Nat)

inductive Report
  | nothing
  | stored (startLedger lastLedger : Nat)
  | returned (poolId : Text) (indexed total : Nat)
deriving DecidableEq

inductive Refused
  | notRunning
deriving DecidableEq

section Legs

variable {Address : Type} [DecidableEq Address] (setup : Setup Address) (w : World Address)

abbrev Moved (Address : Type) := Except Refused (World Address × Report)

def World.past : List (Pool.Entry Address) :=
  (Pool.machine setup.pool).trace Pool.State.empty w.actions

def World.pool : Pool.State Address :=
  (Pool.machine setup.pool).final Pool.State.empty w.actions

def emitted (s : Pool.State Address) (ledger : Nat) (action : Action Address (Pool.Call Address))
    (txHash : Text) : List ContractEvent :=
  match (Pool.machine setup.pool).outcome s action with
  | .ok receipt => receipt.events.map fun event => ⟨ledger, event, txHash⟩
  | .error _ => []

def World.take (tx : Action Address (Pool.Call Address) × Text) : World Address :=
  { w with
    actions := w.actions ++ [tx.1]
    events := w.events ++ emitted setup (w.pool setup) (w.latest + 1) tx.1 tx.2 }

def World.start (task : Task) : World Address := { w with tasks := w.tasks ++ [task] }

def World.put (k : Nat) (task : Task) : World Address := { w with tasks := w.tasks.set k task }

def close (txs : List (Action Address (Pool.Call Address) × Text)) : Moved Address :=
  .ok ({ txs.foldl (World.take setup) w with latest := w.latest + 1 }, .nothing)

/-- Up to the first request after the resume ledger is read. -/
def start : Moved Address :=
  let startLedger := w.lastLedger.getD 0
  .ok (w.start (if startLedger = 0 then .locating else .paging (Paging.first startLedger)),
    .nothing)

def locate (k sequence : Nat) : Moved Address :=
  match w.tasks[k]? with
  | some .locating =>
      .ok (w.put k (.paging (Paging.first (max 1 (sequence - setup.lookback)))), .nothing)
  | _ => .error .notRunning

def page (k : Nat) (answer : EventPage) : Moved Address :=
  match w.tasks[k]? with
  | some (.paging paging) =>
      match readPage paging answer with
      | .more next => .ok (w.put k (.paging next), .nothing)
      | .drained found =>
          .ok (w.put k (.writing paging.startLedger found.events found.latestLedger 0), .nothing)
  | _ => .error .notRunning

/-- The filter of the upsert; the unique index keeps it to one document. -/
def matching (ev : DepositEvent) (leaf : Leaf) : Bool :=
  leaf.poolId = setup.poolId && leaf.leafIndex = ev.leafIndex

def upsert (k : Nat) : Moved Address :=
  match w.tasks[k]? with
  | some (.writing startLedger (ev :: rest) latestLedger indexed) =>
      if w.leaves.any (matching setup ev) then
        .ok (w.put k (.writing startLedger rest latestLedger indexed), .nothing)
      else
        .ok ({ w.put k (.writing startLedger rest latestLedger (indexed + 1)) with
          leaves := w.leaves ++ [leafOf setup.poolId ev] }, .nothing)
  | _ => .error .notRunning

def store (k : Nat) : Moved Address :=
  match w.tasks[k]? with
  | some (.writing startLedger [] latestLedger indexed) =>
      .ok ({ w.put k (.counting indexed) with lastLedger := some latestLedger },
        .stored startLedger latestLedger)
  | _ => .error .notRunning

def count (k : Nat) : Moved Address :=
  match w.tasks[k]? with
  | some (.counting indexed) =>
      .ok (w.put k .done, .returned setup.poolId indexed
        (w.leaves.countP fun leaf => leaf.poolId = setup.poolId))
  | _ => .error .notRunning

def drop (k : Nat) : Moved Address :=
  if k < w.tasks.length then .ok (w.put k .done, .nothing) else .error .notRunning

def exec : Act Address → Moved Address
  | .close txs => close setup w txs
  | .start => start w
  | .locate k sequence => locate setup w k sequence
  | .page k answer => page w k answer
  | .upsert k => upsert setup w k
  | .store k => store w k
  | .count k => count setup w k
  | .drop k => drop w k

abbrev machine : Runs.Machine (World Address) (Act Address) Refused Report := ⟨exec setup⟩

/-- Before the first ledger, with whatever resume ledger and other pools' leaves there are. -/
def World.fresh (Address : Type) (others : List Leaf) (lastLedger : Option Nat) : World Address :=
  ⟨0, [], [], others, lastLedger, []⟩

end Legs

section Serving

structure LeafGap where
  index : Nat
  found : Nat
deriving DecidableEq

def LeafGap.message (gap : LeafGap) : Text :=
  "Pool leaf gap at index ".toList ++ Decimal.ofNat gap.index ++ " (found ".toList ++
    Decimal.ofNat gap.found ++ "); indexer is behind or missed events.".toList

structure OrderedCommitments where
  commitments : List Text
  count : Nat

def commitmentsFrom (i : Nat) : List Leaf → Except LeafGap (List Text)
  | [] => .ok []
  | leaf :: rest =>
      if leaf.leafIndex ≠ i then .error ⟨i, leaf.leafIndex⟩
      else
        match commitmentsFrom (i + 1) rest with
        | .ok commitments => .ok (leaf.commitment :: commitments)
        | .error gap => .error gap

def poolLeaves (poolId : Text) (leaves : List Leaf) : List Leaf :=
  (leaves.filter fun leaf => leaf.poolId = poolId).insertionSort fun a b =>
    a.leafIndex ≤ b.leafIndex

def getOrderedCommitments (poolId : Text) (leaves : List Leaf) :
    Except LeafGap OrderedCommitments :=
  match commitmentsFrom 0 (poolLeaves poolId leaves) with
  | .ok commitments => .ok ⟨commitments, commitments.length⟩
  | .error gap => .error gap

end Serving

end Giffy.PoolIndexer
