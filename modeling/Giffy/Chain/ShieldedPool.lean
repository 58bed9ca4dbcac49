import Mathlib.Data.List.Sort
import Giffy.Pool.Contract

/-! The read side of the pool: the RPC server's event pages and the loop over them. -/

namespace Giffy.Chain

structure ContractEvent where
  ledger : Nat
  event : Pool.Event
  txHash : Text
deriving DecidableEq

structure DepositEvent where
  leafIndex : Nat
  commitment : Text
  ledger : Nat
  txHash : Text
deriving DecidableEq

structure DepositEventPage where
  events : List DepositEvent
  latestLedger : Nat

/-- One answer of `getEvents`; a cursor stands for the number of the pool's events up to the
place it marks. -/
structure EventPage where
  events : List ContractEvent
  cursor : Option Nat
  latestLedger : Nat

inductive EventRequest
  | startLedger (ledger : Nat)
  | cursor (seen : Nat)

def pageLimit : Nat := 200

def toHex (value : List UInt8) : Text := (Hex.encode value).leftpad 64 '0'

/-- Only the event whose first topic is the symbol `deposit` is kept. -/
def depositEvent (ev : ContractEvent) : Option DepositEvent :=
  match ev.event with
  | .deposit leafIndex commitment => some ⟨leafIndex, toHex commitment.data, ev.ledger, ev.txHash⟩
  | .withdraw _ => none

structure Paging where
  startLedger : Nat
  cursor : Option Nat
  collected : List DepositEvent

def Paging.first (startLedger : Nat) : Paging := ⟨startLedger, none, []⟩

def Paging.request (paging : Paging) : EventRequest :=
  match paging.cursor with
  | some seen => .cursor seen
  | none => .startLedger paging.startLedger

def sortLeaves (events : List DepositEvent) : List DepositEvent :=
  events.insertionSort fun a b => a.leafIndex ≤ b.leafIndex

inductive Paged
  | more (paging : Paging)
  | drained (page : DepositEventPage)

def readPage (paging : Paging) (page : EventPage) : Paged :=
  let collected := paging.collected ++ page.events.filterMap depositEvent
  if page.events.length < pageLimit ∨ page.cursor = none then
    .drained ⟨sortLeaves collected, page.latestLedger⟩
  else .more { paging with cursor := page.cursor, collected }

section Server

variable (events : List ContractEvent) (latest : Nat)

def EventRequest.skips : EventRequest → Nat
  | .startLedger ledger => (events.takeWhile fun ev => ev.ledger < ledger).length
  | .cursor seen => seen

theorem request_skips {paging : Paging} {seen : Nat} (marked : paging.cursor = some seen) :
    paging.request.skips events = seen := by
  rw [Paging.request, marked]
  rfl

/-- A page holds the next events, at most the limit and possibly fewer, and marks where it
ended. -/
structure Documented (request : EventRequest) (page : EventPage) : Prop where
  next : page.events <+: events.drop (request.skips events)
  limit : page.events.length ≤ pageLimit
  cursor : page.cursor = some (request.skips events + page.events.length)
  latestLedger : page.latestLedger = latest

instance (request : EventRequest) (page : EventPage) :
    Decidable (Documented events latest request page) :=
  decidable_of_iff
    (page.events <+: events.drop (request.skips events) ∧ page.events.length ≤ pageLimit ∧
      page.cursor = some (request.skips events + page.events.length) ∧
      page.latestLedger = latest)
    ⟨fun ⟨next, limit, cursor, newest⟩ => ⟨next, limit, cursor, newest⟩,
      fun ⟨next, limit, cursor, newest⟩ => ⟨next, limit, cursor, newest⟩⟩

end Server

theorem depositEvent_ledger {ev : ContractEvent} {dep : DepositEvent}
    (decoded : depositEvent ev = some dep) : dep.ledger = ev.ledger := by
  unfold depositEvent at decoded
  split at decoded
  next =>
    cases decoded
    rfl
  next => cases decoded

section Passes

variable {paging next : Paging} {page : EventPage} {drained : DepositEventPage}

theorem readPage_more (read : readPage paging page = .more next) :
    ¬page.events.length < pageLimit ∧
      next = ⟨paging.startLedger, page.cursor,
        paging.collected ++ page.events.filterMap depositEvent⟩ := by
  unfold readPage at read
  dsimp only at read
  split at read
  next => cases read
  next goesOn =>
    cases read
    exact ⟨fun short => goesOn (Or.inl short), rfl⟩

theorem readPage_drained (read : readPage paging page = .drained drained) :
    (page.events.length < pageLimit ∨ page.cursor = none) ∧
      drained = ⟨sortLeaves (paging.collected ++ page.events.filterMap depositEvent),
        page.latestLedger⟩ := by
  unfold readPage at read
  dsimp only at read
  split at read
  next ended =>
    cases read
    exact ⟨ended, rfl⟩
  next => cases read

@[simp] theorem mem_sortLeaves {dep : DepositEvent} {deps : List DepositEvent} :
    dep ∈ sortLeaves deps ↔ dep ∈ deps :=
  List.mem_insertionSort _

end Passes

theorem toHex_bytes32 (b : BytesN 32) : toHex b.data = Hex.encode b.data := by
  have width : (Hex.encode b.data).length = 64 := by rw [Hex.encode_length, b.width]
  rw [toHex, List.leftpad, width]
  rfl

end Giffy.Chain
