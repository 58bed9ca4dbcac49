import Giffy.Backend.Lifecycle

/-! `submitContributeTransaction`: one gift's document, the contribute requests in flight for
it and the transactions they carry. Every leg of a request between two awaits is one action. -/

namespace Giffy.Backend.Contributions

open Chain

inductive Fate (Address : Type) [LT Address]
  | signed
  | sent
  | landed (entries : List (Escrow.Entry Address))
  | failed

/-- The calls of the escrow contract that a transaction makes. The network runs all or none. -/
structure SignedTx (Address : Type) [LT Address] where
  calls : List (Escrow.Call Address)
  fate : Fate Address

section Stages

variable {Address : Type} [LT Address]

def SignedTx.handedOver (tx : SignedTx Address) : SignedTx Address :=
  match tx.fate with
  | .signed => { tx with fate := .sent }
  | _ => tx

structure ContributeSubmitBody extends ContributeBody where
  signedXdr : Text

def contributeSubmitSchema (sdk : Sdk) (body : ContributeSubmitBody) : List Issue :=
  contributeIssues sdk body.toContributeBody ++ stringMin ["body", "signedXdr"] 1 body.signedXdr

inductive Stage (Address : Type) [LT Address]
  | sending
  | polling
  | reconciling
  | readingChain (contractGiftId : Nat)
  | savingStatus (onChain : Escrow.GiftRecord Address)
  | pushing
  | done

def Stage.live : Stage Address → Bool
  | .done => false
  | _ => true

def Stage.seen : Stage Address → Bool
  | .sending => false
  | .polling => false
  | .done => false
  | _ => true

end Stages

structure Request (Address : Type) [LT Address] where
  body : ContributeBody
  txHash : Text
  stage : Stage Address

/-- The gift's document, the escrow contract, the signed transactions by their hashes and the
requests in flight. -/
structure Desk (Address : Type) [LT Address] where
  gift : GiftDocument
  escrow : Escrow.State Address
  txs : Text → Option (SignedTx Address)
  requests : List (Request Address)

inductive Act (Address : Type)
  | sign (txHash : Text) (calls : List (Escrow.Call Address))
  /-- the hash is that of the transaction in `signedXdr`; one that cannot be parsed ends the
  request at once -/
  | submit (body : ContributeSubmitBody) (txHash : Text)
  /-- `reaches`: whether a request that gets no answer still hands the transaction over -/
  | send (k : Nat) (answer : Option SendStatus) (reaches : Bool)
  | poll (k : Nat)
  | reconcile (k : Nat)
  | readChain (k : Nat)
  | saveStatus (k : Nat)
  | push (k : Nat) (contributedAt : Instant)
  /-- a request fails at its await, its poll window closes, or its process ends -/
  | drop (k : Nat)
  | handOver (txHash : Text)
  | settle (txHash : Text) (env : Env Address)
  /-- anyone's call of the contract, or a token moving without it -/
  | chain (action : Action Address (Escrow.Call Address))
  /-- another handler's save; the rows and the id of the gift stay -/
  | save (written : GiftDocument)

inductive Refused
  | invalid (issues : List Issue)
  | notRunning

section Legs

variable {Address : Type} [LinearOrder Address] (p : Platform Address) (w : Desk Address)

abbrev Moved (Address : Type) [LT Address] := Except Refused (Desk Address × Unit)

def Desk.put (k : Nat) (request : Request Address) (stage : Stage Address) : Desk Address :=
  { w with requests := w.requests.set k { request with stage } }

def Desk.know (txHash : Text) (tx : SignedTx Address) : Desk Address :=
  { w with txs := Function.update w.txs txHash (some tx) }

def sign (txHash : Text) (calls : List (Escrow.Call Address)) : Moved Address :=
  match w.txs txHash with
  | none => .ok (w.know txHash ⟨calls, .signed⟩, ())
  | some _ => .error .notRunning

def submit (body : ContributeSubmitBody) (txHash : Text) : Moved Address :=
  match contributeSubmitSchema p.sdk body, w.txs txHash with
  | [], some _ =>
      .ok ({ w with requests := w.requests ++ [⟨body.toContributeBody, txHash, .sending⟩] }, ())
  | [], none => .error .notRunning
  | issues, _ => .error (.invalid issues)

/-- A transaction already in the ledger is not answered with an error. -/
def answers : Fate Address → Option SendStatus → Bool
  | .landed _, some (.error _) => false
  | _, _ => true

def send (k : Nat) (answer : Option SendStatus) (reaches : Bool) : Moved Address :=
  match w.requests[k]? with
  | some ⟨body, txHash, .sending⟩ =>
      match w.txs txHash with
      | some tx =>
          if answers tx.fate answer then
            let next := if polls answer then Stage.polling else .done
            let gone := if handsOver answer reaches then tx.handedOver else tx
            .ok ((w.put k ⟨body, txHash, .sending⟩ next).know txHash gone, ())
          else .error .notRunning
      | none => .error .notRunning
  | _ => .error .notRunning

def poll (k : Nat) : Moved Address :=
  match w.requests[k]? with
  | some ⟨body, txHash, .polling⟩ =>
      match (w.txs txHash).map SignedTx.fate with
      | some (.landed _) => .ok (w.put k ⟨body, txHash, .polling⟩ .reconciling, ())
      | some .failed => .ok (w.put k ⟨body, txHash, .polling⟩ .done, ())
      | _ => .ok (w, ())
  | _ => .error .notRunning

/-- `reconcileGift` up to its read of the chain; where it throws the request ends. -/
def reconcile (k : Nat) : Moved Address :=
  match w.requests[k]? with
  | some ⟨body, txHash, .reconciling⟩ =>
      if truthy w.gift.contractGiftId then
        match bigInt w.gift.contractGiftId with
        | .ok id => .ok (w.put k ⟨body, txHash, .reconciling⟩ (.readingChain id), ())
        | .error _ => .ok (w.put k ⟨body, txHash, .reconciling⟩ .done, ())
      else .ok (w.put k ⟨body, txHash, .reconciling⟩ .done, ())
  | _ => .error .notRunning

def readChain (k : Nat) : Moved Address :=
  match w.requests[k]? with
  | some ⟨body, txHash, .readingChain id⟩ =>
      match w.escrow.gifts.get id with
      | some onChain => .ok (w.put k ⟨body, txHash, .readingChain id⟩ (.savingStatus onChain), ())
      | none => .ok (w.put k ⟨body, txHash, .readingChain id⟩ .done, ())
  | _ => .error .notRunning

def saveStatus (k : Nat) : Moved Address :=
  match w.requests[k]? with
  | some ⟨body, txHash, .savingStatus onChain⟩ =>
      .ok ({ w.put k ⟨body, txHash, .savingStatus onChain⟩ .pushing with
        gift := savedStatus w.gift onChain }, ())
  | _ => .error .notRunning

def rowOf (body : ContributeBody) (txHash : Text) (contributedAt : Instant) : Contribution :=
  ⟨body.contributorPublicKey, body.amount, txHash, contributedAt⟩

/-- The `$push`, without a condition. -/
def push (k : Nat) (contributedAt : Instant) : Moved Address :=
  match w.requests[k]? with
  | some ⟨body, txHash, .pushing⟩ =>
      .ok ({ w.put k ⟨body, txHash, .pushing⟩ .done with
        gift := { w.gift with
          contributions := w.gift.contributions ++ [rowOf body txHash contributedAt] } }, ())
  | _ => .error .notRunning

def drop (k : Nat) : Moved Address :=
  match w.requests[k]? with
  | some request => if request.stage.live then .ok (w.put k request .done, ()) else .error .notRunning
  | none => .error .notRunning

def handOver (txHash : Text) : Moved Address :=
  match w.txs txHash with
  | some tx => .ok (w.know txHash tx.handedOver, ())
  | none => .error .notRunning

def Succeeded (entry : Escrow.Entry Address) : Bool := entry.outcome.toBool

/-- The ledger takes a transaction that was handed over; one failing call undoes them all. -/
def settle (txHash : Text) (env : Env Address) : Moved Address :=
  match w.txs txHash with
  | some ⟨calls, .sent⟩ =>
      let actions := calls.map (Action.invoke env)
      let entries := (Escrow.machine p.escrow).trace w.escrow actions
      if entries.all Succeeded then
        .ok ({ w.know txHash ⟨calls, .landed entries⟩ with
          escrow := (Escrow.machine p.escrow).final w.escrow actions }, ())
      else .ok (w.know txHash ⟨calls, .failed⟩, ())
  | _ => .error .notRunning

def exec : Act Address → Moved Address
  | .sign txHash calls => sign w txHash calls
  | .submit body txHash => submit p w body txHash
  | .send k answer reaches => send w k answer reaches
  | .poll k => poll w k
  | .reconcile k => reconcile w k
  | .readChain k => readChain w k
  | .saveStatus k => saveStatus w k
  | .push k contributedAt => push w k contributedAt
  | .drop k => drop w k
  | .handOver txHash => handOver w txHash
  | .settle txHash env => settle p w txHash env
  | .chain action =>
      .ok ({ w with escrow := (Escrow.machine p.escrow).next w.escrow action }, ())
  | .save written =>
      .ok ({ w with gift := { written with
        contractGiftId := w.gift.contractGiftId
        contributions := w.gift.contributions } }, ())

abbrev machine : Runs.Machine (Desk Address) (Act Address) Refused Unit := ⟨exec p⟩

def Desk.opened (gift : GiftDocument) (escrow : Escrow.State Address) : Desk Address :=
  ⟨gift, escrow, fun _ => none, []⟩

end Legs

end Giffy.Backend.Contributions
