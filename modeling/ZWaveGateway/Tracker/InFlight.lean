import ZWaveGateway.Command.Layout
import ZWaveGateway.Transaction.Basic

/-!
# Transactions in flight

The transactions that wait for an answer, each under its key, and the responses the controller
still owes. A response names no node, but responses come in the order in which the requests were
written: a response belongs to the oldest request of its class that is owed one, whether or not
that request's transaction is still waiting.
-/

namespace ZWaveGateway

/-- A written request whose response has not arrived. -/
structure Owed where
  id : TransactionId
  key : Key
  /-- The class of the request, and so of its response. -/
  messageClass : MessageClass
  deriving DecidableEq, Repr

/-- The transactions in flight, and the responses owed in the order of submission. The entries have
no order of their own: a key is what finds one. -/
structure InFlight where
  entries : List (Key × Transaction)
  owed : List Owed
  deriving DecidableEq

namespace InFlight

/-- Nothing in flight. -/
def empty : InFlight :=
  ⟨[], []⟩

/-- The transaction waiting under a key. -/
def get? (inFlight : InFlight) (key : Key) : Option Transaction :=
  (inFlight.entries.find? (·.1 == key)).map (·.2)

/-- A transaction is waiting under the key. -/
def contains (inFlight : InFlight) (key : Key) : Bool :=
  (inFlight.get? key).isSome

/-- The transaction of this id is waiting under the key. -/
def isLive (inFlight : InFlight) (key : Key) (id : TransactionId) : Bool :=
  (inFlight.get? key).any (·.id == id)

/-- Put a transaction under its key, and its request in the queue of owed responses. -/
def add (inFlight : InFlight) (transaction : Transaction) : InFlight where
  entries := inFlight.entries ++ [(transaction.key, transaction)]
  owed := inFlight.owed ++
    [⟨transaction.id, transaction.key, transaction.command.frame.messageClass⟩]

/-- Take away whatever waits under a key. -/
def remove (inFlight : InFlight) (key : Key) : InFlight :=
  { inFlight with entries := inFlight.entries.filter (·.1 != key) }

/-- Forget a transaction, and the response owed to it. -/
def discard (inFlight : InFlight) (key : Key) (id : TransactionId) : InFlight :=
  let kept := if inFlight.isLive key id then inFlight.remove key else inFlight
  { kept with owed := kept.owed.filter (·.id != id) }

/-- A response that names no node: its class says whom it is for. -/
def isResponse (frame : Frame) : Bool :=
  frame.node.isNone && frame.frameType == .response

/-- Take the oldest owed response of a class off the queue. -/
def takeOwed (inFlight : InFlight) (messageClass : MessageClass) : Option Owed × InFlight :=
  (inFlight.owed.find? (·.messageClass == messageClass),
    { inFlight with owed := inFlight.owed.eraseP (·.messageClass == messageClass) })

/-- The transaction a frame is for, if any. A frame that is no plain response is for whatever waits
under its own key; a response is for the oldest request owed one, and is spent on it even if that
transaction has ended. -/
def claim (inFlight : InFlight) (frame : Frame) : Option (Key × Transaction) × InFlight :=
  if isResponse frame then
    match inFlight.takeOwed frame.messageClass with
    | (none, rest) => (none, rest)
    | (some owed, rest) =>
        (((rest.get? owed.key).filter (·.id == owed.id)).map (owed.key, ·), rest)
  else
    let key := Key.ofFrame frame
    ((inFlight.get? key).map (key, ·), inFlight)

/-- The transactions that have waited for the timeout. -/
def overdue (inFlight : InFlight) (now : Instant) (timeout : Duration) :
    List (Key × Transaction) :=
  inFlight.entries.filter fun (_, transaction) => transaction.isOverdue now timeout

/-- What is left when some entries, and the responses owed to their transactions, are taken away. -/
def without (inFlight : InFlight) (gone : List (Key × Transaction)) : InFlight :=
  let ids := gone.map (·.2.id)
  { entries := inFlight.entries.filter fun entry => !gone.contains entry
    owed := inFlight.owed.filter fun owed => !ids.contains owed.id }

end InFlight

end ZWaveGateway
