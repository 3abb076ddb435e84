import ZWaveGateway.Tracker.Basic

/-!
# A tracker shared by callers

Any number of callers submit commands and send frames at once, while frames come in from the
controller and time passes. A call falls into sections, and only these are atomic: anything else may
happen between them. Whoever calls waits for a turn and keeps it until the call is done; a
submission meanwhile registers its transaction, offers the frame to the transport and, if that
refuses it, takes the registration back.

`ZWaveGateway.Tracker.submit` is such a call with nothing in between.
-/

namespace ZWaveGateway

/-- Who calls. -/
structure Caller where
  number : Nat
  deriving DecidableEq, Repr

/-- What somebody calls for. -/
inductive Errand where
  | submit (command : Command)
  /-- Send a frame that opens no transaction. -/
  | send (frame : Frame)

/-- How far a call has come. -/
inductive Stage where
  | idle
  | waiting (errand : Errand)
  | admitted (errand : Errand)
  /-- The transaction is registered; its frame is still to be offered to the transport. -/
  | registered (ticket : Ticket) (frame : Frame)
  /-- The transport has refused the frame; the registration is still to be taken back. -/
  | refused (ticket : Ticket) (words : String)
  /-- The call is done but for giving the turn back. A frame without a transaction has no ticket. -/
  | leaving (result : Except RequestError (Option Ticket))

namespace Stage

/-- From when it is admitted until it leaves, a call has the turn. -/
def hasTurn : Stage → Bool
  | .idle | .waiting _ => false
  | _ => true

/-- The transaction that is registered without the transport having taken its frame. -/
def unsettled : Stage → List Ticket
  | .registered ticket _ | .refused ticket _ => [ticket]
  | _ => []

/-- The transaction whose frame is still to be offered to the transport. -/
def unoffered : Stage → List Ticket
  | .registered ticket _ => [ticket]
  | _ => []

end Stage

/-- A frame that was offered to the transport. -/
structure Offer where
  /-- The transaction it is the request of, if there is one. -/
  id : Option TransactionId
  frame : Frame
  /-- The transport took it. -/
  taken : Bool
  deriving DecidableEq

namespace Offer

/-- The transactions whose frames were offered to the transport, in order. -/
def ids (offers : List Offer) : List TransactionId :=
  offers.filterMap (·.id)

/-- The transactions whose frames the transport took, in order. -/
def written (offers : List Offer) : List TransactionId :=
  ids (offers.filter (·.taken))

variable {offers : List Offer} {id : TransactionId} {frame : Frame}

theorem ids_concat (offer : Offer) : ids (offers ++ [offer]) = ids offers ++ offer.id.toList := by
  obtain ⟨id, frame, taken⟩ := offer
  rw [ids, List.filterMap_append]
  cases id <;> rfl

theorem written_of_taken : written (offers ++ [⟨some id, frame, true⟩]) = written offers ++ [id] := by
  rw [written, List.filter_append]
  exact ids_concat _

theorem written_of_refused {id : Option TransactionId} :
    written (offers ++ [⟨id, frame, false⟩]) = written offers := by
  rw [written, List.filter_append]
  exact congrArg ids (List.append_nil _)

theorem written_of_untracked {taken : Bool} :
    written (offers ++ [⟨none, frame, taken⟩]) = written offers := by
  cases taken with
  | false => exact written_of_refused
  | true =>
      rw [written, List.filter_append]
      exact (ids_concat _).trans (List.append_nil _)

end Offer

/-- A tracker and those who call it. -/
structure Shared where
  tracker : Tracker
  /-- Whose turn it is. -/
  turn : Option Caller
  stage : Caller → Stage
  /-- What was offered to the transport, in order. -/
  offers : List Offer

namespace Shared

/-- Nobody has called yet. -/
def fresh (timeout : Duration) : Shared :=
  ⟨Tracker.fresh timeout, none, fun _ => .idle, []⟩

/-- A caller has come so far. -/
def put (shared : Shared) (caller : Caller) (stage : Stage) : Shared :=
  { shared with stage := fun other => if other = caller then stage else shared.stage other }

/-- The transport has answered an offer. -/
def offer (shared : Shared) (offer : Offer) : Shared :=
  { shared with offers := shared.offers ++ [offer] }

/-- How far the call has come whose turn it is. -/
def holding (shared : Shared) : Stage :=
  (shared.turn.map shared.stage).getD .idle

/-- The transaction, if any, that is registered without the transport having taken its frame. -/
def unsettledIds (shared : Shared) : List TransactionId :=
  shared.holding.unsettled.map (·.id)

/-- One section of a call, a frame from the controller, or a sweep. -/
inductive Step (shared : Shared) : Shared → Prop where
  | call {caller : Caller} (idle : shared.stage caller = .idle) (errand : Errand) :
      Step shared (shared.put caller (.waiting errand))
  | enter {caller : Caller} {errand : Errand} (waits : shared.stage caller = .waiting errand)
      (free : shared.turn = none) :
      Step shared ({ shared with turn := some caller }.put caller (.admitted errand))
  | decline {caller : Caller} {command : Command} {now : Instant} {error : RequestError}
      (admitted : shared.stage caller = .admitted (.submit command))
      (declined : shared.tracker.register command now = .error error) :
      Step shared (shared.put caller (.leaving (.error error)))
  | register {caller : Caller} {command : Command} {now : Instant} {ticket : Ticket}
      {tracker : Tracker} (admitted : shared.stage caller = .admitted (.submit command))
      (taken : shared.tracker.register command now = .ok (ticket, tracker)) :
      Step shared ({ shared with tracker }.put caller (.registered ticket command.frame))
  | accept {caller : Caller} {ticket : Ticket} {frame : Frame}
      (registered : shared.stage caller = .registered ticket frame) :
      Step shared
        ((shared.offer ⟨some ticket.id, frame, true⟩).put caller (.leaving (.ok (some ticket))))
  | refuse {caller : Caller} {ticket : Ticket} {frame : Frame}
      (registered : shared.stage caller = .registered ticket frame) (words : String) :
      Step shared
        ((shared.offer ⟨some ticket.id, frame, false⟩).put caller (.refused ticket words))
  | rollBack {caller : Caller} {ticket : Ticket} {words : String}
      (refused : shared.stage caller = .refused ticket words) :
      Step shared
        ({ shared with tracker := shared.tracker.rollBack ticket }.put caller
          (.leaving (.error (.transport words))))
  | acceptUntracked {caller : Caller} {frame : Frame}
      (admitted : shared.stage caller = .admitted (.send frame)) :
      Step shared ((shared.offer ⟨none, frame, true⟩).put caller (.leaving (.ok none)))
  | refuseUntracked {caller : Caller} {frame : Frame}
      (admitted : shared.stage caller = .admitted (.send frame)) (words : String) :
      Step shared
        ((shared.offer ⟨none, frame, false⟩).put caller (.leaving (.error (.transport words))))
  | leave {caller : Caller} {result : Except RequestError (Option Ticket)}
      (done : shared.stage caller = .leaving result) :
      Step shared ({ shared with turn := none }.put caller .idle)
  | receive (frame : Frame) :
      Step shared { shared with tracker := (shared.tracker.receive frame).tracker }
  | expire {now : Instant} {expiry : Expiry} (sweep : shared.tracker.Sweep now expiry) :
      Step shared { shared with tracker := expiry.tracker }

/-- What can come of a fresh tracker, however the sections follow each other. -/
inductive Reachable (timeout : Duration) : Shared → Prop where
  | fresh : Reachable timeout (fresh timeout)
  | step {shared after : Shared} (reachable : Reachable timeout shared)
      (step : Step shared after) : Reachable timeout after

/-! ## The turn -/

variable {shared : Shared} {caller : Caller} {stage : Stage}

@[simp]
theorem stage_put_self (shared : Shared) (caller : Caller) (stage : Stage) :
    (shared.put caller stage).stage caller = stage :=
  if_pos rfl

theorem stage_put_of_ne {other : Caller} (different : other ≠ caller) :
    (shared.put caller stage).stage other = shared.stage other :=
  if_neg different

theorem holding_of_turn (turn : shared.turn = some caller) :
    shared.holding = shared.stage caller := by
  rw [holding, turn]
  rfl

theorem holding_put_self (turn : shared.turn = some caller) (stage : Stage) :
    (shared.put caller stage).holding = stage := by
  have still : (shared.put caller stage).turn = some caller := turn
  rw [holding_of_turn still, stage_put_self]

theorem holding_put_of_ne (other : shared.turn ≠ some caller) (stage : Stage) :
    (shared.put caller stage).holding = shared.holding := by
  unfold holding
  cases turn : shared.turn with
  | none =>
      have still : (shared.put caller stage).turn = none := turn
      rw [still]
      rfl
  | some holder =>
      have still : (shared.put caller stage).turn = some holder := turn
      have different : holder ≠ caller := fun same => other (turn.trans (congrArg some same))
      rw [still]
      exact stage_put_of_ne different

/-- A submission with nothing in between its sections comes to what it comes to in one go. -/
theorem Reachable.submit_alone {timeout : Duration} (reachable : Reachable timeout shared)
    (idle : shared.stage caller = .idle) (free : shared.turn = none) (command : Command)
    (now : Instant) (refuses : Frame → Option String) :
    ∃ after, Reachable timeout after ∧
      after.tracker = (shared.tracker.submit command now refuses).tracker ∧
      after.stage caller =
        .leaving ((shared.tracker.submit command now refuses).result.map some) := by
  have called := reachable.step (.call idle (.submit command))
  have entered := called.step (.enter (stage_put_self ..) free)
  unfold Tracker.submit
  cases registered : shared.tracker.register command now with
  | error error =>
      have declined := entered.step (.decline (stage_put_self ..) registered)
      exact ⟨_, declined, rfl, stage_put_self ..⟩
  | ok pair =>
      obtain ⟨ticket, tracker⟩ := pair
      have offering := entered.step (.register (stage_put_self ..) registered)
      cases refusal : refuses command.frame with
      | none => exact ⟨_, offering.step (.accept (stage_put_self ..)), rfl, stage_put_self ..⟩
      | some words =>
          have refused := offering.step (.refuse (stage_put_self ..) words)
          exact ⟨_, refused.step (.rollBack (stage_put_self ..)), rfl, stage_put_self ..⟩

end Shared

end ZWaveGateway
