import ZWaveGateway.Tracker.Basic

/-!
# Submitting several commands

The commands of one request are submitted in order. The first that fails ends the batch; those
before it stay submitted.
-/

namespace ZWaveGateway

/-- What submitting a list of commands comes to. -/
structure Batch where
  tracker : Tracker
  effects : List Effect
  /-- The frames the transport took, in order. -/
  sent : List Frame
  /-- The transactions opened, one per frame taken. -/
  tickets : List Ticket
  failure : Option RequestError

namespace Tracker

/-- Submit commands until one fails. -/
def submitAll (tracker : Tracker) (now : Instant) (refuses : Frame → Option String) :
    List Command → Batch
  | [] => ⟨tracker, [], [], [], none⟩
  | command :: rest =>
      let first := tracker.submit command now refuses
      match first.result with
      | .error error => ⟨first.tracker, first.effects, [], [], some error⟩
      | .ok ticket =>
          let later := first.tracker.submitAll now refuses rest
          { later with
            effects := first.effects ++ later.effects
            sent := first.offered.toList ++ later.sent
            tickets := ticket :: later.tickets }

end Tracker

end ZWaveGateway
