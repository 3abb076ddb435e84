import ZWaveGateway.Link.Inbound
import ZWaveGateway.Proofs.Tracker.History
import Mathlib.Data.List.Infix

/-!
# Taking in what was read

A link hands the frames among the items it has read to its tracker, one after the other. What comes
of it is shown item by item (`ZWaveGateway.Link.takeIn_induction`): the tracker goes through a run
with these frames (`ZWaveGateway.Link.takeIn_run`), every item gets its reply if the tracker returns
on each frame (`ZWaveGateway.Link.takeIn_of_returns`), and nothing else ends the link
(`ZWaveGateway.Link.takeIn_status`).
-/

namespace ZWaveGateway

/-- The frame that an item is. -/
def Item.frame? : Item → Option Frame
  | .frame sent => some sent
  | .acknowledge | .refuse | .cancel => none

namespace Occurrence

/-- The frame that the tracker was handed. -/
def heard : Occurrence → List Frame
  | .received frame _ => [frame]
  | .submitted .. | .expired _ => []

end Occurrence

namespace History

/-- The frames that the tracker was handed, in order. -/
def heard (history : History) : List Frame :=
  history.gather Occurrence.heard

/-- All that the tracker wanted done, in order. -/
def effects (history : History) : List Effect :=
  history.gather Occurrence.effects

/-- The tracker has returned on each frame that it was handed. -/
def Returns (history : History) : Prop :=
  ∀ frame receipt, .received frame receipt ∈ history → receipt.result ≠ .error .fault

variable (latest : Occurrence) (earlier : History)

@[simp]
theorem heard_cons : heard (latest :: earlier) = earlier.heard ++ latest.heard :=
  gather_cons ..

@[simp]
theorem effects_cons : effects (latest :: earlier) = earlier.effects ++ latest.effects :=
  gather_cons ..

variable {latest earlier}

theorem Returns.of_suffix {history : History} (returns : history.Returns)
    (before : earlier <:+ history) : earlier.Returns := fun frame receipt occurred =>
  returns frame receipt (before.subset occurred)

end History

namespace Effect

/-- The effect is more than a line in the log. -/
def isVisible : Effect → Bool
  | .log _ => false
  | _ => true

/-- What is left of effects without the lines for the log. -/
def visible (effects : List Effect) : List Effect :=
  effects.filter isVisible

@[simp]
theorem visible_append (effects more : List Effect) :
    visible (effects ++ more) = visible effects ++ visible more :=
  List.filter_append _ _

end Effect

namespace Tracker

variable {tracker : Tracker} {history : History} {frame : Frame}

/-- The history of a tracker that is handed frames in order. Nothing comes after a fault. -/
def hear (tracker : Tracker) (history : History) : List Frame → History
  | [] => history
  | frame :: rest =>
      if (tracker.receive frame).result = .error .fault then
        .received frame (tracker.receive frame) :: history
      else
        (tracker.receive frame).tracker.hear (.received frame (tracker.receive frame) :: history)
          rest

theorem hear_of_fault (faults : (tracker.receive frame).result = .error .fault)
    (history : History) (rest : List Frame) :
    tracker.hear history (frame :: rest) = .received frame (tracker.receive frame) :: history :=
  if_pos faults

theorem hear_of_return (returns : (tracker.receive frame).result ≠ .error .fault)
    (history : History) (rest : List Frame) :
    tracker.hear history (frame :: rest) =
      (tracker.receive frame).tracker.hear (.received frame (tracker.receive frame) :: history)
        rest :=
  if_neg returns

theorem suffix_hear (tracker : Tracker) (history : History) (frames : List Frame) :
    history <:+ tracker.hear history frames := by
  induction frames generalizing tracker history with
  | nil => exact List.suffix_rfl
  | cons frame rest later =>
      have before : history <:+ .received frame (tracker.receive frame) :: history :=
        List.suffix_cons _ _
      by_cases faults : (tracker.receive frame).result = .error .fault
      · rw [hear_of_fault faults]
        exact before
      · rw [hear_of_return faults]
        exact before.trans (later _ _)

end Tracker

namespace Link

open Effect (visible)

variable {tracker : Tracker} {history : History} {timeout : Duration}
  {items : List (Except FrameError Item)}

/-! ## Taking items off the stream -/

/-- The frame that was read, if one was. -/
def frame? : Except FrameError Item → Option Frame
  | .ok item => item.frame?
  | .error _ => none

/-- The frames among items, in order. -/
def framesOf (items : List (Except FrameError Item)) : List Frame :=
  items.filterMap frame?

/-- What taking items in comes to when effects and replies came before. -/
def Intake.after (intake : Intake) (effects : List Effect) (written : List UInt8) : Intake :=
  { intake with
    effects := effects ++ intake.effects
    written := written ++ intake.written }

theorem Intake.after_after (intake : Intake) (effects more : List Effect)
    (written further : List UInt8) :
    (intake.after effects written).after more further =
      intake.after (more ++ effects) (further ++ written) := by
  simp only [after, List.append_assoc]

/-- A frame that the tracker returns on leaves the rest to the tracker as it is then. -/
theorem takeIn_of_return {frame : Frame}
    (returns : (tracker.receive frame).result ≠ .error .fault) :
    ∃ effects, visible effects = visible (tracker.receive frame).effects ∧
      ∀ rest, takeIn tracker (.ok (.frame frame) :: rest) =
        (takeIn (tracker.receive frame).tracker rest).after effects [Wire.acknowledge] := by
  cases came : (tracker.receive frame).result with
  | ok disposition =>
      refine ⟨(tracker.receive frame).effects, rfl, fun rest => ?_⟩
      simp only [takeIn, came]
      rfl
  | error error =>
      cases error with
      | malformed error =>
          refine ⟨(tracker.receive frame).effects ++ [.log (unprocessed error)], ?_, fun rest => ?_⟩
          · rw [Effect.visible_append]
            exact List.append_nil _
          · simp only [takeIn, came, Intake.after, List.append_assoc, List.singleton_append]
            rfl
      | fault => exact (returns came).elim

/-- What holds when nothing is taken in, and when the tracker faults on the next frame, and of items
behind a frame or behind any other item if it holds of those items, holds of all items. -/
@[elab_as_elim]
theorem takeIn_induction {motive : Tracker → List (Except FrameError Item) → Prop}
    (done : ∀ tracker, motive tracker [])
    (faults : ∀ tracker frame rest, (tracker.receive frame).result = .error .fault →
      (∀ more, takeIn tracker (.ok (.frame frame) :: more) =
        ⟨(tracker.receive frame).tracker, (tracker.receive frame).effects, [Wire.acknowledge],
          .faulted⟩) →
      motive tracker (.ok (.frame frame) :: rest))
    (hands : ∀ tracker frame effects rest, (tracker.receive frame).result ≠ .error .fault →
      visible effects = visible (tracker.receive frame).effects →
      (∀ more, takeIn tracker (.ok (.frame frame) :: more) =
        (takeIn (tracker.receive frame).tracker more).after effects [Wire.acknowledge]) →
      motive (tracker.receive frame).tracker rest → motive tracker (.ok (.frame frame) :: rest))
    (skips : ∀ tracker item rest, frame? item = none →
      (∀ more, takeIn tracker (item :: more) =
        (takeIn tracker more).after ((remark item).map .log) (reply item)) →
      motive tracker rest → motive tracker (item :: rest))
    (tracker : Tracker) (items : List (Except FrameError Item)) : motive tracker items := by
  induction items generalizing tracker with
  | nil => exact done tracker
  | cons item rest later =>
      match item with
      | .ok (.frame frame) =>
          by_cases broke : (tracker.receive frame).result = .error .fault
          · refine faults tracker frame rest broke fun more => ?_
            simp only [takeIn, broke]
            rfl
          · obtain ⟨effects, same, step⟩ := takeIn_of_return broke
            exact hands tracker frame effects rest broke same step (later _)
      | .ok .acknowledge => exact skips tracker _ rest rfl (fun more => rfl) (later tracker)
      | .ok .refuse => exact skips tracker _ rest rfl (fun more => rfl) (later tracker)
      | .ok .cancel => exact skips tracker _ rest rfl (fun more => rfl) (later tracker)
      | .error error => exact skips tracker _ rest rfl (fun more => rfl) (later tracker)

theorem framesOf_cons_of_some {item : Except FrameError Item} {frame : Frame}
    (found : frame? item = some frame) (rest : List (Except FrameError Item)) :
    framesOf (item :: rest) = frame :: framesOf rest :=
  List.filterMap_cons_some found

theorem framesOf_cons_of_none {item : Except FrameError Item} (other : frame? item = none)
    (rest : List (Except FrameError Item)) : framesOf (item :: rest) = framesOf rest :=
  List.filterMap_cons_none other

/-- Whatever is taken in, the tracker goes through it as a run. -/
theorem takeIn_run (run : Tracker.Run timeout history tracker)
    (items : List (Except FrameError Item)) :
    Tracker.Run timeout (tracker.hear history (framesOf items)) (takeIn tracker items).tracker := by
  induction tracker, items using takeIn_induction generalizing history with
  | done tracker => exact run
  | faults tracker frame rest broke step =>
      rw [framesOf_cons_of_some rfl, Tracker.hear_of_fault broke, step]
      exact run.receive frame
  | hands tracker frame effects rest returns same step later =>
      rw [framesOf_cons_of_some rfl, Tracker.hear_of_return returns, step]
      exact later (run.receive frame)
  | skips tracker item rest other step later =>
      rw [framesOf_cons_of_none other, step]
      exact later run

/-- What is told and settled by taking items in is what the tracker wanted done with their
frames. -/
theorem visible_takeIn (tracker : Tracker) (history : History)
    (items : List (Except FrameError Item)) :
    visible (tracker.hear history (framesOf items)).effects =
      visible history.effects ++ visible (takeIn tracker items).effects := by
  induction tracker, items using takeIn_induction generalizing history with
  | done tracker => exact (List.append_nil _).symm
  | faults tracker frame rest broke step =>
      rw [framesOf_cons_of_some rfl, Tracker.hear_of_fault broke, step, History.effects_cons,
        Effect.visible_append, Occurrence.effects]
  | hands tracker frame effects rest returns same step later =>
      rw [framesOf_cons_of_some rfl, Tracker.hear_of_return returns, step, later,
        History.effects_cons, Effect.visible_append, Occurrence.effects, Intake.after,
        Effect.visible_append, same, List.append_assoc]
  | skips tracker item rest other step later =>
      have lines : visible ((remark item).map Effect.log) = [] := by
        rw [Effect.visible, List.filter_map, List.map_eq_nil_iff]
        exact List.filter_eq_nil_iff.mpr fun line member => Bool.false_ne_true
      rw [framesOf_cons_of_none other, step, later, Intake.after, Effect.visible_append, lines,
        List.nil_append]

/-- If the tracker returns on each frame, each item gets its reply, each frame is handed on, and the
link goes on. -/
theorem takeIn_of_returns (returns : (tracker.hear history (framesOf items)).Returns) :
    (takeIn tracker items).status = .running ∧
    (takeIn tracker items).written = items.flatMap reply ∧
    (tracker.hear history (framesOf items)).heard = history.heard ++ framesOf items := by
  induction tracker, items using takeIn_induction generalizing history with
  | done tracker => exact ⟨rfl, rfl, (List.append_nil _).symm⟩
  | faults tracker frame rest broke step =>
      rw [framesOf_cons_of_some rfl, Tracker.hear_of_fault broke] at returns
      exact (returns frame _ List.mem_cons_self broke).elim
  | hands tracker frame effects rest returned same step later =>
      rw [framesOf_cons_of_some rfl, Tracker.hear_of_return returned] at returns ⊢
      obtain ⟨running, written, heard⟩ := later returns
      rw [step, List.flatMap_cons]
      refine ⟨running, congrArg _ written, ?_⟩
      rw [heard, History.heard_cons, Occurrence.heard, List.append_assoc, List.singleton_append]
  | skips tracker item rest other step later =>
      rw [framesOf_cons_of_none other] at returns ⊢
      obtain ⟨running, written, heard⟩ := later returns
      rw [step, List.flatMap_cons]
      exact ⟨running, congrArg _ written, heard⟩

/-- Taking items in ends the link by a fault of the tracker only. -/
theorem takeIn_status (tracker : Tracker) (history : History)
    (items : List (Except FrameError Item)) :
    (takeIn tracker items).status = .running ∨
      (takeIn tracker items).status = .faulted ∧
        ∃ frame receipt, .received frame receipt ∈ tracker.hear history (framesOf items) ∧
          receipt.result = .error .fault := by
  induction tracker, items using takeIn_induction generalizing history with
  | done tracker => exact .inl rfl
  | faults tracker frame rest broke step =>
      rw [framesOf_cons_of_some rfl, Tracker.hear_of_fault broke, step]
      exact .inr ⟨rfl, frame, _, List.mem_cons_self, broke⟩
  | hands tracker frame effects rest returned same step later =>
      rw [framesOf_cons_of_some rfl, Tracker.hear_of_return returned, step]
      exact later _
  | skips tracker item rest other step later =>
      rw [framesOf_cons_of_none other, step]
      exact later _

/-- What comes behind items is taken in after them, unless they end the link. -/
theorem takeIn_append (tracker : Tracker) (items more : List (Except FrameError Item)) :
    ((takeIn tracker items).status = .faulted ∧
      takeIn tracker (items ++ more) = takeIn tracker items) ∨
    ((takeIn tracker items).status = .running ∧
      takeIn tracker (items ++ more) =
        (takeIn (takeIn tracker items).tracker more).after (takeIn tracker items).effects
          (takeIn tracker items).written) := by
  induction tracker, items using takeIn_induction with
  | done tracker => exact .inr ⟨rfl, rfl⟩
  | faults tracker frame rest broke step =>
      rw [List.cons_append, step, step]
      exact .inl ⟨rfl, rfl⟩
  | hands tracker frame effects rest returned same step later =>
      rw [List.cons_append, step, step]
      refine later.imp (fun ended => ⟨ended.1, ?_⟩) (fun goesOn => ⟨goesOn.1, ?_⟩)
      · rw [ended.2]
      · rw [goesOn.2, Intake.after_after]
        rfl
  | skips tracker item rest other step later =>
      rw [List.cons_append, step, step]
      refine later.imp (fun ended => ⟨ended.1, ?_⟩) (fun goesOn => ⟨goesOn.1, ?_⟩)
      · rw [ended.2]
      · rw [goesOn.2, Intake.after_after]
        rfl

end Link

end ZWaveGateway
