import ZWaveGateway.Proofs.Request.Planning
import ZWaveGateway.Proofs.Tracker.History
import ZWaveGateway.Request.Basic

/-!
# What a failed dispatch leaves behind

A request that fails at one of the first gates has done nothing. At the last gate its plan is
submitted, a question before a setting, and the setting can fail when the question is already on
its way: nobody takes back what the transport took, so the question stays in flight
(`ZWaveGateway.Request.StopsHalfway`). That is the only trace that a failed dispatch leaves
(`ZWaveGateway.Tracker.Run.failed_dispatch`).
-/

namespace ZWaveGateway

/-! ## Submitting what is planned -/

theorem Request.isFor_resolve {request : Request} {directory : Directory} {controller node : NodeId}
    {plan : Plan} (resolved : request.resolve directory controller = .ok (node, plan)) :
    plan.IsFor node := by
  unfold resolve at resolved
  split at resolved
  · cases resolved
  · split at resolved
    · cases resolved
    · next device found =>
        split at resolved
        · cases resolved
        · cases planned : request.named.plan request.form device.id controller with
          | error error =>
              rw [planned] at resolved
              cases resolved
          | ok plan =>
              rw [planned] at resolved
              cases resolved
              exact Control.isFor_plan planned

namespace Tracker

variable {tracker : Tracker} {command : Command} {now : Instant} {refuses : Frame → Option String}
  {error : RequestError}

theorem Submitted.of_error {submission : Submission}
    (outcome : Submitted tracker command now refuses submission)
    (failed : submission.result = .error error) :
    (tracker.inFlight.contains (Key.ofCommand command) = true ∨ refuses command.frame ≠ none) ∧
      (∃ lastId, submission.tracker = { tracker with lastId }) ∧
      ∃ lines : List LogLine, submission.effects = lines.map .log := by
  cases outcome with
  | duplicate taken => exact ⟨.inl taken, ⟨_, rfl⟩, [], rfl⟩
  | refused free refusal => exact ⟨.inr (refusal ▸ Option.some_ne_none _), ⟨_, rfl⟩, [_], rfl⟩
  | accepted free taken => cases failed

theorem Submitted.of_ok {submission : Submission} {ticket : Ticket}
    (outcome : Submitted tracker command now refuses submission)
    (accepted : submission.result = .ok ticket) :
    tracker.inFlight.contains (Key.ofCommand command) = false ∧ refuses command.frame = none ∧
      submission.tracker =
        { tracker with
          lastId := tracker.lastId + 1
          inFlight := tracker.inFlight.add
            (Transaction.issue ⟨tracker.lastId + 1⟩ command now) } ∧
      submission.effects = [] := by
  cases outcome with
  | duplicate taken => cases accepted
  | refused free refusal => cases accepted
  | accepted free taken => exact ⟨free, taken, rfl, rfl⟩

theorem submitAll_of_error {rest : List Command}
    (failed : (tracker.submit command now refuses).result = .error error) :
    tracker.submitAll now refuses (command :: rest) =
      ⟨(tracker.submit command now refuses).tracker, (tracker.submit command now refuses).effects,
        [], [], some error⟩ := by
  simp only [submitAll, failed]

theorem submitAll_of_ok {rest : List Command} {ticket : Ticket}
    (taken : (tracker.submit command now refuses).result = .ok ticket) :
    tracker.submitAll now refuses (command :: rest) =
      { (tracker.submit command now refuses).tracker.submitAll now refuses rest with
        effects := (tracker.submit command now refuses).effects ++
          ((tracker.submit command now refuses).tracker.submitAll now refuses rest).effects
        sent := command.frame ::
          ((tracker.submit command now refuses).tracker.submitAll now refuses rest).sent
        tickets := ticket ::
          ((tracker.submit command now refuses).tracker.submitAll now refuses rest).tickets } := by
  simp only [submitAll, taken, offered_of_ok taken, Option.toList_some, List.singleton_append]

/-- A batch that fails is a batch that did not, and one more command that failed. -/
theorem submitAll_of_failure {commands : List Command}
    (failed : (tracker.submitAll now refuses commands).failure = some error) :
    ∃ done command undone, commands = done ++ command :: undone ∧
      (tracker.submitAll now refuses done).failure = none ∧
      ((tracker.submitAll now refuses done).tracker.submit command now refuses).result =
        .error error ∧
      tracker.submitAll now refuses commands =
        { tracker.submitAll now refuses done with
          tracker :=
            ((tracker.submitAll now refuses done).tracker.submit command now refuses).tracker
          effects := (tracker.submitAll now refuses done).effects ++
            ((tracker.submitAll now refuses done).tracker.submit command now refuses).effects
          failure := some error } := by
  induction commands generalizing tracker with
  | nil => cases failed
  | cons first rest ih =>
      cases result : (tracker.submit first now refuses).result with
      | error found =>
          rw [submitAll_of_error result] at failed
          obtain rfl := Option.some.inj failed
          exact ⟨[], first, rest, rfl, rfl, result, submitAll_of_error result⟩
      | ok ticket =>
          rw [submitAll_of_ok result] at failed
          obtain ⟨done, command, undone, rfl, clean, stopped, came⟩ := ih failed
          refine ⟨first :: done, command, undone, rfl, ?_, ?_, ?_⟩
          · rw [submitAll_of_ok result]
            exact clean
          · rw [submitAll_of_ok result]
            exact stopped
          · rw [submitAll_of_ok result, submitAll_of_ok result, came]
            simp only [List.append_assoc]

end Tracker

/-- What a plan submits before some other command is at most its question. -/
theorem Plan.commands_eq_append_cons {plan : Plan} {done undone : List Command} {command : Command}
    (split : plan.commands = done ++ command :: undone) :
    done = [] ∨ ∃ question, done = [question] ∧ plan.query = some question ∧
      plan.set = some command := by
  cases done with
  | nil => exact .inl rfl
  | cons question more =>
      unfold commands at split
      cases asked : plan.query with
      | none =>
          cases setting : plan.set <;> simp [asked, setting] at split
      | some first =>
          rw [asked] at split
          obtain ⟨rfl, rest⟩ := List.cons.inj split
          cases setting : plan.set with
          | none => simp [setting] at rest
          | some last =>
              rw [setting] at rest
              have alone := List.singleton_eq_append_iff.mp rest
              simp only [List.cons.injEq, reduceCtorEq, and_false, or_false] at alone
              obtain ⟨rfl, rfl, -⟩ := alone
              exact .inr ⟨first, rfl, rfl, rfl⟩

/-! ## Halfway -/

/-- The request asks and sets. Its question is sent; then its setting is stopped, because the key of
the setting is taken, or because the transport refuses its frame. -/
structure Request.StopsHalfway (request : Request) (directory : Directory) (controller : NodeId)
    (tracker : Tracker) (refuses : Frame → Option String) (node : NodeId) (target : QueryTarget)
    (action : SetAction) : Prop where
  resolved : ∃ notices, request.resolve directory controller =
    .ok (node, ⟨some (.query node target), some (.set node action), notices⟩)
  free : tracker.inFlight.contains (Key.ofCommand (.query node target)) = false
  taken : refuses (Command.query node target).frame = none
  stopped : tracker.inFlight.contains (Key.ofCommand (.set node action)) = true ∨
    refuses (Command.set node action).frame ≠ none

/-- What a failed dispatch can come to: nothing but log lines and perhaps an id used up; or, if the
request stops halfway, the question is in flight besides. -/
inductive Request.Failed (request : Request) (directory : Directory) (controller : NodeId)
    (tracker : Tracker) (now : Instant) (refuses : Frame → Option String) : Dispatched → Prop where
  | untouched
      (otherwise : ∀ node target action,
        ¬ request.StopsHalfway directory controller tracker refuses node target action)
      (lastId : Nat) (lines : List LogLine) (error : RequestError) :
      Failed request directory controller tracker now refuses
        ⟨{ tracker with lastId }, lines.map .log, [], .error error⟩
  | halfway {node : NodeId} {target : QueryTarget} {action : SetAction}
      (halfway : request.StopsHalfway directory controller tracker refuses node target action)
      (lastId : Nat) (lines : List LogLine) (error : RequestError) :
      Failed request directory controller tracker now refuses
        ⟨{ tracker with
            lastId
            inFlight := tracker.inFlight.add
              (Transaction.issue ⟨tracker.lastId + 1⟩ (.query node target) now) },
          lines.map .log, [(Command.query node target).frame], .error error⟩

namespace Tracker

open InFlight

variable {tracker : Tracker} {history : History} {timeout : Duration} {request : Request}
  {directory : Directory} {controller : NodeId} {now : Instant}
  {refuses : Frame → Option String} {error : RequestError}

private theorem not_stopsHalfway {node : NodeId} {plan : Plan} {command : Command}
    {undone : List Command} (resolved : request.resolve directory controller = .ok (node, plan))
    (first : plan.commands = command :: undone)
    (reason : tracker.inFlight.contains (Key.ofCommand command) = true ∨
      refuses command.frame ≠ none) (other : NodeId) (target : QueryTarget) (action : SetAction) :
    ¬ request.StopsHalfway directory controller tracker refuses other target action := by
  intro halfway
  obtain ⟨notices, planned⟩ := halfway.resolved
  rw [resolved] at planned
  cases planned
  obtain ⟨rfl, -⟩ := List.cons.inj first
  rcases reason with taken | refused
  · rw [halfway.free] at taken
    cases taken
  · exact refused halfway.taken

private theorem contains_set_of_add_query {node : NodeId} {target : QueryTarget}
    {action : SetAction} (id : TransactionId) (now : Instant) :
    (tracker.inFlight.add (Transaction.issue id (.query node target) now)).contains
        (Key.ofCommand (.set node action)) =
      tracker.inFlight.contains (Key.ofCommand (.set node action)) := by
  -- A report answers the question and a response the setting, so their keys differ.
  have apart : (Transaction.issue id (.query node target) now).key ≠
      Key.ofCommand (.set node action) := by
    intro same
    cases congrArg Key.messageClass same
  rw [contains_add, beq_false_of_ne apart, Bool.or_false]

private theorem failed_at_first {node : NodeId} {plan : Plan} {command : Command}
    {undone : List Command} (coherent : tracker.inFlight.Coherent tracker.lastId)
    (resolved : request.resolve directory controller = .ok (node, plan))
    (first : plan.commands = command :: undone)
    (stopped : (tracker.submit command now refuses).result = .error error) (line : LogLine) :
    request.Failed directory controller tracker now refuses
      ⟨(tracker.submit command now refuses).tracker,
        (tracker.submit command now refuses).effects ++ [.log line], [], .error error⟩ := by
  obtain ⟨reason, ⟨lastId, kept⟩, lines, logged⟩ :=
    (submitted coherent command now refuses).of_error stopped
  have left : request.Failed directory controller tracker now refuses _ :=
    .untouched (not_stopsHalfway resolved first reason) lastId (lines ++ [line]) error
  rw [List.map_append] at left
  rw [kept, logged]
  exact left

private theorem failed_after_question {node : NodeId} {target : QueryTarget} {action : SetAction}
    {notices : List RequestError} {ticket : Ticket}
    (coherent : tracker.inFlight.Coherent tracker.lastId)
    (resolved : request.resolve directory controller =
      .ok (node, ⟨some (.query node target), some (.set node action), notices⟩))
    (asked : (tracker.submit (.query node target) now refuses).result = .ok ticket)
    (stopped : ((tracker.submit (.query node target) now refuses).tracker.submit
      (.set node action) now refuses).result = .error error) (line : LogLine) :
    request.Failed directory controller tracker now refuses
      ⟨((tracker.submit (.query node target) now refuses).tracker.submit
          (.set node action) now refuses).tracker,
        (tracker.submit (.query node target) now refuses).effects ++
          ((tracker.submit (.query node target) now refuses).tracker.submit
            (.set node action) now refuses).effects ++ [.log line],
        [(Command.query node target).frame], .error error⟩ := by
  obtain ⟨free, taken, registered, silent⟩ :=
    (submitted coherent (.query node target) now refuses).of_ok asked
  -- The setting is submitted while the question is in flight.
  rw [registered] at stopped ⊢
  obtain ⟨reason, ⟨lastId, kept⟩, lines, logged⟩ :=
    (submitted (coherent.add free) (.set node action) now refuses).of_error stopped
  rw [contains_set_of_add_query] at reason
  have left : request.Failed directory controller tracker now refuses _ :=
    .halfway ⟨⟨notices, resolved⟩, free, taken, reason⟩ lastId (lines ++ [line]) error
  rw [List.map_append] at left
  rw [kept, logged, silent]
  exact left

/-- **A failed dispatch leaves a trace only if it stops halfway.** After every run, a dispatch that
fails has no effect but log lines. If the request asks and sets, and its question is sent before its
setting is stopped, then exactly the question's frame was taken by the transport, and exactly the
question has joined what is in flight and what is owed. Otherwise no frame was taken, and all that
is in flight and owed is as before. -/
theorem Run.failed_dispatch (run : Run timeout history tracker)
    (failed : (request.dispatch directory controller tracker now refuses).result = .error error) :
    request.Failed directory controller tracker now refuses
      (request.dispatch directory controller tracker now refuses) := by
  have coherent := run.accounts.coherent
  unfold Request.dispatch at failed ⊢
  cases resolved : request.resolve directory controller with
  | error found =>
      refine .untouched (fun node target action halfway => ?_) tracker.lastId
        [request.errorLine found] found
      obtain ⟨notices, planned⟩ := halfway.resolved
      rw [resolved] at planned
      cases planned
  | ok planned =>
      obtain ⟨node, plan⟩ := planned
      cases failure : (tracker.submitAll now refuses plan.commands).failure with
      | none => simp only [resolved, failure, reduceCtorEq] at failed
      | some found =>
          obtain ⟨done, command, undone, split, clean, stopped, came⟩ :=
            submitAll_of_failure failure
          simp only [came]
          rcases Plan.commands_eq_append_cons split with rfl | ⟨question, rfl, asked, setting⟩
          · exact failed_at_first coherent resolved split stopped (request.errorLine found)
          · obtain ⟨query, set, notices⟩ := plan
            cases asked
            cases setting
            have planFor := Request.isFor_resolve resolved
            obtain ⟨target, asks⟩ := planFor.asks.resolve_left (Option.some_ne_none _)
            obtain ⟨action, sets⟩ := planFor.sets.resolve_left (Option.some_ne_none _)
            cases asks
            cases sets
            cases first : (tracker.submit (.query node target) now refuses).result with
            | error refusal =>
                rw [submitAll_of_error first] at clean
                cases clean
            | ok ticket =>
                rw [submitAll_of_ok first] at stopped ⊢
                have left := failed_after_question coherent resolved first stopped
                  (request.errorLine found)
                simpa only [submitAll, List.append_nil] using left

/-- A level is asked for and set, and the transport refuses to take the setting. -/
theorem Run.failed_dispatch_of_refused_setting :
    let request : Request := ⟨"basic", "5", ⟨[("update", "1"), ("value", "6")]⟩⟩
    let directory := Directory.empty.register (Device.ofClasses ⟨5⟩ none [.basic])
    let refuses := fun frame : Frame => if frame.priority = .set then some "closed" else none
    Run ⟨10⟩ [] (Tracker.fresh ⟨10⟩) ∧
      (request.dispatch directory ⟨1⟩ (Tracker.fresh ⟨10⟩) ⟨0⟩ refuses).result =
        .error (.transport "closed") ∧
      request.Failed directory ⟨1⟩ (Tracker.fresh ⟨10⟩) ⟨0⟩ refuses
        (request.dispatch directory ⟨1⟩ (Tracker.fresh ⟨10⟩) ⟨0⟩ refuses) := by
  intro request directory refuses
  have failed : (request.dispatch directory ⟨1⟩ (Tracker.fresh ⟨10⟩) ⟨0⟩ refuses).result =
      .error (.transport "closed") := by
    decide +kernel
  exact ⟨.fresh, failed, Run.failed_dispatch .fresh failed⟩

/-- While a setting waits, a request for the same node that asks and sets fails, but its question
has been sent and stays in flight. -/
theorem dispatch_fails_halfway :
    ∃ history tracker, Run ⟨10⟩ history tracker ∧
      let request : Request := ⟨"basic", "5", ⟨[("update", "1"), ("value", "6")]⟩⟩
      let directory := Directory.empty.register (Device.ofClasses ⟨5⟩ none [.basic])
      let dispatched := request.dispatch directory ⟨1⟩ tracker ⟨0⟩ fun _ => none
      dispatched.result = .error (.duplicateInFlight ⟨some ⟨5⟩, .sendData⟩) ∧
        dispatched.sent = [(Command.query ⟨5⟩ .basic).frame] ∧
        dispatched.tracker.inFlight.ids = tracker.inFlight.ids ++ [⟨2⟩] ∧
        dispatched.tracker.inFlight ≠ tracker.inFlight := by
  have run := (@Run.fresh ⟨10⟩).submit (.set ⟨5⟩ (.basic 5)) ⟨0⟩ fun _ => none
  exact ⟨_, _, run, by decide +kernel, by decide +kernel, by decide +kernel, by decide +kernel⟩

end Tracker

end ZWaveGateway
