import ZWaveGateway.Event.Journal
import ZWaveGateway.Event.Router

/-!
# Listeners that talk back

A listener that notes its events at once may use the router while it is being told one: it may
register or leave, shut the router down, or publish an event of its own. It does so once, after its
first delivery. What it publishes is delivered in full before the event that made it speak goes on
to the next listener; who receives an event was settled when it was published.

Deliveries therefore form a stack. Each step either makes a delivery or lets a listener speak for
the only time, so all deliveries come to an end.
-/

namespace ZWaveGateway

/-- What a listener does with the router, once. Listeners are named. -/
inductive Reaction where
  | subscribe (name : String)
  | unsubscribe (name : String)
  | shutDown
  | publish (event : Event)
  deriving DecidableEq

/-- What becomes of the events a listener is told. -/
inductive ListenerKind where
  /-- They are noted at once. -/
  | recorder
  /-- They wait in a channel for a consumer. -/
  | channel
  /-- They are written to the log. -/
  | journal
  deriving DecidableEq, Repr

/-- A listener and its name. -/
structure Listener where
  name : String
  kind : ListenerKind
  deriving DecidableEq, Repr

/-- An event that a listener was told. -/
structure Delivery where
  listener : ListenerId
  event : Event
  deriving DecidableEq

/-- A router, the listeners there are, and what they have still to say. -/
structure Audience where
  router : Router
  listeners : List Listener
  reactions : List (ListenerId × Reaction)

namespace Audience

/-- A router without listeners. -/
def empty : Audience :=
  ⟨Router.fresh, [], []⟩

/-- Make a listener, which is not yet registered. Only a recorder has something to say. -/
def introduce (audience : Audience) (name : String) (kind : ListenerKind)
    (reaction : Option Reaction) : Audience :=
  let id : ListenerId := ⟨audience.listeners.length⟩
  let said := reaction.filter fun _ => kind == .recorder
  { audience with
    listeners := audience.listeners ++ [⟨name, kind⟩]
    reactions := audience.reactions ++ (said.map (id, ·)).toList }

/-- The listener with a given id. -/
def listener? (audience : Audience) (id : ListenerId) : Option Listener :=
  audience.listeners[id.number]?

/-- The latest listener of a given name. -/
def named? (audience : Audience) (name : String) : Option ListenerId :=
  (audience.listeners.zipIdx.reverse.find? fun (listener, _) => listener.name == name).map
    fun (_, number) => ⟨number⟩

/-- Let listeners hear an event: the deliveries still to be made. -/
def publish (audience : Audience) (event : Event) : Audience × List Delivery :=
  let (router, recipients) := audience.router.publish event
  ({ audience with router }, recipients.map (⟨·, event⟩))

/-- What a listener does with the router. -/
def react (audience : Audience) : Reaction → Audience × List Delivery
  | .subscribe name =>
      match audience.named? name with
      | some id => ({ audience with router := audience.router.subscribe id }, [])
      | none => (audience, [])
  | .unsubscribe name =>
      match audience.named? name with
      | some id => ({ audience with router := audience.router.unsubscribe id }, [])
      | none => (audience, [])
  | .shutDown => ({ audience with router := audience.router.shutDown }, [])
  | .publish event => audience.publish event

/-- What a listener has still to say. -/
def reaction? (audience : Audience) (id : ListenerId) : Option Reaction :=
  (audience.reactions.find? (·.1 == id)).map (·.2)

/-- The audience once a listener has nothing more to say. -/
def spoken (audience : Audience) (id : ListenerId) : Audience :=
  { audience with reactions := audience.reactions.filter (·.1 != id) }

@[simp]
theorem reactions_react (audience : Audience) (reaction : Reaction) :
    (audience.react reaction).1.reactions = audience.reactions := by
  unfold react publish
  repeat' split
  all_goals rfl

/-- A listener speaks at most once. -/
theorem length_reactions_spoken_lt {audience : Audience} {id : ListenerId} {reaction : Reaction}
    (waiting : audience.reaction? id = some reaction) :
    (audience.spoken id).reactions.length < audience.reactions.length := by
  obtain ⟨entry, found, -⟩ := Option.map_eq_some_iff.mp waiting
  have named : entry.1 = id := by simpa using List.find?_some found
  have member := List.mem_of_find?_eq_some found
  refine Nat.lt_of_le_of_ne (List.length_filter_le _ _) fun same => ?_
  have kept := List.length_filter_eq_length_iff.mp same entry member
  simp [named] at kept

/-- Make deliveries, and all that they give rise to, in order. -/
def deliver (audience : Audience) : List Delivery → Audience × List Delivery
  | [] => (audience, [])
  | delivery :: rest =>
      match waiting : audience.reaction? delivery.listener with
      | none =>
          let (audience, made) := deliver audience rest
          (audience, delivery :: made)
      | some reaction =>
          let quiet := audience.spoken delivery.listener
          have _fewer : quiet.reactions.length < audience.reactions.length :=
            length_reactions_spoken_lt waiting
          let (audience, made) := deliver (quiet.react reaction).1
            ((quiet.react reaction).2 ++ rest)
          (audience, delivery :: made)
termination_by deliveries => (audience.reactions.length, deliveries.length)

/-- Publish an event and make all deliveries: the audience afterwards, how many listeners received
the event itself, and the deliveries in the order in which they were made. -/
def announce (audience : Audience) (event : Event) : Audience × Nat × List Delivery :=
  let (told, due) := audience.publish event
  let (after, made) := told.deliver due
  (after, due.length, made)

/-- When nobody has anything to say, all deliveries that are due are made, and no others. -/
theorem deliver_of_quiet {audience : Audience} (quiet : audience.reactions = [])
    (due : List Delivery) : audience.deliver due = (audience, due) := by
  induction due with
  | nil => rw [deliver]
  | cons delivery rest later =>
      have silent : audience.reaction? delivery.listener = none := by
        rw [reaction?, quiet]
        rfl
      rw [deliver]
      split
      · rw [later]
      · next waiting =>
          rw [silent] at waiting
          cases waiting

theorem announce_of_quiet {audience : Audience} (quiet : audience.reactions = []) (event : Event) :
    audience.announce event =
      ((audience.publish event).1, (audience.publish event).2.length,
        (audience.publish event).2) := by
  have still : (audience.publish event).1.reactions = [] := quiet
  simp only [announce, deliver_of_quiet still]

/-- The log lines that deliveries leave behind. -/
def journal (audience : Audience) (deliveries : List Delivery) : List LogLine :=
  deliveries.filterMap fun delivery =>
    match audience.listener? delivery.listener with
    | some ⟨_, .journal⟩ => some delivery.event.journalLine
    | _ => none

/-- Deliveries to the listeners of one kind. -/
def madeTo (audience : Audience) (kind : ListenerKind) (deliveries : List Delivery) :
    List Delivery :=
  deliveries.filter fun delivery =>
    (audience.listener? delivery.listener).any (·.kind == kind)

/-- The deliveries as they are read afterwards: those noted at once, in order, and then what waits
in each channel, one channel after the other. -/
def readOut (audience : Audience) (deliveries : List Delivery) : List Delivery :=
  audience.madeTo .recorder deliveries ++
    (audience.madeTo .channel deliveries).mergeSort fun first second =>
      first.listener.number ≤ second.listener.number

/-- The name of a listener. -/
def nameOf (audience : Audience) (id : ListenerId) : String :=
  ((audience.listener? id).map (·.name)).getD ""

end Audience

end ZWaveGateway
