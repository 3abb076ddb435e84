import ZWaveGateway.Event.Audience

/-!
# What a listener hears

Listeners may talk back while they are being told an event, and what one of them says can reach the
others before the event does. A listener that is registered once, with an open router, still hears
of the end of a transaction exactly once for every such event that is announced, and in the order
of the announcements, as long as nobody shuts the router down, touches that listener's
registration, or announces such an end himself
(`ZWaveGateway.Audience.HeardBy.heard_announce`).
-/

namespace ZWaveGateway

/-- The delivery tells a listener of the end of a transaction. -/
def Delivery.endsFor (listener : ListenerId) (delivery : Delivery) : Bool :=
  delivery.listener == listener && delivery.event.ended?.isSome

namespace Audience

variable {audience : Audience} {listener : ListenerId}

/-- What somebody says that neither touches a listener's registration nor makes up the end of a
transaction. -/
def Harmless (audience : Audience) (listener : ListenerId) : Reaction → Prop
  | .subscribe name => audience.named? name ≠ some listener
  | .unsubscribe name => audience.named? name ≠ some listener
  | .shutDown => False
  | .publish event => event.ended? = none

/-- The listener is registered, once, with an open router, and nothing that is still to be said
changes that. -/
structure HeardBy (audience : Audience) (listener : ListenerId) : Prop where
  opened : audience.router.closed = false
  once : audience.router.registered.count listener = 1
  harmless : ∀ entry ∈ audience.reactions, audience.Harmless listener entry.2

private theorem HeardBy.of_router (heard : audience.HeardBy listener) {router : Router}
    (opened : router.closed = false)
    (same : router.registered.count listener = audience.router.registered.count listener) :
    { audience with router }.HeardBy listener :=
  ⟨opened, same.trans heard.once, heard.harmless⟩

private theorem publish_keeps (router : Router) (event : Event) :
    (router.publish event).1.closed = router.closed ∧
      (router.publish event).1.registered = router.registered := by
  unfold Router.publish
  split <;> exact ⟨rfl, rfl⟩

theorem HeardBy.publish (heard : audience.HeardBy listener) (event : Event) :
    (audience.publish event).1.HeardBy listener := by
  obtain ⟨closed, registered⟩ := publish_keeps audience.router event
  exact heard.of_router (closed.trans heard.opened) (congrArg (List.count listener) registered)

/-- The end of a transaction is due to a registered listener once. -/
theorem HeardBy.due_of_ended (heard : audience.HeardBy listener) {event : Event}
    (ends : event.ended?.isSome = true) :
    (audience.publish event).2.filter (Delivery.endsFor listener) = [⟨listener, event⟩] := by
  have news : audience.router.repeats event = false := by
    cases event <;> first | rfl | cases ends
  have due : (audience.publish event).2 = audience.router.registered.map (⟨·, event⟩) := by
    simp only [Audience.publish, Router.publish, heard.opened, news, Bool.or_self,
      Bool.false_eq_true, ↓reduceIte]
  rw [due, List.filter_map]
  have chosen : (Delivery.endsFor listener ∘ fun other => (⟨other, event⟩ : Delivery)) =
      (· == listener) := by
    funext other
    simp only [Function.comp_apply, Delivery.endsFor, ends, Bool.and_true]
  rw [chosen, List.filter_beq, heard.once]
  rfl

theorem due_of_not_ended {event : Event} (other : event.ended? = none) :
    (audience.publish event).2.filter (Delivery.endsFor listener) = [] := by
  refine List.filter_eq_nil_iff.mpr fun delivery due => ?_
  obtain ⟨recipient, -, rfl⟩ := List.mem_map.mp due
  simp only [Delivery.endsFor, other, Option.isSome_none, Bool.and_false, Bool.false_eq_true,
    not_false_eq_true]

/-- A harmless reaction keeps a listener registered, and tells it of no end. -/
theorem HeardBy.react (heard : audience.HeardBy listener) {reaction : Reaction}
    (harmless : audience.Harmless listener reaction) :
    (audience.react reaction).1.HeardBy listener ∧
      (audience.react reaction).2.filter (Delivery.endsFor listener) = [] := by
  cases reaction with
  | subscribe name =>
      cases named : audience.named? name with
      | none =>
          simp only [Audience.react, named]
          exact ⟨heard, rfl⟩
      | some id =>
          simp only [Audience.react, named]
          have different : id ≠ listener :=
            fun same => harmless (named.trans (congrArg some same))
          refine ⟨heard.of_router heard.opened ?_, rfl⟩
          rw [Router.subscribe, List.count_append, List.count_singleton,
            if_neg (by simpa using different), Nat.add_zero]
  | unsubscribe name =>
      cases named : audience.named? name with
      | none =>
          simp only [Audience.react, named]
          exact ⟨heard, rfl⟩
      | some id =>
          simp only [Audience.react, named]
          have different : listener ≠ id :=
            fun same => harmless (named.trans (congrArg some same.symm))
          refine ⟨heard.of_router heard.opened ?_, rfl⟩
          exact List.count_filter (bne_iff_ne.mpr different)
  | shutDown => exact harmless.elim
  | publish event => exact ⟨heard.publish event, due_of_not_ended harmless⟩

private theorem deliver_of_silent {delivery : Delivery} (rest : List Delivery)
    (silent : audience.reaction? delivery.listener = none) :
    audience.deliver (delivery :: rest) =
      ((audience.deliver rest).1, delivery :: (audience.deliver rest).2) := by
  rw [Audience.deliver]
  split
  · rfl
  · next waiting =>
      rw [silent] at waiting
      cases waiting

private theorem deliver_of_reaction {delivery : Delivery} {reaction : Reaction}
    (rest : List Delivery) (waiting : audience.reaction? delivery.listener = some reaction) :
    audience.deliver (delivery :: rest) =
      let spoken := (audience.spoken delivery.listener).react reaction
      ((spoken.1.deliver (spoken.2 ++ rest)).1,
        delivery :: (spoken.1.deliver (spoken.2 ++ rest)).2) := by
  rw [Audience.deliver]
  split
  · next silent =>
      rw [waiting] at silent
      cases silent
  · next other =>
      rw [waiting] at other
      cases other
      rfl

private theorem HeardBy.spoken (heard : audience.HeardBy listener) (speaker : ListenerId) :
    (audience.spoken speaker).HeardBy listener :=
  ⟨heard.opened, heard.once, fun entry member =>
    heard.harmless entry (List.mem_filter.mp member).1⟩

/-- Making deliveries keeps a listener registered, and tells it of the ends that are due to it. -/
theorem HeardBy.deliver (heard : audience.HeardBy listener) (due : List Delivery) :
    (audience.deliver due).1.HeardBy listener ∧
      (audience.deliver due).2.filter (Delivery.endsFor listener) =
        due.filter (Delivery.endsFor listener) := by
  -- Along the recursion of `deliver`: what a listener says comes before the rest, and adds no end.
  induction audience, due using Audience.deliver.induct with
  | case1 audience =>
      rw [Audience.deliver]
      exact ⟨heard, rfl⟩
  | case2 audience delivery rest silent after made shape later =>
      obtain ⟨kept, told⟩ := later heard
      rw [deliver_of_silent rest silent]
      refine ⟨kept, ?_⟩
      rw [List.filter_cons, List.filter_cons, told]
  | case3 audience delivery rest reaction waiting quiet fewer after made shape later =>
      obtain ⟨entry, found, rfl⟩ := Option.map_eq_some_iff.mp waiting
      have harmless := heard.harmless entry (List.mem_of_find?_eq_some found)
      obtain ⟨reacted, nothing⟩ := (heard.spoken delivery.listener).react harmless
      obtain ⟨kept, told⟩ := later reacted
      rw [deliver_of_reaction rest waiting]
      refine ⟨kept, ?_⟩
      rw [List.filter_cons, List.filter_cons, told, List.filter_append, nothing, List.nil_append]

/-- **A listener hears of an end once.** Announcing an event keeps a listener registered, and makes
one delivery to it that tells of an end if the event does, and else none. -/
theorem HeardBy.heard_announce (heard : audience.HeardBy listener) (event : Event) :
    (audience.announce event).1.HeardBy listener ∧
      (audience.announce event).2.2.filter (Delivery.endsFor listener) =
        if event.ended?.isSome then [⟨listener, event⟩] else [] := by
  obtain ⟨kept, told⟩ := (heard.publish event).deliver (audience.publish event).2
  refine ⟨kept, told.trans ?_⟩
  split
  · next ends => exact heard.due_of_ended ends
  · next other => exact due_of_not_ended (Option.not_isSome_iff_eq_none.mp other)

end Audience

end ZWaveGateway
