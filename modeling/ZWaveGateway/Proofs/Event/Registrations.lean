import ZWaveGateway.Event.Audience

/-!
# Registrations and what they are told

What is done with a router from the beginning on says who is registered, whether the network was
ever said to be ready, and who is told which event. A registration stands until its listener takes
it back or the router is shut down (`ZWaveGateway.Router.Operation.standing`); an event is told to
all registrations that stand when it is published, unless the router was shut down or the event
repeats that the network is ready (`ZWaveGateway.Router.Operation.recipients`).

A router keeps track of all this (`ZWaveGateway.Router.After`), one operation after the other.
-/

namespace ZWaveGateway.Router

/-- One thing that is done with a router. -/
inductive Operation where
  | subscribe (listener : ListenerId)
  | unsubscribe (listener : ListenerId)
  | publish (event : Event)
  | shutDown
  deriving DecidableEq

namespace Operation

/-- The registration that is made. -/
def registers : Operation → List ListenerId
  | .subscribe listener => [listener]
  | _ => []

/-- The registrations of a listener are taken back. -/
def takesBack (listener : ListenerId) : Operation → Bool
  | .unsubscribe other => other == listener
  | .shutDown => true
  | _ => false

/-- The registrations that stand after operations, in the order in which they were made: those that
nothing later takes back. -/
def standing : List Operation → List ListenerId
  | [] => []
  | operation :: later =>
      (operation.registers.filter fun listener => !later.any (takesBack listener)) ++
        standing later

/-- The network was said to be ready before the router was shut down. -/
def Ready (operations : List Operation) : Prop :=
  ∃ before after, operations = before ++ .publish .networkReady :: after ∧ .shutDown ∉ before

/-- Who is told an event that is published after operations. -/
def recipients (operations : List Operation) (event : Event) : List ListenerId :=
  if .shutDown ∈ operations ∨ event = .networkReady ∧ .publish .networkReady ∈ operations then []
  else standing operations

/-- What listeners are told by an operation that comes after others. -/
def tells (before : List Operation) : Operation → List Delivery
  | .publish event => (recipients before event).map (⟨·, event⟩)
  | _ => []

/-- What listeners are told by operations that come after others. -/
def toldSince (before : List Operation) : List Operation → List Delivery
  | [] => []
  | operation :: later => operation.tells before ++ toldSince (before ++ [operation]) later

/-- What listeners are told by operations, in order. -/
def told (operations : List Operation) : List Delivery :=
  toldSince [] operations

variable {operations before later : List Operation} {operation : Operation} {event : Event}

/-! ## One operation more -/

theorem standing_concat (operations : List Operation) (operation : Operation) :
    standing (operations ++ [operation]) =
      (standing operations).filter (fun listener => !operation.takesBack listener) ++
        operation.registers := by
  induction operations with
  | nil => exact (List.append_nil _).trans (List.filter_eq_self.mpr fun _ _ => rfl)
  | cons first later concat =>
      rw [List.cons_append, standing, concat, standing, List.filter_append, List.filter_filter,
        List.append_assoc]
      congr 2
      funext listener
      rw [List.any_append, List.any_cons, List.any_nil, Bool.or_false, Bool.not_or, Bool.and_comm]

theorem ready_concat :
    Ready (operations ++ [operation]) ↔
      Ready operations ∨ operation = .publish .networkReady ∧ .shutDown ∉ operations := by
  constructor
  · rintro ⟨before, after, split, opened⟩
    obtain rfl | ⟨after, last, rfl⟩ := List.eq_nil_or_concat after
    · obtain ⟨rfl, same⟩ := List.append_inj' split rfl
      exact .inr ⟨List.head_eq_of_cons_eq same, opened⟩
    · rw [List.concat_eq_append, ← List.cons_append, ← List.append_assoc] at split
      obtain ⟨rfl, -⟩ := List.append_inj' split rfl
      exact .inl ⟨before, after, rfl, opened⟩
  · rintro (⟨before, after, rfl, opened⟩ | ⟨rfl, opened⟩)
    · exact ⟨before, after ++ [operation], List.append_assoc _ _ _, opened⟩
    · exact ⟨operations, [], rfl, opened⟩

/-- With an open router, whatever was published was published before the router was shut down. -/
theorem ready_iff_of_open (opened : .shutDown ∉ operations) :
    Ready operations ↔ .publish .networkReady ∈ operations := by
  constructor
  · rintro ⟨before, after, rfl, -⟩
    exact List.mem_append_right _ List.mem_cons_self
  · intro published
    obtain ⟨before, after, rfl⟩ := List.append_of_mem published
    exact ⟨before, after, rfl, fun shut => opened (List.mem_append_left _ shut)⟩

theorem toldSince_append (before operations later : List Operation) :
    toldSince before (operations ++ later) =
      toldSince before operations ++ toldSince (before ++ operations) later := by
  induction operations generalizing before with
  | nil => rw [List.nil_append, toldSince, List.nil_append, List.append_nil]
  | cons first rest append =>
      rw [List.cons_append, toldSince, append, toldSince, List.append_assoc, List.append_assoc]
      rfl

theorem told_concat (operations : List Operation) (operation : Operation) :
    told (operations ++ [operation]) = told operations ++ operation.tells operations := by
  rw [told, toldSince_append, toldSince, toldSince, List.append_nil]
  rfl

theorem told_of_silent (silent : operation.tells operations = []) :
    told (operations ++ [operation]) = told operations := by
  rw [told_concat, silent, List.append_nil]

/-! ## That the network is ready is told once -/

/-- Whatever is told was published, and its listener was among the recipients. -/
theorem exists_of_mem_toldSince {delivery : Delivery}
    (heard : delivery ∈ toldSince before operations) :
    ∃ earlier rest, operations = earlier ++ .publish delivery.event :: rest ∧
      delivery.listener ∈ recipients (before ++ earlier) delivery.event := by
  induction operations generalizing before with
  | nil => exact (List.not_mem_nil heard).elim
  | cons first rest since =>
      rcases List.mem_append.mp heard with now | later
      · cases first with
        | publish event =>
            obtain ⟨listener, due, rfl⟩ := List.mem_map.mp now
            exact ⟨[], rest, rfl, (List.append_nil before).symm ▸ due⟩
        | subscribe listener => exact (List.not_mem_nil now).elim
        | unsubscribe listener => exact (List.not_mem_nil now).elim
        | shutDown => exact (List.not_mem_nil now).elim
      · obtain ⟨earlier, behind, rfl, due⟩ := since later
        refine ⟨first :: earlier, behind, rfl, ?_⟩
        rwa [List.append_assoc] at due

/-- Only the first time that the network is said to be ready is told, and to every registration that
stood then. -/
theorem told_networkReady (opened : .shutDown ∉ before)
    (first : .publish .networkReady ∉ before) (later : List Operation) :
    (told (before ++ .publish .networkReady :: later)).filter (·.event == .networkReady) =
      (standing before).map (⟨·, .networkReady⟩) := by
  -- Nothing before was such news, and everything after repeats it.
  have unheard : (told before).filter (·.event == .networkReady) = [] := by
    refine List.filter_eq_nil_iff.mpr fun delivery heard ready => first ?_
    obtain ⟨earlier, rest, rfl, -⟩ := exists_of_mem_toldSince heard
    rw [← eq_of_beq ready]
    exact List.mem_append_right _ List.mem_cons_self
  have silent : (toldSince (before ++ [.publish .networkReady]) later).filter
      (·.event == .networkReady) = [] := by
    refine List.filter_eq_nil_iff.mpr fun delivery heard ready => ?_
    obtain ⟨earlier, rest, -, due⟩ := exists_of_mem_toldSince heard
    have again : .publish .networkReady ∈ before ++ [.publish .networkReady] ++ earlier :=
      List.mem_append_left _ (List.mem_append_right _ List.mem_cons_self)
    rw [recipients, if_pos (.inr ⟨eq_of_beq ready, again⟩)] at due
    exact List.not_mem_nil due
  have announced : tells before (.publish .networkReady) =
      (standing before).map (⟨·, .networkReady⟩) := by
    rw [tells, recipients, if_neg (not_or.mpr ⟨opened, fun both => first both.2⟩)]
  rw [told, toldSince_append, toldSince, List.filter_append, List.filter_append, List.nil_append,
    announced, silent, List.append_nil]
  refine (congrArg (· ++ _) unheard).trans ?_
  rw [List.nil_append, List.filter_map]
  exact congrArg _ (List.filter_eq_self.mpr fun _ _ => BEq.rfl)

theorem told_networkReady_of_not_ready (unready : ¬Ready operations) :
    (told operations).filter (·.event == .networkReady) = [] := by
  refine List.filter_eq_nil_iff.mpr fun delivery heard ready => unready ?_
  obtain ⟨earlier, rest, rfl, due⟩ := exists_of_mem_toldSince heard
  rw [eq_of_beq ready]
  refine ⟨earlier, rest, rfl, fun shut => ?_⟩
  rw [recipients, if_pos (.inl shut)] at due
  exact List.not_mem_nil due

end Operation

/-! ## What a router knows -/

open Operation

/-- The router is as operations leave a fresh one. -/
structure After (operations : List Operation) (router : Router) : Prop where
  registered : router.registered = standing operations
  closed : router.closed = true ↔ .shutDown ∈ operations
  ready : router.networkReady = true ↔ Ready operations

variable {operations : List Operation} {router : Router}

theorem after_fresh : After [] fresh where
  registered := rfl
  closed := iff_of_false Bool.false_ne_true List.not_mem_nil
  ready := by
    refine iff_of_false Bool.false_ne_true ?_
    rintro ⟨before, after, split, -⟩
    exact List.append_ne_nil_of_right_ne_nil _ (List.cons_ne_nil _ _) split.symm

namespace After

variable (kept : After operations router)

include kept

/-- An operation that neither publishes nor shuts down. -/
private theorem keeps (operation : Operation) (goesOn : operation ≠ .shutDown)
    (silent : operation ≠ .publish .networkReady) {registered : List ListenerId}
    (same : registered = standing (operations ++ [operation])) :
    After (operations ++ [operation]) { router with registered } where
  registered := same
  closed := by
    rw [List.mem_append, List.mem_singleton, or_iff_left goesOn.symm]
    exact kept.closed
  ready := by
    rw [ready_concat, or_iff_left fun both => silent both.1]
    exact kept.ready

theorem subscribe (listener : ListenerId) :
    After (operations ++ [.subscribe listener]) (router.subscribe listener) := by
  refine kept.keeps (.subscribe listener) nofun nofun ?_
  rw [standing_concat, kept.registered]
  exact congrArg (· ++ _) (List.filter_eq_self.mpr fun _ _ => rfl).symm

theorem unsubscribe (listener : ListenerId) :
    After (operations ++ [.unsubscribe listener]) (router.unsubscribe listener) := by
  refine kept.keeps (.unsubscribe listener) nofun nofun ?_
  rw [standing_concat, kept.registered]
  refine Eq.trans ?_ (List.append_nil _).symm
  refine List.filter_congr fun other _ => ?_
  rw [takesBack, bne, Bool.beq_comm]

theorem shutDown : After (operations ++ [.shutDown]) router.shutDown where
  registered := by
    rw [standing_concat]
    refine Eq.trans ?_ (List.append_nil _).symm
    exact (List.filter_eq_nil_iff.mpr fun _ _ => Bool.false_ne_true).symm
  closed := iff_of_true rfl (List.mem_append_right _ List.mem_cons_self)
  ready := by
    rw [ready_concat, or_iff_left fun both => nomatch both.1]
    exact kept.ready

/-- A published event reaches its recipients, and the router remembers that it was published. -/
theorem publish (event : Event) :
    After (operations ++ [.publish event]) (router.publish event).1 ∧
      (router.publish event).2 = recipients operations event := by
  have stands : standing (operations ++ [.publish event]) = standing operations := by
    rw [standing_concat]
    exact (List.append_nil _).trans (List.filter_eq_self.mpr fun _ _ => rfl)
  have shut : router.closed = true ↔ .shutDown ∈ operations ++ [.publish event] := by
    rw [List.mem_append, List.mem_singleton, or_iff_left nofun]
    exact kept.closed
  unfold Router.publish
  by_cases closed : router.closed = true
  · rw [closed, Bool.true_or, if_pos rfl]
    have gone := kept.closed.mp closed
    refine ⟨⟨kept.registered.trans stands.symm, shut, ?_⟩, (if_pos (.inl gone)).symm⟩
    rw [ready_concat, or_iff_left fun both => both.2 gone]
    exact kept.ready
  have opened : .shutDown ∉ operations := fun gone => closed (kept.closed.mpr gone)
  have known := kept.ready.trans (ready_iff_of_open opened)
  rw [Bool.eq_false_iff.mpr closed, Bool.false_or]
  by_cases repeats : router.repeats event = true
  · obtain ⟨same, ready⟩ := Bool.and_eq_true_iff.mp repeats
    obtain rfl := eq_of_beq same
    rw [if_pos repeats]
    refine ⟨⟨kept.registered.trans stands.symm, shut, ?_⟩, ?_⟩
    · rw [ready_concat]
      exact iff_of_true ready (.inl (kept.ready.mp ready))
    · exact (if_pos (.inr ⟨rfl, known.mp ready⟩)).symm
  · rw [if_neg repeats]
    refine ⟨⟨kept.registered.trans stands.symm, ?_, ?_⟩, ?_⟩
    · exact Bool.eq_false_iff.mpr closed ▸ shut
    · rw [Bool.or_eq_true, beq_iff_eq, ready_concat, kept.ready, publish.injEq, and_iff_left opened]
    · have news : ¬(event = .networkReady ∧ .publish .networkReady ∈ operations) :=
        fun ⟨same, before⟩ =>
          repeats (Bool.and_eq_true_iff.mpr ⟨beq_iff_eq.mpr same, known.mpr before⟩)
      rw [recipients, if_neg (not_or.mpr ⟨opened, news⟩), kept.registered]

end After

end ZWaveGateway.Router
