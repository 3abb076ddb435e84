import ZWaveGateway.Proofs.Tracker.History

/-!
# The ends of transactions

A transaction that ends is told of in one event, and its handle is settled with the same outcome in
the same step; what was not in flight is never told of. `ZWaveGateway.Tracker.Run.concluded`
collects this for whole runs: the events that end transactions, read in order, are the transactions
that ended, with the keys of their commands, and the outcomes that handles are settled with.

Questions that are acknowledged are still in flight, and each is acknowledged once only
(`ZWaveGateway.Tracker.Run.acknowledges`), because the response that does it was owed.
-/

namespace ZWaveGateway

/-- The end of a transaction: which one, under which key, and how. -/
structure Ending where
  id : TransactionId
  key : Key
  outcome : Outcome

/-- What whoever holds the handle is given. -/
def Ending.settlement (ending : Ending) : TransactionId × Outcome :=
  (ending.id, ending.outcome)

/-- What an outcome says about the controller itself. -/
def Outcome.info? : Outcome → Option ControllerInfo
  | .answered (.controllerVersion info) => some info
  | _ => none

/-- The end that an event tells of, if any. That a transaction has timed out says for how long it
has waited at least, which is the tracker's timeout. -/
def Event.ending? (timeout : Duration) : Event → Option Ending
  | .completed id key outcome => some ⟨id, key, outcome⟩
  | .timedOut id key => some ⟨id, key, .timedOut timeout⟩
  | _ => none

/-- The events that tell of an end are those that name a transaction. -/
theorem Event.ended?_eq (timeout : Duration) (event : Event) :
    event.ended? = (event.ending? timeout).map (·.id) := by
  cases event <;> rfl

namespace Effect

/-- The end that an effect tells of, if any. -/
def ending? (timeout : Duration) : Effect → Option Ending
  | .tell event => event.ending? timeout
  | _ => none

/-- The handle that an effect settles, if any, and how. -/
def settlement? : Effect → Option (TransactionId × Outcome)
  | .settle id outcome => some (id, outcome)
  | _ => none

/-- The ends that effects tell of, in order. -/
def endings (timeout : Duration) (effects : List Effect) : List Ending :=
  effects.filterMap (ending? timeout)

/-- The handles that effects settle, and how, in order. -/
def settlements (effects : List Effect) : List (TransactionId × Outcome) :=
  effects.filterMap settlement?

end Effect

/-- The ends that an occurrence tells of, in order. -/
def Occurrence.endings (timeout : Duration) (occurrence : Occurrence) : List Ending :=
  Effect.endings timeout occurrence.effects

/-- The ends that a history tells of, in order. -/
def History.endings (timeout : Duration) (history : History) : List Ending :=
  history.gather (Occurrence.endings timeout)

@[simp]
theorem History.endings_cons (timeout : Duration) (latest : Occurrence) (earlier : History) :
    History.endings timeout (latest :: earlier) =
      earlier.endings timeout ++ latest.endings timeout :=
  gather_cons ..

namespace Tracker

open InFlight

variable {tracker : Tracker} {history : History} {timeout : Duration}

theorem learn_eq (known : Option ControllerInfo) (outcome : Outcome) :
    learn known outcome = outcome.info?.or known := by
  cases outcome with
  | answered answer => cases answer <;> rfl
  | rejected => rfl
  | timedOut after => rfl

/-- An occurrence tells of the ends of transactions in flight, each once and with its own key, and
settles their handles alike; what the tracker knows of the controller is what it was told last. -/
structure Concludes (before : Tracker) (occurrence : Occurrence) (after : Tracker) : Prop where
  settled : Effect.settlements occurrence.effects =
    (occurrence.endings before.timeout).map Ending.settlement
  ended : (occurrence.endings before.timeout).map (·.id) = occurrence.ended
  keyed : ∀ ending ∈ occurrence.endings before.timeout,
    ∃ transaction ∈ before.inFlight.transactions,
      ending.id = transaction.id ∧ ending.key = transaction.key
  informed : after.controllerInfo =
    ((occurrence.endings before.timeout).filterMap (·.outcome.info?)).getLast?.or
      before.controllerInfo

theorem Concludes.settled_ids {occurrence : Occurrence} {after : Tracker}
    (concludes : Concludes tracker occurrence after) :
    (Effect.settlements occurrence.effects).map (·.1) = occurrence.ended := by
  rw [concludes.settled, List.map_map, ← concludes.ended]
  rfl

/-- An occurrence that tells of no end and settles nothing. -/
private theorem Concludes.of_nothing {occurrence : Occurrence} {after : Tracker}
    (silent : occurrence.endings tracker.timeout = [])
    (unsettled : Effect.settlements occurrence.effects = [])
    (noneEnded : occurrence.ended = []) (same : after.controllerInfo = tracker.controllerInfo) :
    Concludes tracker occurrence after where
  settled := by rw [silent, unsettled, List.map_nil]
  ended := by rw [silent, noneEnded, List.map_nil]
  keyed := by
    rw [silent]
    exact fun _ member => nomatch member
  informed := by rw [silent, same, List.filterMap_nil, List.getLast?_nil, Option.none_or]

/-- An occurrence that tells of the end of one transaction in flight. -/
private theorem Concludes.of_ending {occurrence : Occurrence} {after : Tracker} {ending : Ending}
    (told : occurrence.endings tracker.timeout = [ending])
    (settled : Effect.settlements occurrence.effects = [ending.settlement])
    (oneEnded : occurrence.ended = [ending.id])
    (keyed : ∃ transaction ∈ tracker.inFlight.transactions,
      ending.id = transaction.id ∧ ending.key = transaction.key)
    (informed : after.controllerInfo = ending.outcome.info?.or tracker.controllerInfo) :
    Concludes tracker occurrence after where
  settled := by rw [told, settled, List.map_singleton]
  ended := by rw [told, oneEnded, List.map_singleton]
  keyed := by
    rw [told]
    intro other member
    rw [List.mem_singleton.mp member]
    exact keyed
  informed := by
    rw [told, informed]
    cases info : ending.outcome.info? with
    | none => simp only [List.filterMap_cons, info, List.filterMap_nil, List.getLast?_nil]
    | some news =>
        simp only [List.filterMap_cons, info, List.filterMap_nil, List.getLast?_singleton]

theorem concludes_submit (coherent : tracker.inFlight.Coherent tracker.lastId) (command : Command)
    (now : Instant) (refuses : Frame → Option String) :
    Concludes tracker (.submitted command (tracker.submit command now refuses))
      (tracker.submit command now refuses).tracker := by
  have outcome := submitted coherent command now refuses
  generalize tracker.submit command now refuses = submission at outcome ⊢
  cases outcome with
  | duplicate taken => exact .of_nothing rfl rfl rfl rfl
  | refused free refusal => exact .of_nothing rfl rfl rfl rfl
  | accepted free taken => exact .of_nothing rfl rfl rfl rfl

private theorem endings_completion (transaction : Transaction) (outcome : Outcome) :
    Effect.endings timeout (completion transaction outcome) =
      [⟨transaction.id, transaction.key, outcome⟩] := by
  unfold completion Effect.endings
  simp only [List.filterMap_append, List.filterMap_cons, Effect.ending?, Event.ending?,
    List.filterMap_nil, List.singleton_append]
  split <;> rfl

theorem settlements_completion (transaction : Transaction) (outcome : Outcome) :
    Effect.settlements (completion transaction outcome) = [(transaction.id, outcome)] := by
  unfold completion Effect.settlements
  simp only [List.filterMap_append, List.filterMap_cons, Effect.settlement?, List.filterMap_nil,
    List.singleton_append]
  split <;> rfl

theorem concludes_receive (coherent : tracker.inFlight.Coherent tracker.lastId) (frame : Frame) :
    Concludes tracker (.received frame (tracker.receive frame))
      (tracker.receive frame).tracker := by
  have outcome := received coherent frame
  generalize tracker.receive frame = receipt at outcome ⊢
  cases outcome with
  | passedOn useless =>
      refine .of_nothing ?_ rfl rfl rfl
      have ended := Event.ended?_ofFrame frame
      rw [Event.ended?_eq tracker.timeout, Option.map_eq_none_iff] at ended
      simp only [Occurrence.endings, Occurrence.effects, Effect.endings, List.filterMap_cons,
        Effect.ending?, ended, List.filterMap_nil]
  | acknowledged waiting addressed judged => exact .of_nothing rfl rfl rfl rfl
  | malformed waiting addressed judged => exact .of_nothing rfl rfl rfl rfl
  | faulted waiting addressed judged => exact .of_nothing rfl rfl rfl rfl
  | @completed transaction outcome waiting addressed judged =>
      refine .of_ending (endings_completion transaction outcome)
        (settlements_completion transaction outcome) rfl ⟨transaction, waiting, rfl, rfl⟩ ?_
      exact learn_eq tracker.controllerInfo outcome

theorem settlements_silence (ended : List Transaction) :
    Effect.settlements (ended.flatMap (silence timeout)) =
      ended.map fun transaction => (transaction.id, .timedOut timeout) := by
  rw [Effect.settlements, List.filterMap_flatMap, List.map_eq_flatMap]
  rfl

private theorem endings_silence (ended : List Transaction) :
    Effect.endings timeout (ended.flatMap (silence timeout)) =
      ended.map fun transaction => ⟨transaction.id, transaction.key, .timedOut timeout⟩ := by
  rw [Effect.endings, List.filterMap_flatMap, List.map_eq_flatMap]
  rfl

theorem concludes_sweep (coherent : tracker.inFlight.Coherent tracker.lastId) {now : Instant}
    {expiry : Expiry} (sweep : Sweep tracker now expiry) :
    Concludes tracker (.expired expiry) expiry.tracker := by
  obtain @⟨ended, all⟩ := expired coherent sweep
  constructor
  · rw [Occurrence.endings, Occurrence.effects, endings_silence, settlements_silence, List.map_map]
    rfl
  · rw [Occurrence.endings, Occurrence.effects, endings_silence, List.map_map]
    rfl
  · intro ending member
    rw [Occurrence.endings, Occurrence.effects, endings_silence] at member
    obtain ⟨transaction, lapses, rfl⟩ := List.mem_map.mp member
    exact ⟨transaction, List.mem_of_mem_filter (all.subset lapses), rfl, rfl⟩
  · have uninformed : (ended.map fun transaction =>
        (⟨transaction.id, transaction.key, .timedOut tracker.timeout⟩ : Ending)).filterMap
          (·.outcome.info?) = [] := by
      rw [List.filterMap_map]
      exact List.filterMap_eq_nil_iff.mpr fun _ _ => rfl
    rw [Occurrence.endings, Occurrence.effects, endings_silence, uninformed, List.getLast?_nil,
      Option.none_or]

/-- What a history has concluded. Its events tell of the transactions that have ended, with the keys
of the commands they were accepted with, and what the tracker knows of the controller is what the
latest of them said about it. -/
structure Concluded (timeout : Duration) (history : History) (tracker : Tracker) : Prop where
  ended : (history.endings timeout).map (·.id) = history.ended
  keyed : ∀ ending ∈ history.endings timeout,
    ∃ command, (ending.id, command) ∈ history.accepted ∧ ending.key = Key.ofCommand command
  informed : tracker.controllerInfo =
    ((history.endings timeout).filterMap (·.outcome.info?)).getLast?

private theorem Concluded.step (concluded : Concluded timeout history tracker)
    (accounts : Accounts history tracker) (same : tracker.timeout = timeout)
    {occurrence : Occurrence} {after : Tracker} (concludes : Concludes tracker occurrence after) :
    Concluded timeout (occurrence :: history) after := by
  subst same
  constructor
  · rw [History.endings_cons, History.ended_cons, List.map_append, concluded.ended,
      concludes.ended]
  · intro ending member
    rw [History.endings_cons] at member
    rw [History.accepted_cons]
    rcases List.mem_append.mp member with before | latest
    · obtain ⟨command, accepted, key⟩ := concluded.keyed ending before
      exact ⟨command, List.mem_append_left _ accepted, key⟩
    · obtain ⟨transaction, waiting, id, key⟩ := concludes.keyed ending latest
      refine ⟨transaction.command, List.mem_append_left _ ?_, key⟩
      rw [id]
      exact accounts.waiting transaction waiting
  · rw [History.endings_cons, List.filterMap_append, List.getLast?_append, ← concluded.informed]
    exact concludes.informed

theorem Run.concluded (run : Run timeout history tracker) :
    Concluded timeout history tracker := by
  induction run with
  | fresh => exact ⟨rfl, (fun _ member => nomatch member), rfl⟩
  | submit run command now refuses before =>
      exact before.step run.accounts run.timeout_eq
        (concludes_submit run.accounts.coherent command now refuses)
  | receive run frame before =>
      exact before.step run.accounts run.timeout_eq
        (concludes_receive run.accounts.coherent frame)
  | sweep run sweep before =>
      exact before.step run.accounts run.timeout_eq
        (concludes_sweep run.accounts.coherent sweep)

theorem Run.endings_nodup (run : Run timeout history tracker) :
    ((history.endings timeout).map (·.id)).Nodup := by
  rw [run.concluded.ended]
  exact (List.nodup_append.mp run.accounts.parts_nodup).2.1

/-! ## Acknowledgements -/

/-- Only a plain response acknowledges a question. -/
private theorem isResponse_of_acknowledged {frame : Frame} {transaction : Transaction}
    (coherent : tracker.inFlight.Coherent tracker.lastId)
    (waiting : transaction ∈ tracker.inFlight.transactions)
    (addressed : tracker.inFlight.Addresses frame transaction)
    (judged : transaction.command.judge frame = .ok .acknowledged) : isResponse frame = true := by
  have listed := transaction.command.judged frame
  rw [judged] at listed
  rcases coherent.addresses_cases waiting addressed with ⟨plain, -⟩ | ⟨-, same⟩
  · exact plain
  · have kinds : frame.messageClass = transaction.command.answerClass :=
      congrArg Key.messageClass same
    cases listed with
    | acknowledged kind payload taken question =>
        rw [kind] at kinds
        generalize transaction.command = command at kinds question
        cases command with
        | query node target => cases kinds
        | controllerVersion => cases question
        | isFailedNode node => cases question
        | set node action => cases question
    | report kind question reported => cases reported

/-- What has been acknowledged was accepted, once, and is owed no response any more. -/
structure Acknowledges (history : History) (tracker : Tracker) : Prop where
  nodup : history.acknowledged.Nodup
  accepted : ∀ id ∈ history.acknowledged, id ∈ history.acceptedIds
  spent : ∀ owed ∈ tracker.inFlight.owed, owed.id ∉ history.acknowledged

private theorem Acknowledges.of_silent {occurrence : Occurrence} {after : Tracker}
    (acknowledges : Acknowledges history tracker)
    (spent : ∀ owed ∈ after.inFlight.owed, owed.id ∉ history.acknowledged)
    (silent : occurrence.acknowledged = []) : Acknowledges (occurrence :: history) after where
  nodup := by
    rw [History.acknowledged_cons, silent, List.append_nil]
    exact acknowledges.nodup
  accepted := by
    intro id member
    rw [History.acknowledged_cons, silent, List.append_nil] at member
    rw [History.acceptedIds_cons]
    exact List.mem_append_left _ (acknowledges.accepted id member)
  spent := by
    intro owed member
    rw [History.acknowledged_cons, silent, List.append_nil]
    exact spent owed member

theorem Run.acknowledges (run : Run timeout history tracker) : Acknowledges history tracker := by
  induction run with
  | fresh => exact ⟨.nil, (fun _ member => nomatch member), (fun _ member => nomatch member)⟩
  | @submit history tracker run command now refuses before =>
      have outcome := submitted run.accounts.coherent command now refuses
      generalize tracker.submit command now refuses = submission at outcome ⊢
      cases outcome with
      | duplicate taken => exact before.of_silent before.spent rfl
      | refused free refusal => exact before.of_silent before.spent rfl
      | accepted free taken =>
          refine before.of_silent (fun owed member => ?_) rfl
          rcases List.mem_append.mp member with old | new
          · exact before.spent owed old
          · -- The new response is owed to an id that was never given out before.
            rw [List.mem_singleton.mp new]
            intro acknowledged
            have small := run.accounts.known _ (before.accepted _ acknowledged)
            exact Nat.not_succ_le_self _ small
  | @receive history tracker run frame before =>
      have coherent := run.accounts.coherent
      have outcome := received coherent frame
      have owed := outcome.owed_eq ▸ owed_claim_sublist tracker.inFlight frame
      generalize tracker.receive frame = receipt at outcome owed ⊢
      have spent : ∀ one ∈ receipt.tracker.inFlight.owed, one.id ∉ history.acknowledged :=
        fun one member => before.spent one (owed.subset member)
      cases outcome with
      | passedOn useless => exact before.of_silent spent rfl
      | completed waiting addressed judged => exact before.of_silent spent rfl
      | malformed waiting addressed judged => exact before.of_silent spent rfl
      | faulted waiting addressed judged => exact before.of_silent spent rfl
      | @acknowledged transaction waiting addressed judged =>
          have plain := isResponse_of_acknowledged coherent waiting addressed judged
          have taken := coherent.owed_claim_of_addresses plain addressed
          rw [Addresses, if_pos plain] at addressed
          obtain ⟨oldest, found, same⟩ := Option.map_eq_some_iff.mp addressed
          have unspent := same ▸ before.spent oldest (List.mem_of_find?_eq_some found)
          constructor
          · rw [History.acknowledged_cons]
            refine List.Nodup.append before.nodup (List.nodup_singleton _) ?_
            intro id old new
            rw [List.mem_singleton.mp new] at old
            exact unspent old
          · intro id member
            rw [History.acknowledged_cons] at member
            rw [History.acceptedIds_cons]
            refine List.mem_append_left _ ?_
            rcases List.mem_append.mp member with old | new
            · exact before.accepted id old
            · rw [List.mem_singleton.mp new]
              exact List.mem_map.mpr ⟨_, run.accounts.waiting transaction waiting, rfl⟩
          · intro one member
            rw [History.acknowledged_cons]
            intro again
            rcases List.mem_append.mp again with old | new
            · exact spent one member old
            · rw [taken] at member
              exact bne_iff_ne.mp (List.mem_filter.mp member).2 (List.mem_singleton.mp new)
  | sweep run sweep before =>
      refine before.of_silent (fun owed member => ?_) rfl
      obtain ⟨-⟩ := expired run.accounts.coherent sweep
      exact before.spent owed (List.mem_of_mem_filter member)

end Tracker

end ZWaveGateway
