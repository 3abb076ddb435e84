import ZWaveGateway.Proofs.Link.Session
import Mathlib.Data.List.TakeWhile

/-!
# What the link writes

The bytes that a link writes are whole frames and single bytes in reply, one behind the other: read
back, they are the frames that were queued, as they arrive at the other end, in the order of the
queue, and between them the replies (`ZWaveGateway.Link.Session.speaks_whole_frames`).

The link numbers the frames that send data as they are written. Its counter agrees with how many
there have been (`ZWaveGateway.Link.callback`), whatever is read in between. The first frame that
does not fit ends the link before any of its bytes is written, and nothing is written after that.
-/

namespace ZWaveGateway

namespace Frame

@[simp]
theorem toSerial_arrived (frame : Frame) : frame.arrived.toSerial = frame.toSerial := rfl

end Frame

namespace Item

/-- The bytes that an item is read from. -/
def bytes : Item → List UInt8
  | .acknowledge => [Wire.acknowledge]
  | .refuse => [Wire.refuse]
  | .cancel => [Wire.cancel]
  | .frame sent => Wire.wrap sent.toSerial

/-- The single bytes among items. -/
def singles (items : List Item) : List Item :=
  items.filter (·.frame?.isNone)

/-- The bytes of items are read back as these items, whatever is behind them, if the frames among
them have arrived and fit. -/
theorem drain_flatMap_bytes {items : List Item}
    (sound : ∀ sent ∈ items.filterMap frame?,
      sent.arrived = sent ∧ sent.toSerial.length ≤ Wire.maxFrameData) (rest : List UInt8) :
    Stream.drain (items.flatMap bytes ++ rest) =
      (items.map .ok ++ (Stream.drain rest).1, (Stream.drain rest).2) := by
  induction items with
  | nil => rfl
  | cons item later read =>
      have behind := read fun sent member => sound sent <| by
        rw [List.filterMap_cons]
        cases item.frame? with
        | none => exact member
        | some other => exact List.mem_cons_of_mem _ member
      have first : ∀ more, Stream.next (item.bytes ++ more) = (some (.ok item), more) := by
        intro more
        cases item with
        | acknowledge => exact Stream.next_acknowledge more
        | refuse => exact Stream.next_refuse more
        | cancel => exact Stream.next_cancel more
        | frame sent =>
            obtain ⟨arrived, fits⟩ := sound sent List.mem_cons_self
            have read := Stream.next_frame fits more
            rw [arrived] at read
            exact read
      rw [List.flatMap_cons, List.append_assoc, Stream.drain_of_next (first _), behind]
      rfl

end Item

namespace Link

open Item (singles)

/-! ## Callback ids -/

/-- The callback id of a frame that sends data, when so many were written before it. -/
def callback (earlier : Nat) : UInt8 :=
  UInt8.ofNat (earlier % 255 + 1)

theorem toNat_callback (earlier : Nat) : (callback earlier).toNat = earlier % 255 + 1 := by
  rw [callback, UInt8.toNat_ofNat']
  omega

theorem callback_ne_zero (earlier : Nat) : callback earlier ≠ 0 := by
  intro zero
  have same := congrArg UInt8.toNat zero
  rw [toNat_callback] at same
  cases same

/-- Of any 255 consecutive callback ids, no two are the same. -/
theorem callback_injOn {first i j : Nat} (here : i < 255) (there : j < 255)
    (same : callback (first + i) = callback (first + j)) : i = j := by
  have numbers := congrArg UInt8.toNat same
  rw [toNat_callback, toNat_callback] at numbers
  omega

theorem nextCallback_callback (earlier : Nat) :
    nextCallback (callback earlier) = callback (earlier + 1) := by
  apply UInt8.toNat_inj.mp
  unfold nextCallback
  by_cases last : callback earlier = 255
  · have wraps := congrArg UInt8.toNat last
    rw [toNat_callback] at wraps
    change earlier % 255 + 1 = 255 at wraps
    rw [if_pos last, toNat_callback]
    change 1 = _
    omega
  · have more : (callback earlier).toNat ≠ 255 := fun same => last (UInt8.toNat_inj.mp same)
    rw [toNat_callback] at more
    rw [if_neg last, UInt8.toNat_add, toNat_callback, toNat_callback]
    change (earlier % 255 + 1 + 1) % 256 = _
    omega

/-- How many of the frames send data. -/
def sending (frames : List Frame) : Nat :=
  frames.countP (·.messageClass == .sendData)

/-- A frame as it is written when so many that send data were written before it. -/
def withCallback (earlier : Nat) (frame : Frame) : Frame :=
  if frame.messageClass = .sendData then
    Frame.request .sendData frame.priority frame.node (frame.payload ++ [callback earlier])
  else frame

/-- Frames as they are written one after the other. -/
def numbered (earlier : Nat) : List Frame → List Frame
  | [] => []
  | frame :: rest => withCallback earlier frame :: numbered (earlier + sending [frame]) rest

theorem sending_cons (first : Frame) (rest : List Frame) :
    sending (first :: rest) = sending [first] + sending rest := by
  rw [sending, ← List.singleton_append, List.countP_append, ← sending, ← sending]

theorem numbered_concat (earlier : Nat) (frames : List Frame) (frame : Frame) :
    numbered earlier (frames ++ [frame]) =
      numbered earlier frames ++ [withCallback (earlier + sending frames) frame] := by
  induction frames generalizing earlier with
  | nil => rfl
  | cons first rest later =>
      rw [List.cons_append, numbered, later, numbered, sending_cons first rest, Nat.add_assoc]
      rfl

/-- The callback id of a frame follows from how many frames in front of it send data. -/
theorem getElem?_numbered (earlier : Nat) (frames : List Frame) (i : Nat) :
    (numbered earlier frames)[i]? =
      frames[i]?.map (withCallback (earlier + sending (frames.take i))) := by
  induction frames generalizing earlier i with
  | nil => rfl
  | cons first rest later =>
      cases i with
      | zero => rfl
      | succ i =>
          rw [numbered, List.getElem?_cons_succ, List.getElem?_cons_succ, later,
            List.take_succ_cons, sending_cons first (rest.take i), Nat.add_assoc]

/-- A link whose next callback id is right writes the frame with it, and keeps it right. -/
theorem stamp_of_counted {last : UInt8} {earlier : Nat}
    (counted : nextCallback last = callback earlier) (frame : Frame) :
    (stamp last frame).1 = withCallback earlier frame ∧
      nextCallback (stamp last frame).2 = callback (earlier + sending [frame]) := by
  unfold stamp withCallback
  by_cases sends : frame.messageClass = .sendData
  · have one : sending [frame] = 1 := by simp [sending, sends]
    rw [if_pos sends, if_pos sends, one, counted, sends]
    exact ⟨rfl, nextCallback_callback earlier⟩
  · have zero : sending [frame] = 0 := by simp [sending, sends]
    rw [if_neg sends, if_neg sends, zero]
    exact ⟨rfl, counted⟩

theorem fits_iff {frame : Frame} (earlier : Nat) :
    Fits frame ↔ (withCallback earlier frame).toSerial.length ≤ Wire.maxFrameData := by
  unfold Fits stamp withCallback
  split
  · simp [Frame.request]
  · exact Iff.rfl

theorem fits_of_mem_numbered {frames : List Frame} (fits : ∀ frame ∈ frames, Fits frame)
    {earlier : Nat} {frame : Frame} (member : frame ∈ numbered earlier frames) :
    frame.toSerial.length ≤ Wire.maxFrameData := by
  induction frames generalizing earlier with
  | nil => cases member
  | cons first rest later =>
      rcases List.mem_cons.mp member with rfl | behind
      · exact (fits_iff earlier).mp (fits first List.mem_cons_self)
      · exact later (fun other listed => fits other (List.mem_cons_of_mem _ listed)) behind

/-! ## Replies -/

/-- The replies to items that were taken in are acknowledgements and refusals. -/
theorem exists_answers (tracker : Tracker) (items : List (Except FrameError Item)) :
    ∃ answers : List Item, (∀ answer ∈ answers, answer = .acknowledge ∨ answer = .refuse) ∧
      (takeIn tracker items).written = answers.flatMap Item.bytes := by
  have accepts {answers : List Item}
      (single : ∀ answer ∈ answers, answer = .acknowledge ∨ answer = .refuse) :
      ∀ answer ∈ Item.acknowledge :: answers, answer = .acknowledge ∨ answer = .refuse :=
    List.forall_mem_cons.mpr ⟨.inl rfl, single⟩
  induction tracker, items using takeIn_induction with
  | done tracker => exact ⟨[], nofun, rfl⟩
  | faults tracker frame rest broke step =>
      rw [step]
      exact ⟨[.acknowledge], accepts nofun, rfl⟩
  | hands tracker frame effects rest returned same step later =>
      obtain ⟨answers, single, written⟩ := later
      rw [step]
      exact ⟨.acknowledge :: answers, accepts single, congrArg _ written⟩
  | skips tracker item rest other step later =>
      obtain ⟨answers, single, written⟩ := later
      rw [step]
      match item with
      | .ok (.frame frame) => cases other
      | .ok .acknowledge | .ok .refuse | .ok .cancel => exact ⟨answers, single, written⟩
      | .error error =>
          simp only [Intake.after, reply, written]
          split
          · exact ⟨.refuse :: answers, List.forall_mem_cons.mpr ⟨.inr rfl, single⟩, rfl⟩
          · exact ⟨.acknowledge :: answers, accepts single, rfl⟩

/-! ## Sessions -/

namespace Session

variable {timeout : Duration} {turns : List Turn} {taken : List Frame} {said : List Item}

/-- How far a link has come with its queue, when these frames have been written. It runs and has
written all that was queued; or a frame did not fit; or the tracker did not return, in a read
behind the frames written. -/
inductive Stage (timeout : Duration) (turns : List Turn) (taken : List Frame) : Prop where
  | running (status : (run timeout turns).link.status = .running) (all : queued turns = taken)
      (counted : nextCallback (run timeout turns).link.lastCallback = callback (sending taken))
  | tooLong {frame : Frame} {later : List Frame} (split : queued turns = taken ++ frame :: later)
      (long : ¬Fits frame)
      (status : (run timeout turns).link.status = .failed
        (FrameError.tooLong Wire.maxFrameData (stamp 0 frame).1.toSerial.length).message)
  | faulted {reached : List Turn} {bytes : List UInt8} (part : reached ++ [.read bytes] <+: turns)
      (ran : (run timeout reached).link.status = .running) (all : queued reached = taken)
      (status : (run timeout turns).link.status = .faulted)
      (broke : ¬(run timeout turns).history.Returns)

/-- What a link has said: the frames that it has written, and the replies. -/
structure Speech (timeout : Duration) (turns : List Turn) (taken : List Frame) (said : List Item) :
    Prop where
  wire : (run timeout turns).wire = said.flatMap Item.bytes
  frames : said.filterMap Item.frame? = (numbered 0 taken).map Frame.arrived
  replies : (singles said).flatMap Item.bytes = (run timeout turns).replies
  single : ∀ item ∈ singles said, item = .acknowledge ∨ item = .refuse
  fits : ∀ frame ∈ taken, Fits frame
  stage : Stage timeout turns taken

/-- A turn that leaves the link as it is, and what it has said, takes no frame off the queue, or the
link has ended. -/
private theorem Speech.of_same (speech : Speech timeout turns taken said) {next : Turn}
    (link : ((run timeout turns).turn next).link = (run timeout turns).link)
    (replies : ((run timeout turns).turn next).replies = (run timeout turns).replies)
    (wire : ((run timeout turns).turn next).wire = (run timeout turns).wire)
    (idle : next.queued = [] ∨ ¬(run timeout turns).link.isRunning = true) :
    Speech timeout (turns ++ [next]) taken said := by
  have queue : queued (turns ++ [next]) = queued turns ++ next.queued := queued_concat turns next
  rw [← run_concat] at link replies wire
  refine ⟨wire.trans speech.wire, speech.frames, speech.replies.trans replies.symm, speech.single,
    speech.fits, ?_⟩
  cases speech.stage with
  | running status all counted =>
      rcases idle with nothing | ended
      · rw [nothing, List.append_nil] at queue
        exact .running (link ▸ status) (queue.trans all) (link ▸ counted)
      · exact (ended (isRunning_iff.mpr status)).elim
  | @tooLong frame later split long status =>
      rw [split, List.append_assoc, List.cons_append] at queue
      exact .tooLong queue long (link ▸ status)
  | faulted part ran all status broke =>
      refine .faulted (part.trans (List.prefix_append _ _)) ran all (link ▸ status) ?_
      intro returns
      rw [run_concat] at returns
      exact broke (returns.of_suffix (suffix_turn _ next))

/-- A link that runs has written all that was queued. -/
private theorem Stage.of_running (stage : Stage timeout turns taken)
    (running : (run timeout turns).link.isRunning = true) :
    queued turns = taken ∧
      nextCallback (run timeout turns).link.lastCallback = callback (sending taken) := by
  cases stage with
  | running status all counted => exact ⟨all, counted⟩
  | tooLong split long status =>
      rw [isRunning_iff, status] at running
      cases running
  | faulted part ran all status broke =>
      rw [isRunning_iff, status] at running
      cases running

/-- What is read adds replies to what the link has said. -/
theorem Speech.read (speech : Speech timeout turns taken said) (bytes : List UInt8) :
    ∃ more, Speech timeout (turns ++ [.read bytes]) taken (said ++ more) := by
  by_cases running : (run timeout turns).link.isRunning = true
  swap
  · have same := turn_read_of_ended running bytes
    refine ⟨[], ?_⟩
    rw [List.append_nil]
    exact speech.of_same (by rw [same]) (by rw [same]) (by rw [same]) (.inr running)
  obtain ⟨wire, frames, replies, single, fits, stage⟩ := speech
  obtain ⟨all, counted⟩ := stage.of_running running
  obtain ⟨answers, alone, written⟩ := exists_answers (run timeout turns).tracker
    (Stream.drain ((run timeout turns).link.buffer ++ bytes)).1
  have noFrames : answers.filterMap Item.frame? = [] := by
    refine List.filterMap_eq_nil_iff.mpr fun answer member => ?_
    rcases alone answer member with rfl | rfl <;> rfl
  have allSingle : singles answers = answers := by
    refine List.filter_eq_self.mpr fun answer member => ?_
    rcases alone answer member with rfl | rfl <;> rfl
  have after := run_concat timeout turns (.read bytes)
  rw [turn_read running rfl] at after
  have queue : queued (turns ++ [.read bytes]) = taken := by
    rw [queued_concat, all, Turn.queued, List.append_nil]
  refine ⟨answers, ?_, ?_, ?_, ?_, fits, ?_⟩
  · rw [after, List.flatMap_append, ← wire, ← written]
  · rw [List.filterMap_append, noFrames, List.append_nil, frames]
  · rw [after, singles, List.filter_append, ← singles, ← singles, allSingle, List.flatMap_append,
      replies, ← written]
  · rw [singles, List.filter_append, ← singles, ← singles, allSingle]
    exact List.forall_mem_append.mpr ⟨single, alone⟩
  · rcases takeIn_status (run timeout turns).tracker (run timeout turns).history
        (Stream.drain ((run timeout turns).link.buffer ++ bytes)).1 with
      goesOn | ⟨ended, frame, receipt, occurred, broke⟩
    · exact .running (after ▸ goesOn) queue (after ▸ counted)
    · refine .faulted List.prefix_rfl (isRunning_iff.mp running) all (after ▸ ended) ?_
      rw [after]
      exact fun returns => returns frame receipt occurred broke

/-- A frame that is taken off the queue is written whole, or ends the link, or is lost on a link
that has ended. -/
theorem Speech.write (speech : Speech timeout turns taken said) (frame : Frame) :
    ∃ further more, Speech timeout (turns ++ [.write frame]) (taken ++ further) (said ++ more) := by
  by_cases running : (run timeout turns).link.isRunning = true
  swap
  · have same := turn_write_of_ended running frame
    refine ⟨[], [], ?_⟩
    rw [List.append_nil, List.append_nil]
    exact speech.of_same (by rw [same]) (by rw [same]) (by rw [same]) (.inr running)
  obtain ⟨wire, frames, replies, single, fits, stage⟩ := speech
  obtain ⟨all, counted⟩ := stage.of_running running
  have after := run_concat timeout turns (.write frame)
  have queue : queued (turns ++ [.write frame]) = taken ++ [frame] := by
    rw [queued_concat, all, Turn.queued]
  by_cases fit : Fits frame
  · obtain ⟨stamped, next⟩ := stamp_of_counted counted frame
    simp only [turn, write_of_fits running fit] at after
    refine ⟨[frame], [.frame (withCallback (sending taken) frame).arrived], ?_⟩
    constructor
    · rw [after, List.flatMap_append, ← wire, stamped]
      simp [Item.bytes]
    · rw [List.filterMap_append, frames, numbered_concat, List.map_append, Nat.zero_add]
      rfl
    · rw [after]
      simpa [singles, Item.frame?] using replies
    · simpa [singles, Item.frame?] using single
    · exact List.forall_mem_append.mpr ⟨fits, by simpa using fit⟩
    · refine .running ?_ queue ?_
      · rw [after]
        exact isRunning_iff.mp running
      · rw [after, next, sending, sending, sending, List.countP_append]
  · simp only [turn, write_of_not_fits running fit, List.append_nil] at after
    refine ⟨[], [], ?_⟩
    rw [List.append_nil, List.append_nil]
    refine ⟨?_, frames, ?_, single, fits, .tooLong queue fit ?_⟩
    · rw [after, wire]
    · rw [after, replies]
    · rw [after]

theorem exists_speech (timeout : Duration) (turns : List Turn) :
    ∃ taken said, Speech timeout turns taken said := by
  -- The last turn is split off: which callback id comes next depends on all frames before it.
  induction turns using List.reverseRecOn with
  | nil => exact ⟨[], [], rfl, rfl, rfl, nofun, nofun, .running rfl rfl rfl⟩
  | append_singleton turns next before =>
      obtain ⟨taken, said, speech⟩ := before
      cases next with
      | read bytes =>
          obtain ⟨more, further⟩ := speech.read bytes
          exact ⟨_, _, further⟩
      | write frame =>
          obtain ⟨_, _, further⟩ := speech.write frame
          exact ⟨_, _, further⟩
      | submit command now refuses => exact ⟨taken, said, speech.of_same rfl rfl rfl (.inl rfl)⟩
      | expire now => exact ⟨taken, said, speech.of_same rfl rfl rfl (.inl rfl)⟩

/-- However the bytes are cut, they are read back as what was said. -/
theorem Speech.readBack (speech : Speech timeout turns taken said) {chunks : List (List UInt8)}
    (cut : chunks.flatten = (run timeout turns).wire) :
    Stream.drainChunks [] chunks = (said.map .ok, []) := by
  have sound : ∀ sent ∈ said.filterMap Item.frame?,
      sent.arrived = sent ∧ sent.toSerial.length ≤ Wire.maxFrameData := by
    rw [speech.frames]
    intro sent member
    obtain ⟨frame, listed, rfl⟩ := List.mem_map.mp member
    have fit := fits_of_mem_numbered speech.fits listed
    exact ⟨rfl, fit⟩
  have read := Item.drain_flatMap_bytes sound []
  rw [Stream.drain_of_waiting .nothing, List.append_nil, List.append_nil] at read
  rw [Stream.drainChunks_eq_drain .nothing, List.nil_append, cut, speech.wire, read]

/-- The link has come so far in its turns, and has written these frames of those queued up to then.

It has written all in front of the first that does not fit, and has failed by that one. It has come
to the end of its turns, and is running if every frame fits; or it was running until a read behind
them in which the tracker did not return. -/
structure Reached (timeout : Duration) (turns reached : List Turn) (taken : List Frame) : Prop where
  fitting : taken = (queued reached).takeWhile (Fits ·)
  tooLong : ∀ frame later, queued reached = taken ++ frame :: later →
    (run timeout turns).link.status = .failed
      (FrameError.tooLong Wire.maxFrameData (stamp 0 frame).1.toSerial.length).message
  extent : reached = turns ∧
      ((∀ frame ∈ queued turns, Fits frame) → (run timeout turns).link.status = .running) ∨
    (∃ bytes, reached ++ [.read bytes] <+: turns) ∧
      (run timeout reached).link.status = .running ∧
      (run timeout turns).link.status = .faulted ∧ ¬(run timeout turns).history.Returns

theorem Stage.exists_reached (stage : Stage timeout turns taken)
    (fits : ∀ frame ∈ taken, Fits frame) : ∃ reached, Reached timeout turns reached taken := by
  have allFit {reached : List Turn} (all : queued reached = taken) :
      taken = (queued reached).takeWhile (Fits ·) := by
    rw [all]
    refine (List.takeWhile_eq_self_iff.mpr fun frame member => ?_).symm
    exact decide_eq_true (fits frame member)
  have nothingLeft {queue later : List Frame} {frame : Frame} (all : queue = taken)
      (split : queue = taken ++ frame :: later) : False := by
    have sizes := congrArg List.length (all.symm.trans split)
    simp at sizes
  cases stage with
  | running status all counted =>
      exact ⟨turns, allFit all, fun frame later split => (nothingLeft all split).elim,
        .inl ⟨rfl, fun _ => status⟩⟩
  | @tooLong culprit behind split long status =>
      refine ⟨turns, ?_, fun frame later same => ?_, .inl ⟨rfl, fun all => ?_⟩⟩
      · rw [split, List.takeWhile_append_of_pos fun frame member =>
          decide_eq_true (fits frame member)]
        simp [long]
      · obtain ⟨rfl, -⟩ := List.cons.inj (List.append_cancel_left (split.symm.trans same))
        exact status
      · have waits : culprit ∈ queued turns :=
          split ▸ List.mem_append_right _ List.mem_cons_self
        exact (long (all culprit waits)).elim
  | @faulted reached bytes part ran all status broke =>
      exact ⟨reached, allFit all, fun frame later split => (nothingLeft all split).elim,
        .inr ⟨⟨bytes, part⟩, ran, status, broke⟩⟩

/-- **The link writes whole frames and single replies.** After all turns, what the link has written
are the bytes of items one behind the other. However they are cut, they are read back as these
items: the frames that were taken off the queue, in its order and with their callback ids, and the
replies between them. The callback id of a frame that sends data counts those before it; it is never
zero, and no two of 255 consecutive ones are the same.

The frames written are all that were queued in front of the first that does not fit. At that one the
link ends with an error, without a byte of it; while there is none, it runs on. Only if the tracker
does not return on a frame that was read, the link ends there, with all written that was queued up
to then. -/
theorem speaks_whole_frames (timeout : Duration) (turns : List Turn) :
    (∃ reached taken said,
      (run timeout turns).wire = said.flatMap Item.bytes ∧
      (∀ chunks : List (List UInt8), chunks.flatten = (run timeout turns).wire →
        Stream.drainChunks [] chunks = (said.map .ok, [])) ∧
      said.filterMap Item.frame? = (numbered 0 taken).map Frame.arrived ∧
      (singles said).flatMap Item.bytes = (run timeout turns).replies ∧
      (∀ item ∈ singles said, item = .acknowledge ∨ item = .refuse) ∧
      Reached timeout turns reached taken) ∧
    (∀ (frames : List Frame) (i : Nat),
      (numbered 0 frames)[i]? = frames[i]?.map (withCallback (sending (frames.take i)))) ∧
    (∀ earlier, callback earlier ≠ 0) ∧
    ∀ first i j, i < 255 → j < 255 → callback (first + i) = callback (first + j) → i = j := by
  refine ⟨?_, ?_, callback_ne_zero, fun first i j => callback_injOn⟩
  · obtain ⟨taken, said, speech⟩ := exists_speech timeout turns
    obtain ⟨reached, far⟩ := speech.stage.exists_reached speech.fits
    exact ⟨reached, taken, said, speech.wire, fun chunks cut => speech.readBack cut, speech.frames,
      speech.replies, speech.single, far⟩
  · intro frames i
    rw [getElem?_numbered, Nat.zero_add]

/-- After the last callback id comes the first one again. -/
example : callback 254 = 255 ∧ callback 255 = 1 := by decide

end Session

end Link

end ZWaveGateway
