import ZWaveGateway.Proofs.Text.Utf8
import ZWaveGateway.Proofs.Tracker.Operations
import Mathlib.Data.List.GetD
import Mathlib.Data.List.TakeWhile

/-!
# The version text of the controller

The controller sends its version as text in a field of fixed width, filled up with NUL, and behind
it the code of its library. The gateway reads the field up to the first NUL, as UTF-8 that may be
damaged, and takes the blanks off both ends. What it reads from the field of a text is therefore the
text up to its first NUL without the blanks (`ZWaveGateway.versionText_versionField`).

A text that fits in the field, has no NUL and neither starts nor ends with a blank comes back as it
was (`ZWaveGateway.Transaction.reads_version_back`). Nothing that stands behind a NUL of the field
or behind the code of the library has a part in what a version response comes to.
-/

namespace ZWaveGateway

/-- The field that holds a version text: its bytes, filled up with NUL. -/
def versionField (version : String) : List UInt8 :=
  (Text.Utf8.bytes version).rightpad versionTextLength 0

/-- A text that the version field can hold, and that reading does not cut. -/
structure Storable (version : String) : Prop where
  fits : (Text.Utf8.bytes version).length ≤ versionTextLength
  unbroken : '\x00' ∉ version.toList
  opens : ∀ c ∈ version.toList.head?, Text.isBlank c = false
  closes : ∀ c ∈ version.toList.getLast?, Text.isBlank c = false

/-- Two fields of one width that differ behind a NUL, if at all. -/
inductive SameText : List UInt8 → List UInt8 → Prop where
  | same (field : List UInt8) : SameText field field
  | hidden {shown first second : List UInt8} (width : first.length = second.length) :
      SameText (shown ++ 0 :: first) (shown ++ 0 :: second)

variable {version : String}

/-! ## The field -/

theorem length_versionField (fits : (Text.Utf8.bytes version).length ≤ versionTextLength) :
    (versionField version).length = versionTextLength := by
  rw [versionField, List.length_rightpad, Nat.max_eq_left fits]

theorem takeWhile_append_zero (shown hidden : List UInt8) :
    (shown ++ 0 :: hidden).takeWhile (· != 0) = shown.takeWhile (· != 0) := by
  induction shown with
  | nil => rfl
  | cons first rest ih => rw [List.cons_append, List.takeWhile_cons, List.takeWhile_cons, ih]

/-- Reading the field of a text stops at the first NUL of the text, or else at the filling. -/
theorem takeWhile_versionField (version : String) :
    (versionField version).takeWhile (· != 0) =
      (Text.Utf8.bytes version).takeWhile (· != 0) := by
  unfold versionField List.rightpad
  cases versionTextLength - (Text.Utf8.bytes version).length with
  | zero => rw [List.replicate_zero, List.append_nil]
  | succ count => rw [List.replicate_succ, takeWhile_append_zero]

/-- What is read from the field of a text is the text up to its first NUL, without the blanks at its
two ends. -/
theorem versionText_versionField (version : String) :
    versionText (versionField version) =
      Text.trim (String.ofList (version.toList.takeWhile (· != '\x00'))) := by
  rw [versionText, takeWhile_versionField, Text.Utf8.bytes_eq_flatMap,
    Text.Utf8.takeWhile_flatMap_utf8EncodeChar, Text.Utf8.text,
    Text.Utf8.decode_flatMap_utf8EncodeChar]

theorem Storable.versionText_eq (storable : Storable version) :
    versionText (versionField version) = version := by
  have unbroken : version.toList.takeWhile (· != '\x00') = version.toList := by
    rw [List.takeWhile_eq_self_iff]
    exact fun c part => bne_iff_ne.mpr fun nul => storable.unbroken (nul ▸ part)
  rw [versionText_versionField, unbroken, String.ofList_toList, Text.trim,
    Text.trimChars_eq_self storable.opens storable.closes, String.ofList_toList]

namespace SameText

variable {first second : List UInt8}

theorem length_eq (alike : SameText first second) : first.length = second.length := by
  cases alike with
  | same field => rfl
  | hidden width => rw [List.length_append, List.length_append, List.length_cons, width,
      List.length_cons]

theorem versionText_eq (alike : SameText first second) :
    versionText first = versionText second := by
  cases alike with
  | same field => rfl
  | hidden width => rw [versionText, versionText, takeWhile_append_zero, takeWhile_append_zero]

end SameText

/-! ## The response -/

variable {field behind : List UInt8} {code : UInt8} {frame : Frame}

/-- The field and the code of the library are found by their places. -/
theorem readControllerInfo_append (width : field.length = versionTextLength) (code : UInt8)
    (behind : List UInt8) :
    readControllerInfo (field ++ code :: behind) =
      ⟨versionText field, Library.ofCode code⟩ := by
  rw [readControllerInfo, List.take_left' width, ← width,
    List.getD_append_right _ _ _ _ (Nat.le_refl _), Nat.sub_self, List.getD_cons_zero]

/-- Every command takes a version response for the same answer. -/
theorem Command.judge_versionResponse (command : Command) (kind : frame.messageClass = .getVersion)
    (width : field.length = versionTextLength) (payload : frame.payload = field ++ code :: behind) :
    command.judge frame =
      .ok (.settled (.answered (.controllerVersion ⟨versionText field, Library.ofCode code⟩))) := by
  have whole : versionTextLength + 1 ≤ frame.payload.length := by
    rw [payload, List.length_append, List.length_cons, width]
    omega
  unfold judge
  rw [kind]
  dsimp only
  rw [Frame.readable_of_le whole, payload, readControllerInfo_append width]
  rfl

namespace Transaction

theorem receive_congr {transaction : Transaction} {first second : Frame}
    (same : transaction.command.judge first = transaction.command.judge second) :
    transaction.receive first = transaction.receive second := by
  unfold receive
  rw [same]

/-- **The controller's version is read as it was sent.** A text that fits in the version field, has
no NUL and neither starts nor ends with a blank is the version that a pending transaction ends with,
beside the library of the code behind the field. And a version response comes to the same, whatever
stands behind a NUL of the field and whatever behind the code. -/
theorem reads_version_back (transaction : Transaction) :
    (∀ (version : String) (code : UInt8) (behind : List UInt8) (frame : Frame),
      transaction.state = .pending → Storable version → frame.messageClass = .getVersion →
      frame.payload = versionField version ++ code :: behind →
        transaction.receive frame =
          ({ transaction with
              state := .completed
              outcome := some (.answered (.controllerVersion ⟨version, Library.ofCode code⟩)) },
            .ok .answered)) ∧
    (∀ (field other : List UInt8) (code : UInt8) (behind beyond : List UInt8)
        (first second : Frame),
      first.messageClass = .getVersion → second.messageClass = .getVersion →
      field.length = versionTextLength → SameText field other →
      first.payload = field ++ code :: behind → second.payload = other ++ code :: beyond →
        transaction.receive first = transaction.receive second) := by
  constructor
  · intro version code behind frame pending storable kind payload
    have width := length_versionField storable.fits
    have judged := transaction.command.judge_versionResponse kind width payload
    rw [storable.versionText_eq] at judged
    rw [receive_of_pending pending, judged]
  · intro field other code behind beyond first second kind alsoKind width alike payload differing
    have judged := transaction.command.judge_versionResponse kind width payload
    have judgedOther := transaction.command.judge_versionResponse alsoKind
      (alike.length_eq.symm.trans width) differing
    refine receive_congr ?_
    rw [judged, judgedOther, alike.versionText_eq]

/-- A text of twelve bytes, two of them for one character, fills the field; and a damaged text reads
the same, whatever its NUL hides. -/
theorem reads_version_back_of_full_field :
    let asked := issue ⟨1⟩ .controllerVersion ⟨0⟩
    let told (payload : List UInt8) := Frame.inbound .getVersion .response none payload
    let damaged (hidden : List UInt8) := [0x20, 0x5A, 0xC3, 0] ++ hidden
    asked.receive (told (versionField "Z-Wave 3.9é" ++ [1, 0xAA])) =
        ({ asked with
            state := .completed
            outcome := some
              (.answered (.controllerVersion ⟨"Z-Wave 3.9é", .staticController⟩)) },
          .ok .answered) ∧
      asked.receive (told (damaged [0, 0, 0, 0, 0, 0, 0, 0] ++ [7])) =
        asked.receive (told (damaged [1, 2, 3, 4, 5, 6, 7, 8] ++ [7, 0xFF])) := by
  intro asked told damaged
  have reads := reads_version_back asked
  have storable : Storable "Z-Wave 3.9é" :=
    ⟨by decide, by decide, by simp [Text.isBlank], by simp [Text.isBlank]⟩
  have alike : SameText (damaged [0, 0, 0, 0, 0, 0, 0, 0]) (damaged [1, 2, 3, 4, 5, 6, 7, 8]) :=
    @SameText.hidden [0x20, 0x5A, 0xC3] _ _ rfl
  exact ⟨reads.1 _ 1 [0xAA] _ rfl storable rfl rfl,
    reads.2 _ _ 7 [] [0xFF] _ _ rfl rfl rfl alike rfl rfl⟩

end Transaction

end ZWaveGateway
