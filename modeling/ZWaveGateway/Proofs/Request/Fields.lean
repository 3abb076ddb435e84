import ZWaveGateway.Request.Plan

/-!
# Readers that follow their demands

A reader of a form looks at one thing after the other and stops at the first that is not as it
should be, with an error that names the field (`ZWaveGateway.Follows`). What a field has to say is
put without the reader: the text that the form has under the field's keys, the number that this text
writes, the numbers that fit in so many bytes.
-/

namespace ZWaveGateway

-- Powers of numbers are the built-in ones, whatever is imported.
attribute [local instance (high)] instPowNat

/-! ## Readers and their demands -/

/-- A reader follows a list of demands, each with the field that it is on: it looks at one after the
other, stops at the first that is not met with an error that names the field, and reads something
good when all are met. -/
inductive Follows {α : Type} (good : α → Prop) :
    List (String × Prop) → Except RequestError α → Prop where
  | done {value : α} (fits : good value) : Follows good [] (.ok value)
  | met {field : String} {demand : Prop} {demands : List (String × Prop)}
      {read : Except RequestError α} (holds : demand) (behind : Follows good demands read) :
      Follows good ((field, demand) :: demands) read
  | unmet {field : String} {demand : Prop} {demands : List (String × Prop)}
      (complaint : Complaint) (fails : ¬demand) :
      Follows good ((field, demand) :: demands) (.error (.invalidParameter field complaint))

/-- The first demand that is not met is on the field. -/
def FirstUnmet (demands : List (String × Prop)) (field : String) : Prop :=
  ∃ met demand later, demands = met ++ (field, demand) :: later ∧
    (∀ earlier ∈ met, earlier.2) ∧ ¬demand

namespace Follows

variable {α β : Type} {good : α → Prop} {fine : β → Prop} {field : String} {demand : Prop}
  {demands : List (String × Prop)} {read : Except RequestError α}

theorem met_all (follows : Follows good demands read) {value : α} (accepted : read = .ok value) :
    good value ∧ ∀ demand ∈ demands, demand.2 := by
  induction follows with
  | done fits =>
      cases accepted
      exact ⟨fits, List.forall_mem_nil _⟩
  | met holds behind rest =>
      obtain ⟨fits, others⟩ := rest accepted
      exact ⟨fits, List.forall_mem_cons.mpr ⟨holds, others⟩⟩
  | unmet complaint fails => cases accepted

theorem firstUnmet (follows : Follows good demands read) {error : RequestError}
    (refused : read = .error error) :
    ∃ field complaint, error = .invalidParameter field complaint ∧ FirstUnmet demands field := by
  induction follows with
  | done fits => cases refused
  | @met field demand demands read holds behind rest =>
      obtain ⟨blamed, complaint, named, met, unmet, later, rfl, before, fails⟩ := rest refused
      refine ⟨blamed, complaint, named, (field, demand) :: met, unmet, later, rfl, ?_, fails⟩
      exact List.forall_mem_cons.mpr ⟨holds, before⟩
  | @unmet field demand demands complaint fails =>
      cases refused
      exact ⟨field, complaint, rfl, [], demand, demands, rfl, List.forall_mem_nil _, fails⟩

/-- When all demands are met, the reader succeeds. -/
theorem accepts (follows : Follows good demands read) (met : ∀ demand ∈ demands, demand.2) :
    ∃ value, read = .ok value := by
  cases result : read with
  | ok value => exact ⟨value, rfl⟩
  | error error =>
      obtain ⟨field, complaint, -, before, demand, later, rfl, -, fails⟩ :=
        follows.firstUnmet result
      exact (fails (met (field, demand) (List.mem_append_right _ List.mem_cons_self))).elim

theorem check (accepted : demand → ∃ value, read = .ok value ∧ good value)
    (refused : ¬demand → ∃ complaint, read = .error (.invalidParameter field complaint)) :
    Follows good [(field, demand)] read := by
  by_cases holds : demand
  · obtain ⟨value, rfl, fits⟩ := accepted holds
    exact .met holds (.done fits)
  · obtain ⟨complaint, rfl⟩ := refused holds
    exact .unmet complaint holds

/-- A value that is looked up, in a table or elsewhere. -/
theorem of_lookup (found : Option β) (listed : found.isSome = true ↔ demand)
    (present : ∀ entry, found = some entry → ∃ value, read = .ok value ∧ good value)
    (missing : found = none → ∃ complaint, read = .error (.invalidParameter field complaint)) :
    Follows good [(field, demand)] read := by
  apply check
  · intro holds
    obtain ⟨entry, here⟩ := Option.isSome_iff_exists.mp (listed.mpr holds)
    exact present entry here
  · intro fails
    exact missing (Option.not_isSome_iff_eq_none.mp fun here => fails (listed.mp here))

theorem bind {further : α → Except RequestError β} (follows : Follows good [(field, demand)] read)
    (later : ∀ value, good value → Follows fine demands (further value)) :
    Follows fine ((field, demand) :: demands) (read >>= further) := by
  cases follows with
  | met holds behind =>
      cases behind with
      | done fits => exact .met holds (later _ fits)
  | unmet complaint fails => exact .unmet complaint fails

/-- Of two demands on one field in a row, one that implies the other can stand for both. -/
theorem merge {stronger : Prop}
    (follows : Follows good ((field, demand) :: (field, stronger) :: demands) read)
    (implied : stronger → demand) : Follows good ((field, stronger) :: demands) read := by
  cases follows with
  | met holds behind => exact behind
  | unmet complaint fails => exact .unmet complaint fun holds => fails (implied holds)

theorem map {change : α → β} (follows : Follows good demands read)
    (kept : ∀ value, good value → fine (change value)) :
    Follows fine demands (read.map change) := by
  induction follows with
  | done fits => exact .done (kept _ fits)
  | met holds behind rest => exact .met holds rest
  | unmet complaint fails => exact .unmet complaint fails

theorem bind_pure {change : α → β} (follows : Follows good demands read)
    (kept : ∀ value, good value → fine (change value)) :
    Follows fine demands (read >>= fun value => pure (change value)) := by
  cases read with
  | ok value => exact follows.map kept
  | error error => exact follows.map kept

end Follows

/-! ## Numbers within bounds -/

private theorem toNat_byte {number : Int} (within : 0 ≤ number ∧ number ≤ 255) :
    ((UInt8.ofNat number.toNat).toNat : Int) = number := by
  rw [UInt8.toNat_ofNat', Nat.mod_eq_of_lt (by omega)]
  omega

/-- The value fits in two's complement words of so many bytes. -/
def FitsBytes (size value : Int) : Prop :=
  -(2 : Int) ^ (8 * size.toNat - 1) ≤ value ∧ value < (2 : Int) ^ (8 * size.toNat - 1)

theorem Width.fitsBytes_iff {width : Width} {value : Int} :
    FitsBytes width.bytes value ↔ width.Holds value := by
  simp only [FitsBytes, Holds, least, greatest, Int.toNat_natCast, Int.le_sub_one_iff]

theorem ConfigurationParameter.follows_ofNumbers (index value size : Int) :
    Follows (fun parameter : ConfigurationParameter => (parameter.index.toNat : Int) = index ∧
        parameter.value = value ∧ (parameter.width.bytes : Int) = size)
      [("size", size = 1 ∨ size = 2 ∨ size = 4), ("index", 0 ≤ index ∧ index ≤ 255),
        ("value", FitsBytes size value)] (ofNumbers index value size) := by
  unfold ofNumbers
  split
  · next refused => exact .unmet _ (Width.ofBytes?_eq_none_iff.mp refused)
  · next width found =>
      obtain rfl := Width.ofBytes?_eq_some_iff.mp found
      have listed :
          (width.bytes : Int) = 1 ∨ (width.bytes : Int) = 2 ∨ (width.bytes : Int) = 4 := by
        cases width
        · exact .inl rfl
        · exact .inr (.inl rfl)
        · exact .inr (.inr rfl)
      refine .met listed ?_
      split
      · next outside => exact .unmet _ outside
      · next within =>
          have byte := Decidable.of_not_not within
          refine .met byte ?_
          split
          · next holds =>
              exact .met (Width.fitsBytes_iff.mpr holds) (.done ⟨toNat_byte byte, rfl, rfl⟩)
          · next fails => exact .unmet _ fun fits => fails (Width.fitsBytes_iff.mp fits)

theorem Association.follows_ofNumbers (group target : Int) :
    Follows (fun association : Association => (association.group.toNat : Int) = group ∧
        (association.target.number.toNat : Int) = target)
      [("group", 1 ≤ group ∧ group ≤ 255), ("target", 1 ≤ target ∧ target ≤ 232)]
      (ofNumbers group target) := by
  unfold ofNumbers
  split
  · next within =>
      refine .met within ?_
      split
      · next error refused =>
          unfold NodeId.assignable? at refused
          split at refused
          · cases refused
          · next outside =>
              cases refused
              exact .unmet _ outside
      · next node accepted =>
          unfold NodeId.assignable? at accepted
          split at accepted
          · next assignable =>
              cases accepted
              have most : (NodeId.greatest.toNat : Int) = 232 := rfl
              exact .met assignable (.done ⟨toNat_byte (by omega), toNat_byte (by omega)⟩)
          · cases accepted
  · next outside => exact .unmet _ outside

theorem WakeUpInterval.follows_ofSeconds (seconds : Int) :
    Follows (fun interval : WakeUpInterval => (interval.seconds : Int) = seconds)
      [("interval", 0 ≤ seconds ∧ seconds ≤ 16777215)] (ofSeconds seconds) := by
  unfold ofSeconds
  split
  · next within => exact .met within (.done (Int.toNat_of_nonneg within.1))
  · next outside => exact .unmet _ outside

theorem TemperatureScale.follows_ofNumber (number : Int) :
    Follows (fun scale : TemperatureScale => (scale.code.toNat : Int) = number)
      [("scale", number = 0 ∨ number = 1)] (ofNumber number) := by
  unfold ofNumber
  split
  · next zero => exact .met (.inl zero) (.done zero.symm)
  · next other =>
      split
      · next one => exact .met (.inr one) (.done one.symm)
      · next neither => exact .unmet _ (not_or.mpr ⟨other, neither⟩)

theorem SetpointType.follows_ofNumber (number : Int) :
    Follows (fun setpointType : SetpointType => (setpointType.code.toNat : Int) = number)
      [("mode", number = 1 ∨ number = 2 ∨ 7 ≤ number ∧ number ≤ 13)] (ofNumber number) := by
  unfold ofNumber
  by_cases within : 0 ≤ number ∧ number ≤ 255
  · rw [if_pos within]
    have same := toNat_byte within
    dsimp only
    apply Follows.of_lookup (ofCode? (UInt8.ofNat number.toNat))
    · exact isSome_ofCode?_iff.trans (by omega)
    · intro setpointType found
      rw [found]
      exact ⟨_, rfl, ofCode?_eq_some_iff.mp found ▸ same⟩
    · intro missing
      rw [missing]
      exact ⟨_, rfl⟩
  · rw [if_neg within]
    exact .unmet _ fun wanted => within (by omega)

private theorem Setpoint.field_of_refusal {field text : String} {error : RequestError}
    (refused : read field text = .error error) :
    ∃ complaint, error = .invalidParameter field complaint := by
  unfold read at refused
  split at refused
  · cases refused
    exact ⟨.notNumber, rfl⟩
  · cases refused
    exact ⟨.notFinite, rfl⟩
  · cases refused
    exact ⟨.notFinite, rfl⟩
  · split at refused
    · cases refused
      exact ⟨.notFinite, rfl⟩
    · split at refused
      · cases refused
      · cases refused
        exact ⟨.tooLarge, rfl⟩

theorem Setpoint.follows_read (field text : String) :
    Follows (fun value => read field text = .ok value)
      [(field, ∃ value, read field text = .ok value)] (read field text) := by
  apply Follows.check
  · rintro ⟨value, accepted⟩
    exact ⟨value, accepted, accepted⟩
  · intro nothing
    cases result : read field text with
    | ok value => exact (nothing ⟨value, result⟩).elim
    | error error =>
        obtain ⟨complaint, rfl⟩ := field_of_refusal result
        exact ⟨complaint, rfl⟩

namespace Form

variable {form : Form}

/-! ## Texts and numbers in a form -/

/-- The text of the first of several keys that the form has, without the blanks around it. -/
inductive Has (form : Form) : List String → String → Prop where
  | first {key : String} {others : List String} {raw : String}
      (filled : form.raw? key = some raw) : Has form (key :: others) (Text.trim raw)
  | later {key text : String} {others : List String} (missing : form.raw? key = none)
      (behind : Has form others text) : Has form (key :: others) text

theorem getAny?_eq_some_iff {keys : List String} {text : String} :
    form.getAny? keys = some text ↔ form.Has keys text := by
  induction keys with
  | nil => exact ⟨nofun, nofun⟩
  | cons key others same =>
      rw [getAny?, List.findSome?_cons, get?]
      cases filled : form.raw? key with
      | some raw =>
          constructor
          · intro found
            cases found
            exact .first filled
          · intro has
            cases has with
            | first other =>
                rw [filled] at other
                cases other
                rfl
            | later missing =>
                rw [filled] at missing
                cases missing
      | none =>
          refine same.trans ⟨.later filled, fun has => ?_⟩
          cases has with
          | first other =>
              rw [filled] at other
              cases other
          | later missing behind => exact behind

theorem get?_eq_some_iff {key text : String} : form.get? key = some text ↔ form.Has [key] text := by
  rw [← getAny?_eq_some_iff, getAny?, List.findSome?_cons]
  cases form.get? key <;> rfl

theorem Has.unique {keys : List String} {text other : String} (has : form.Has keys text)
    (again : form.Has keys other) : text = other :=
  Option.some.inj ((getAny?_eq_some_iff.mpr has).symm.trans (getAny?_eq_some_iff.mpr again))

/-- That text writes a whole number of at most 64 bits. -/
def Gives (form : Form) (keys : List String) (number : Int) : Prop :=
  ∃ text, form.Has keys text ∧ Text.Numeral.WritesSigned text number ∧
    -(2 : Int) ^ (63 : Nat) ≤ number ∧ number < (2 : Int) ^ (63 : Nat)

/-- That text writes such a number, one of which something holds. -/
def GivesOne (form : Form) (keys : List String) (wanted : Int → Prop) : Prop :=
  ∃ number, form.Gives keys number ∧ wanted number

theorem gives_iff {keys : List String} {number : Int} :
    form.Gives keys number ↔
      ∃ text, form.getAny? keys = some text ∧ Text.Numeral.signed? 64 text = some number := by
  simp only [Gives, getAny?_eq_some_iff, Text.Numeral.signed?_eq_some_iff, Nat.reduceSub]

theorem integerOfAny_of_gives {keys : List String} {number : Int} (given : form.Gives keys number)
    (field : String) : form.integerOfAny field keys = .ok number := by
  obtain ⟨text, found, read⟩ := gives_iff.mp given
  simp only [integerOfAny, found, read]

theorem Gives.unique {keys : List String} {number other : Int} (given : form.Gives keys number)
    (again : form.Gives keys other) : number = other :=
  Except.ok.inj ((integerOfAny_of_gives given "").symm.trans (integerOfAny_of_gives again ""))

theorem Gives.one_iff {keys : List String} {number : Int} (given : form.Gives keys number)
    {wanted : Int → Prop} : form.GivesOne keys wanted ↔ wanted number := by
  refine ⟨?_, fun holds => ⟨number, given, holds⟩⟩
  rintro ⟨other, again, holds⟩
  exact given.unique again ▸ holds

theorem follows_integerOfAny (form : Form) (field : String) (keys : List String) :
    Follows (form.Gives keys) [(field, form.GivesOne keys fun _ => True)]
      (form.integerOfAny field keys) := by
  apply Follows.check
  · rintro ⟨number, given, -⟩
    exact ⟨number, integerOfAny_of_gives given field, given⟩
  · intro nothing
    unfold integerOfAny
    split
    · exact ⟨.required, rfl⟩
    · next text found =>
        split
        · exact ⟨.notInteger, rfl⟩
        · next number read =>
            exact (nothing ⟨number, gives_iff.mpr ⟨text, found, read⟩, trivial⟩).elim

theorem follows_integer (form : Form) (field : String) :
    Follows (form.Gives [field]) [(field, form.GivesOne [field] fun _ => True)]
      (form.integer field) :=
  form.follows_integerOfAny field [field]

/-- A number that is looked at right after it was read. -/
theorem follows_integer_check {α : Type} {good : α → Prop} {field : String} {wanted : Int → Prop}
    {further : Int → Except RequestError α}
    (accepted : ∀ number, form.Gives [field] number → wanted number →
      ∃ value, further number = .ok value ∧ good value)
    (refused : ∀ number, ¬wanted number →
      ∃ complaint, further number = .error (.invalidParameter field complaint)) :
    Follows good [(field, form.GivesOne [field] wanted)] (form.integer field >>= further) := by
  -- Two demands on one field: a number that is wanted is a number.
  have both := (form.follows_integer field).bind fun number given =>
    Follows.check (fun holds => accepted number given (given.one_iff.mp holds))
      fun fails => refused number fun holds => fails (given.one_iff.mpr holds)
  exact both.merge fun ⟨number, given, _⟩ => ⟨number, given, trivial⟩

theorem follows_level (form : Form) (field : String) :
    Follows (fun level => form.Gives [field] level.toNat)
      [(field, form.GivesOne [field] fun number => 0 ≤ number ∧ number ≤ 255)]
      (form.level field) := by
  apply follows_integer_check
  · intro number given within
    exact ⟨_, if_pos within, (toNat_byte within).symm ▸ given⟩
  · intro number outside
    exact ⟨_, if_neg outside⟩

theorem follows_modeCode (form : Form) :
    Follows (fun code => form.Gives ["mode"] code.toNat)
      [("mode", form.GivesOne ["mode"] fun mode => 0 ≤ mode ∧ mode ≤ 255)] form.modeCode := by
  apply follows_integer_check
  · intro mode given within
    exact ⟨_, if_pos within, (toNat_byte within).symm ▸ given⟩
  · intro mode outside
    exact ⟨_, if_neg outside⟩

theorem follows_text (form : Form) (field : String) :
    Follows (form.Has [field]) [(field, ∃ text, form.Has [field] text)] (form.text field) := by
  apply Follows.check
  · rintro ⟨text, has⟩
    exact ⟨text, by simp only [Form.text, get?_eq_some_iff.mpr has], has⟩
  · intro nothing
    unfold text
    split
    · exact ⟨.required, rfl⟩
    · next text found => exact (nothing ⟨text, get?_eq_some_iff.mp found⟩).elim

end Form

end ZWaveGateway
