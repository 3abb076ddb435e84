import ZWaveGateway.Command.Value
import ZWaveGateway.Text.Blank
import ZWaveGateway.Text.Numeral

/-!
# Request forms

A request comes with parameters: texts under keys, as somebody filled them in. Blanks around a text
do not count. Readers of a form name the field they wanted when it is missing or does not say what
it should.
-/

namespace ZWaveGateway

/-- Parameters by key. Of two entries with one key the first counts. -/
structure Form where
  entries : List (String × String)
  deriving DecidableEq

namespace Form

/-- The key that asks for a fresh report. -/
def updateKey : String := "update"

/-- The keys that say whom a request is for. -/
def addressKeys : List String := ["node", "control"]

/-- The text under a key, as it was filled in. -/
def raw? (form : Form) (key : String) : Option String :=
  form.entries.lookup key

/-- The text under a key. -/
def get? (form : Form) (key : String) : Option String :=
  (form.raw? key).map Text.trim

/-- The text under the first of several keys that the form has. -/
def getAny? (form : Form) (keys : List String) : Option String :=
  keys.findSome? form.get?

/-- A fresh report is asked for. -/
def wantsUpdate (form : Form) : Bool :=
  (form.raw? updateKey).isSome

/-- A key that says what is to be set. -/
def isSetting (key : String) : Bool :=
  key != updateKey && !addressKeys.contains key

/-- The form says something besides whom it is for and that a report is wanted. -/
def hasSettings (form : Form) : Bool :=
  form.entries.any fun (key, _) => isSetting key

/-- The whole number under the first of several keys that the form has. -/
def integerOfAny (form : Form) (field : String) (keys : List String) : Except RequestError Int :=
  match form.getAny? keys with
  | none => .error (.invalidParameter field .required)
  | some text =>
      match Text.Numeral.signed? 64 text with
      | none => .error (.invalidParameter field .notInteger)
      | some value => .ok value

/-- The whole number in a field. -/
def integer (form : Form) (field : String) : Except RequestError Int :=
  form.integerOfAny field [field]

/-- The level in a field: one byte. -/
def level (form : Form) (field : String) : Except RequestError UInt8 := do
  let value ← form.integer field
  if 0 ≤ value ∧ value ≤ 255 then .ok (UInt8.ofNat value.toNat)
  else .error (.invalidParameter field (.outside 0 255))

/-- The text in a field. -/
def text (form : Form) (field : String) : Except RequestError String :=
  match form.get? field with
  | none => .error (.invalidParameter field .required)
  | some text => .ok text

end Form

end ZWaveGateway
