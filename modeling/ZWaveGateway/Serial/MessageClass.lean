import ZWaveGateway.CodeTable

/-!
# Message classes, directions and priorities

Every frame between the host and the controller belongs to a message class, the function of the
controller it is about, and is a request or a response. Outgoing frames have a priority.
-/

namespace ZWaveGateway

/-- The functions of the controller that the gateway speaks about. -/
inductive MessageClass where
  | initData
  | applicationCommand
  | sendData
  | getVersion
  | applicationUpdate
  | isFailedNode
  deriving DecidableEq, Repr

namespace MessageClass

/-- Every message class, by ascending code. -/
def all : List MessageClass := [
  .initData, .applicationCommand, .sendData, .getVersion, .applicationUpdate, .isFailedNode]

/-- The byte that stands for it in frames. -/
def code : MessageClass → UInt8
  | .initData => 0x02
  | .applicationCommand => 0x04
  | .sendData => 0x13
  | .getVersion => 0x15
  | .applicationUpdate => 0x49
  | .isFailedNode => 0x62

/-- The name it is printed with. -/
def name : MessageClass → String
  | .initData => "SerialApiGetInitData"
  | .applicationCommand => "ApplicationCommandHandler"
  | .sendData => "SendData"
  | .getVersion => "GetVersion"
  | .applicationUpdate => "ApplicationUpdate"
  | .isFailedNode => "IsFailedNodeId"

/-- The one with a given byte, if there is one. -/
def ofCode? (code : UInt8) : Option MessageClass :=
  CodeTable.read? all MessageClass.code code

@[simp]
theorem ofCode?_code (kind : MessageClass) : ofCode? kind.code = some kind := by
  cases kind <;> rfl

/-- Reading a byte finds exactly the one written with it. -/
theorem ofCode?_eq_some_iff {code : UInt8} {kind : MessageClass} :
    ofCode? code = some kind ↔ kind.code = code :=
  CodeTable.read?_eq_some_iff ofCode?_code

end MessageClass

/-- Whether a frame asks or answers. -/
inductive FrameType where
  | request
  | response
  deriving DecidableEq, Repr

namespace FrameType

/-- Both directions, by ascending code. -/
def all : List FrameType := [
  .request, .response]

/-- The byte that stands for it in frames. -/
def code : FrameType → UInt8
  | .request => 0
  | .response => 1

/-- The name it is printed with. -/
def name : FrameType → String
  | .request => "Request"
  | .response => "Response"

/-- The one with a given byte, if there is one. -/
def ofCode? (code : UInt8) : Option FrameType :=
  CodeTable.read? all FrameType.code code

@[simp]
theorem ofCode?_code (kind : FrameType) : ofCode? kind.code = some kind := by
  cases kind <;> rfl

/-- Reading a byte finds exactly the one written with it. -/
theorem ofCode?_eq_some_iff {code : UInt8} {kind : FrameType} :
    ofCode? code = some kind ↔ kind.code = code :=
  CodeTable.read?_eq_some_iff ofCode?_code

end FrameType

/-- The order in which outgoing frames go first, highest first. -/
inductive Priority where
  | high
  | set
  | get
  | poll
  deriving DecidableEq, Repr

namespace Priority

/-- Every priority, highest first. -/
def all : List Priority := [.high, .set, .get, .poll]

/-- The place in the order, counted from the highest. -/
def rank : Priority → Nat
  | .high => 0
  | .set => 1
  | .get => 2
  | .poll => 3

/-- The name it is printed with. -/
def name : Priority → String
  | .high => "High"
  | .set => "Set"
  | .get => "Get"
  | .poll => "Poll"

/-- The first of two priorities is at least as high. -/
def atLeast (first second : Priority) : Bool :=
  first.rank ≤ second.rank

/-- Priorities in the order in which their frames go. -/
def inOrder (priorities : List Priority) : List Priority :=
  priorities.mergeSort atLeast

end Priority

end ZWaveGateway
