/-!
# Log lines

What the gateway tells its operator: one line of text at a level.
-/

namespace ZWaveGateway

/-- How much a line matters. -/
inductive LogLevel where
  | debug
  | info
  | warn
  | error
  deriving DecidableEq, Repr

/-- The name a level is printed with. -/
def LogLevel.name : LogLevel → String
  | .debug => "DEBUG"
  | .info => "INFO"
  | .warn => "WARN"
  | .error => "ERROR"

/-- One line of the log. -/
structure LogLine where
  level : LogLevel
  text : String
  deriving DecidableEq, Repr

/-- The line as it is printed. -/
def LogLine.print (line : LogLine) : String :=
  line.level.name ++ " " ++ line.text

end ZWaveGateway
