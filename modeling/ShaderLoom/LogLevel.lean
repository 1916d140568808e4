import ShaderLoom.Number.Reading
import ShaderLoom.Text.Case

/-!
# Levels of reporting

The level from which on reports are shown is given by a name or by a number. A text that is neither
leaves the default level in place and is reported.
-/

namespace ShaderLoom.LogLevel

open Number Text

/-- The level of warnings, which is the default. -/
def warning : Int := 30

/-- The levels by name. -/
def named : List (String × Int) :=
  [("CRITICAL", 50), ("FATAL", 50), ("ERROR", 40), ("WARN", 30), ("WARNING", 30), ("INFO", 20),
    ("DEBUG", 10), ("NOTSET", 0)]

/-- Whether the text has numeric characters only, and at least one. -/
def isNumericText (cs : List Char) : Bool := !cs.isEmpty && cs.all isNumeric

/-- The level that a text names. -/
def read? (s : String) : Option Int :=
  if isNumericText s.toList then readInt? s.toList
  else named.lookup (String.ofList (upper s.toList))

/-- The level for a setting, and the report about a setting that names no level. An empty setting
names the default. -/
def ofSetting (s : String) : Int × Option String :=
  if s = "" then (warning, none)
  else
    match read? s with
    | some level => (level, none)
    | none => (warning, some s!"Invalid pyshadertools log level: {s}")

end ShaderLoom.LogLevel
