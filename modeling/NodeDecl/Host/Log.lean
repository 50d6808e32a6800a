import NodeDecl.Disk.Path
import NodeDecl.Json.Printer
import NodeDecl.Model.Build

/-!
# The log

What a run reports beside its results, and the lines in which it does so.
-/

namespace NodeDecl

/-- How much a log shows. -/
inductive LogLevel where
  | warn
  | debug
deriving DecidableEq, Repr

/-- An event of a run. -/
inductive LogEntry where
  | loadedSchema (path : Path)
  | unrecognisedValidator (warning : Warning)
  | indexed (kinds groups : Nat)
  | wrote (path : Path)
deriving DecidableEq, Repr

namespace LogEntry

/-- The level of an event. -/
def level : LogEntry → LogLevel
  | .unrecognisedValidator _ => .warn
  | _ => .debug

/-- Whether a log of a level shows an event. -/
def shownAt (entry : LogEntry) (level : LogLevel) : Bool :=
  level = .debug || entry.level = .warn

/-- The message of an event. -/
def message : LogEntry → String
  | .loadedSchema path => "loaded schema " ++ path.text
  | .unrecognisedValidator _ => "unrecognised validator type"
  | .indexed kinds groups =>
      "indexed " ++ kinds.repr ++ " node kinds into " ++ groups.repr ++ " alias groups"
  | .wrote path => "wrote " ++ path.text

/-- The line of an event. -/
def line (entry : LogEntry) : String :=
  match entry with
  | .unrecognisedValidator warning =>
      " WARN " ++ entry.message ++ " field=" ++ warning.field ++
        " validator=" ++ warning.validator.toText
  | _ => "DEBUG " ++ entry.message

end LogEntry

end NodeDecl
