import Specimen.FieldCase
import Specimen.Json.Print

/-!
# Log events

What happens during a run is logged as events, each with a level, the part of the program
that it comes from, and fields. Whoever shows the log decides which levels it shows.
-/

namespace Specimen

/-- How important an event is. -/
inductive LogLevel where
  | error
  | warn
  | info
  | debug
  | trace
  deriving DecidableEq, Repr, Inhabited

namespace LogLevel

/-- The name of a level in the log. -/
def name : LogLevel → String
  | error => "ERROR"
  | warn => "WARN"
  | info => "INFO"
  | debug => "DEBUG"
  | trace => "TRACE"

/-- How much is shown by a filter for a level: more for those of less importance. -/
def rank : LogLevel → Nat
  | error => 1
  | warn => 2
  | info => 3
  | debug => 4
  | trace => 5

end LogLevel

/-- Something that happened. -/
structure LogEvent where
  level : LogLevel
  /-- The part of the program that the event comes from. -/
  target : String
  fields : List (String × Json)
  deriving Repr, Inhabited

namespace LogEvent

/-- An event with a message. -/
def said (level : LogLevel) (target message : String) (fields : List (String × Json)) : LogEvent :=
  ⟨level, target, ("message", .string message) :: fields⟩

/-- An event as a document, without the time. -/
def toJson (e : LogEvent) : Json := .object [
  ("level", .string e.level.name), ("fields", .object e.fields), ("target", .string e.target)]

end LogEvent

end Specimen
