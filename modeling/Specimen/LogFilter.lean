import Specimen.Log

/-!
# Filters of logs

A filter says which events are shown. It is written as directives with commas between them:
a level alone holds for all events, and a level behind a target and an equals sign for the
events whose target begins like that. Of several directives for an event the one with the
longest target counts.
-/

namespace Specimen

/-- A directive of a filter. -/
structure LogDirective where
  /-- How the targets begin that it holds for. -/
  target : String
  /-- The rank up to which events are shown. -/
  rank : Nat
  deriving DecidableEq, Repr

/-- Which events are shown. -/
abbrev LogFilter := List LogDirective

namespace LogFilter

/-- The filter for when none is given. -/
def standard : LogFilter := [⟨"", LogLevel.info.rank⟩]

/-- Names of levels, with the rank up to which each shows events. -/
def ranks : List (String × Nat) := [
  ("off", 0), ("error", 1), ("warn", 2), ("info", 3), ("debug", 4), ("trace", 5),
  ("0", 0), ("1", 1), ("2", 2), ("3", 3), ("4", 4), ("5", 5)]

/-- The rank of a level by its name, capital or not. -/
def rank? (s : String) : Option Nat := ranks.lookup (String.ofList (s.toList.map Char.toLower))

/-- True for characters of targets. -/
def isTargetCharacter (c : Char) : Bool := c.isAlphanum || c = '_' || c = ':' || c = '-'

/-- The directive of a text. A target alone shows everything of it. -/
def directive? (s : String) : Option LogDirective :=
  match s.splitOn "=" with
  | [one] =>
    match rank? one with
    | some rank => some ⟨"", rank⟩
    | none =>
      if one.toList.all isTargetCharacter then some ⟨one, LogLevel.trace.rank⟩ else none
  | [target, level] =>
    if target.toList.all isTargetCharacter then (rank? level).map fun rank => ⟨target, rank⟩
    else none
  | _ => none

/-- The filter of a text. A text without directives shows errors only. -/
def parse (s : String) : Option LogFilter :=
  match (s.splitOn ",").filter fun part => !part.isEmpty with
  | [] => some [⟨"", LogLevel.error.rank⟩]
  | parts => parts.mapM directive?

/-- The directive with the longest target of those that hold for a target; of equal ones the
last. -/
def find? (f : LogFilter) (target : String) : Option LogDirective :=
  f.foldl (fun best d =>
    if target.startsWith d.target then
      match best with
      | some b => if b.target.length ≤ d.target.length then some d else best
      | none => some d
    else best) none

/-- True when an event is shown. -/
def shows (f : LogFilter) (e : LogEvent) : Bool :=
  match f.find? e.target with
  | some d => e.level.rank ≤ d.rank
  | none => false

end LogFilter

end Specimen
