import Specimen.Dict

/-!
# Configurations

A configuration declares character sets and a list of constraints. A constraint says how
the values of one id, or of an anonymous part, come about: from a constant, from a field
with a range, by joining parts, by generating a child at times, or by passing a child on.
The parts of a constraint are either embedded, written out where they stand, or references
to a constraint that is declared elsewhere.

`Constraint.children` lists the parts of a constraint, and the recursions over
configurations follow it.
-/

namespace Specimen.Config

/-- The values of a field. -/
inductive FieldSpec where
  /-- Texts whose length lies in a range. -/
  | text (minLength maxLength : UInt64)
  | number (min max : Int64)
  /-- Days between two, written in a format. -/
  | date (min max : String) (format : Option String)
  | choice (values : List String)
  /-- Texts that a regular expression matches. -/
  | pattern (expression : String) (maxRepeat : Option UInt32)
  deriving DecidableEq, Repr, Inhabited

/-- When an optional constraint has to generate its child. -/
inductive Mandatory where
  | fixed (always : Bool)
  /-- Whenever another id has a value. -/
  | whenPresent (id : String)
  deriving DecidableEq, Repr, Inhabited

mutual

/-- A constraint: an id and a character set, both of which may be missing, and what
generates the values. -/
inductive Constraint where
  | mk (id charset : Option String) (kind : Kind)

/-- What generates the values of a constraint. -/
inductive Kind where
  | constant (value : String)
  | field (field : FieldSpec)
  | combined (parts : List Child) (separator : String)
  | optional (child : Child) (mandatory : Mandatory)
  | source (child : Child)

/-- A part of a constraint. -/
inductive Child where
  | reference (id : String)
  | embedded (constraint : Constraint)

end

namespace Kind

instance : Inhabited Kind := ⟨.constant ""⟩

/-- The name of a kind. -/
def name : Kind → String
  | constant _ => "constant"
  | field _ => "field"
  | combined .. => "combined"
  | optional .. => "optional"
  | source _ => "source"

/-- The parts of a constraint of this kind. -/
def children : Kind → List Child
  | constant _ | field _ => []
  | combined parts _ => parts
  | optional child _ | source child => [child]

end Kind

namespace Constraint

instance : Inhabited Constraint := ⟨.mk none none default⟩

/-- The id, if there is one. -/
def id : Constraint → Option String
  | mk id _ _ => id

/-- The id of the character set, if one is named. -/
def charset : Constraint → Option String
  | mk _ charset _ => charset

/-- What generates the values. -/
def kind : Constraint → Kind
  | mk _ _ kind => kind

/-- The parts. -/
def children (c : Constraint) : List Child := c.kind.children

end Constraint

/-- The version of configurations that is supported. -/
def supportedVersion : String := "0.1"

end Config

open Config in
/-- A configuration. -/
structure Config where
  version : String
  seed : Option UInt64
  /-- The characters of each declared set. -/
  charsets : Dict String
  constraints : List Constraint
  deriving Inhabited

end Specimen
