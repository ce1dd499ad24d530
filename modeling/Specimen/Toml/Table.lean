/-!
# Tables

A settings file is a table: values under names, some of which are tables themselves. A
table may be defined only once, whether by a header, by the names that lead to another
header, by dotted names, or in braces. `TableOrigin` remembers which of these it was, since
it decides what may still be added.

* `Toml.within` changes the table that a list of names leads to and makes those that are
  missing on the way.
-/

namespace Specimen

/-- How a table came to be. -/
inductive TableOrigin where
  /-- By a header or in braces. -/
  | defined
  /-- By a header further down. -/
  | implied
  /-- By a dotted name. -/
  | dotted
  deriving DecidableEq, Repr

/-- A value of a settings file. -/
inductive Toml where
  | text (s : String)
  | integer (i : Int)
  /-- A number with a fraction or an exponent, or one that is not finite, as written. -/
  | float (written : String)
  | bool (b : Bool)
  /-- A date, a time, or both, as written. -/
  | moment (written : String)
  | array (items : List Toml)
  | table (origin : TableOrigin) (entries : List (String × Toml))
  /-- The tables under a header in double brackets. -/
  | tables (list : List Toml)
  deriving Repr, Inhabited

namespace Toml

/-- The entries of a table. -/
abbrev Entries := List (String × Toml)

/-- The entries with the value under a name replaced. -/
def replace (name : String) (value : Toml) (es : Entries) : Entries :=
  es.map fun e => if e.1 = name then (name, value) else e

/-- The entries without a name. -/
def remove (name : String) (es : Entries) : Entries := es.filter fun e => e.1 != name

/-- The entries with one more; the name must be new. -/
def add (name : String) (value : Toml) (es : Entries) : Option Entries :=
  if (es.lookup name).isSome then none else some (es ++ [(name, value)])

/-- The table with the one that names lead to changed. Tables that are missing on the way
are made, with the given origin. A dotted name must not lead into a table that was defined
elsewhere; a list of tables is entered at its last. -/
def within (origin : TableOrigin) (change : TableOrigin → Entries → Option Toml) :
    List String → TableOrigin → Entries → Option Toml
  | [], o, es => change o es
  | name :: names, o, es =>
    match es.lookup name with
    | none => do
      let t ← within origin change names origin []
      return .table o (es ++ [(name, t)])
    | some (.table inner es') =>
      if origin = .dotted ∧ inner = .defined then none
      else do
        let t ← within origin change names inner es'
        return .table o (replace name t es)
    | some (.tables ts) =>
      match ts.getLast? with
      | some (.table inner es') => do
        let t ← within origin change names inner es'
        return .table o (replace name (.tables (ts.dropLast ++ [t])) es)
      | _ => none
    | some _ => none

/-- The table with a value under a dotted name. The table that holds it must be the given
one itself or one made by dotted names. -/
def putDotted (names : List String) (last : String) (value : Toml) (o : TableOrigin)
    (es : Entries) : Option Toml :=
  within .dotted (fun inner es =>
    if names.isEmpty || inner = .dotted then do return .table inner (← add last value es)
    else none) names o es

/-- The entries with values under dotted names. -/
def putAll (es : Entries) : List (List String × String × Toml) → Option Entries
  | [] => some es
  | (names, last, value) :: rest => do
    match ← putDotted names last value .defined es with
    | .table _ es => putAll es rest
    | _ => none

end Toml

end Specimen
