import Specimen.Config.Model
import Specimen.Dependencies

/-!
# What a configuration mentions

A survey goes through the constraints of a configuration in the order in which they are
written, embedded ones inside their parents, and lists what it meets with the path at which
it stands: constraints, and ids that are named in references and rules.

An id depends on the ids mentioned below it, down to the next constraint with an id of its
own; that constraint's id it depends on, too. So the dependencies connect ids only, and
what stands below a constraint without an id counts for the nearest id above it.
-/

namespace Specimen.Config

/-- Something that a configuration mentions, with the nearest id above it. -/
inductive Mention where
  /-- A constraint of the top level that has no id. -/
  | unnamed (path : String) (kindName : String)
  | constraint (path : String) (owner : Option String) (id charset : Option String) (kind : Kind)
  | reference (path : String) (owner : Option String) (id : String)

/-- The id that a rule names, as a mention. -/
def Mandatory.mentions (path : String) (owner : Option String) : Mandatory → List Mention
  | fixed _ => []
  | whenPresent id => [.reference (path ++ "/mandatory") owner id]

mutual

/-- What a constraint mentions, from itself on. -/
def Constraint.mentions (path : String) (owner : Option String) : Constraint → List Mention
  | .mk id charset kind =>
    .constraint path owner id charset kind :: kind.mentions path (id.or owner)

/-- What the parts of a constraint mention, given the nearest id. -/
def Kind.mentions (path : String) (owner : Option String) : Kind → List Mention
  | .constant _ | .field _ => []
  | .combined parts _ => Child.listMentions path owner 0 parts
  | .optional child mandatory =>
    mandatory.mentions path owner ++ child.mentions (path ++ "/child") owner
  | .source child => child.mentions (path ++ "/child") owner

/-- What a part mentions. -/
def Child.mentions (path : String) (owner : Option String) : Child → List Mention
  | .reference id => [.reference path owner id]
  | .embedded constraint => constraint.mentions path owner

/-- What the parts from a position on mention. -/
def Child.listMentions (path : String) (owner : Option String) (position : Nat) :
    List Child → List Mention
  | [] => []
  | c :: cs =>
    c.mentions (path ++ "/parts/" ++ toString position) owner ++
      Child.listMentions path owner (position + 1) cs

end

/-- What the constraints of the top level mention, from a position on. -/
def topMentions (position : Nat) : List Constraint → List Mention
  | [] => []
  | c :: cs =>
    let path := "/constraints/" ++ toString position
    let unnamed := if c.id.isNone then [Mention.unnamed path c.kind.name] else []
    unnamed ++ c.mentions path none ++ topMentions (position + 1) cs

namespace Mention

/-- The id that a mention declares, with its path. -/
def declared? : Mention → Option (String × String)
  | constraint path _ (some id) _ _ => some (id, path)
  | _ => none

/-- The id that a mention refers to, with its path. -/
def referred? : Mention → Option (String × String)
  | reference path _ id => some (id, path)
  | _ => none

/-- The dependencies with those that a mention adds. -/
def addTo (d : Dependencies) : Mention → Dependencies
  | unnamed .. => d
  | constraint _ owner id _ _ =>
    match owner, id with
    | some owner, some id => (d.addId id).addNeed owner id
    | none, some id => d.addId id
    | _, none => d
  | reference _ owner id =>
    match owner with
    | some owner => d.addNeed owner id
    | none => d

end Mention

/-- What a configuration mentions. -/
def mentions (c : Config) : List Mention := topMentions 0 c.constraints

/-- The ids that a configuration declares, each with the path of its first declaration. -/
def declarations (c : Config) : Dict String :=
  (c.mentions.filterMap Mention.declared?).foldl
    (fun d e => if d.contains e.1 then d else d.insert e.1 e.2) .empty

/-- The dependencies between the ids of a configuration. -/
def dependencies (c : Config) : Dependencies := c.mentions.foldl Mention.addTo .empty

end Specimen.Config
