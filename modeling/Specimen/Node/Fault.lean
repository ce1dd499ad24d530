import Specimen.CharacterSet

/-!
# Faults

What can go wrong when nodes are built, asked for values or looked through. A fault that
arises in a node is wrapped in the name of that node and of every node above it that was
being evaluated, so `path` leads from the outermost one to where it arose.
-/

namespace Specimen

/-- What can go wrong with nodes. -/
inductive Fault where
  | unknownId (id : String)
  | duplicateId (id : String)
  /-- A node was needed while it was being evaluated. -/
  | reentrant (node : String)
  | inNode (node : String) (cause : Fault)
  | invalidConfig (message : String)
  | invalidField (message : String)
  | charset (error : CharacterSetError)
  deriving DecidableEq, Repr, Inhabited

namespace Fault

/-- The wording of a fault. -/
def message : Fault → String
  | unknownId id => "constraint id '" ++ id ++ "' not found"
  | duplicateId id => "constraint id '" ++ id ++ "' is declared more than once"
  | reentrant node => "constraint '" ++ node ++
      "' was re-entered before its generation finished (cyclic or duplicate reference)"
  | inNode node cause => "constraint '" ++ node ++ "' failed: " ++ cause.message
  | invalidConfig text => "invalid configuration: " ++ text
  | invalidField text => "invalid field: " ++ text
  | charset error => "core error: " ++ error.message

/-- The fault inside all names of nodes. -/
def root : Fault → Fault
  | inNode _ cause => cause.root
  | fault => fault

/-- The nodes from the outermost one to the one in which the fault arose. -/
def path : Fault → List String
  | inNode node cause => node :: cause.path
  | reentrant node => [node]
  | _ => []

/-- True when a node was needed while it was being evaluated. -/
def isReentrant (f : Fault) : Bool :=
  match f.root with
  | reentrant _ => true
  | _ => false

end Fault

end Specimen
