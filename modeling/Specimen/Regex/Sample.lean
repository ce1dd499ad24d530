import Specimen.Random.Draws
import Specimen.Regex.Meaning

/-!
# Texts that match a pattern

A form becomes a plan: what to write, and how often. Repetitions on top of one another are
kept as one list of ranges, and for each of them a count is drawn before anything is
written; the product of the counts is how often the content is written. Patterns that say
something about a place have no plan, and neither have patterns that match no text.

`Plan.sample` writes one text. Every plan yields a text for every stream of random words.
-/

namespace Specimen.Regex

open Unicode

/-- Why a pattern has no samples. -/
inductive SampleFault where
  | unreadable (pattern : String) (fault : Fault)
  | anchor
  | unsatisfiable
  deriving DecidableEq, Repr

/-- The wording of a fault. -/
def SampleFault.message : SampleFault → String
  | unreadable pattern fault => fault.message pattern
  | anchor => "anchor is not supported"
  | unsatisfiable => "regex is unsatisfiable"

mutual

/-- What to write and how often: a fixed number of times, times a count for each of the
ranges. A range is its least count and the number of counts in it. -/
inductive Plan where
  | mk (times : Nat) (ranges : List (Nat × Nat)) (content : Content)

/-- What to write. -/
inductive Content where
  | literal (cs : List Char)
  | set (s : CodeSet) (size : Nat)
  | sequence (parts : List Plan)
  | choice (branches : List Plan)

end

namespace Plan

instance : Inhabited Plan := ⟨.mk 1 [] (.literal [])⟩

/-- Content that is written once. -/
def once (content : Content) : Plan := .mk 1 [] content

/-- A plan repeated; one more range, unless the number of times is fixed. -/
def repeated (least most : Nat) : Plan → Plan
  | .mk times ranges content =>
    if most = 0 then once (.literal [])
    else if least = most then .mk (times * least) ranges content
    else .mk times (ranges ++ [(least, most - least + 1)]) content

/-- The branches of a plan that is a single choice, or the plan as one branch. -/
def branches : Plan → List Plan
  | .mk 1 [] (.choice bs) => bs
  | p => [p]

mutual

/-- The plan of a form, with repetitions without end made `maxRepeat` long. -/
def ofForm (maxRepeat : Nat) : Form → Except SampleFault Plan
  | .empty => .ok (once (.literal []))
  | .literal cs => .ok (once (.literal cs))
  | .set s => if s.isEmpty then .error .unsatisfiable else .ok (once (.set s s.size))
  | .look => .error .anchor
  | .repetition least most _ sub => do
    return (← ofForm maxRepeat sub).repeated least (most.getD (least + maxRepeat))
  | .capture _ sub => ofForm maxRepeat sub
  | .concat subs => do return once (.sequence (← ofForms maxRepeat subs))
  | .alternation subs => do return once (.choice ((← ofForms maxRepeat subs).flatMap branches))

/-- The plans of forms, one after the other. -/
def ofForms (maxRepeat : Nat) : List Form → Except SampleFault (List Plan)
  | [] => .ok []
  | f :: fs => do
    let p ← ofForm maxRepeat f
    return p :: (← ofForms maxRepeat fs)

end

/-- The plan of a pattern. -/
def parse (pattern : String) (maxRepeat : Nat) : Except SampleFault Plan := do
  let f ← (Form.parse pattern).mapError (.unreadable pattern)
  ofForm maxRepeat f

/-- The product of a number and of a count for each range. -/
def drawTimes (times : Nat) : List (Nat × Nat) → Draw Nat
  | [] => return times
  | (least, count) :: ranges => do
    let n ← Draw.uniform count
    drawTimes (times * (least + n)) ranges

/-- Writes something a number of times, each time anew. -/
def writeTimes (write : Draw (List Char)) : Nat → Draw (List Char)
  | 0 => return []
  | n + 1 => do
    let front ← write
    return front ++ (← writeTimes write n)

mutual

/-- Writes a text of a plan. -/
def write : Plan → Draw (List Char)
  | .mk times ranges content => do
    let n ← drawTimes times ranges
    writeTimes (writeContent content) n

/-- Writes content once. -/
def writeContent : Content → Draw (List Char)
  | .literal cs => return cs
  | .set s size => do return ((s.nth? (← Draw.uniform size)).map fun c => [c]).getD []
  | .sequence parts => writeAll parts
  | .choice branches => do
    let i ← Draw.uniform branches.length
    writeNth branches i

/-- Writes plans one behind the other. -/
def writeAll : List Plan → Draw (List Char)
  | [] => return []
  | p :: ps => do
    let front ← write p
    return front ++ (← writeAll ps)

/-- Writes the plan with a number of plans before it. -/
def writeNth : List Plan → Nat → Draw (List Char)
  | [], _ => return []
  | p :: _, 0 => write p
  | _ :: ps, i + 1 => writeNth ps i

end

/-- A text of a plan. -/
def sample (p : Plan) : Draw String := do return String.ofList (← p.write)

end Plan

end Specimen.Regex
