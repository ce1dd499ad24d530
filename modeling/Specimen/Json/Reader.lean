import Specimen.Json.Scan

/-!
# Readers of typed values

A `Reader` reads a value of some type, both from a document and straight from text. Both
ways accept the same values; from text a mismatch also has a place, and the faults of the
text come in the order in which they stand.

A part of a document that is read only after a tag has been found is a *fragment*. From a
fragment a few more forms are accepted than from a document: a variant may be given by its
number, and its name may carry an empty object.

* `Reader.string`, `Reader.word64` and so on read single values, `Reader.list` and
  `Reader.dict` read collections.
* A `Record` reads a value with named fields, from an object in any order or from an array
  by position; `Record.ofEntries` is its rule for objects.
* `Tagged` reads an object in which one field says how to read the others.
-/

namespace Specimen

/-- Whether a document stands for itself or was set aside until its tag was known. -/
inductive Origin where
  | document
  | fragment
  deriving DecidableEq, Repr

/-- How values of a type are read. -/
structure Reader (α : Type) where
  ofJson : Origin → Json → Except Mismatch α
  scan : Scan α

namespace Scan

/-- Stops because the document that follows is of another form than the expected one. -/
def unexpected {α : Type} (expected : String) : Scan α := placed do
  match ← peek with
  | some 'n' =>
    eat
    word "ull".toList
    mismatch (.invalidType .null expected)
  | some 't' =>
    eat
    word "rue".toList
    mismatch (.invalidType (.bool true) expected)
  | some 'f' =>
    eat
    word "alse".toList
    mismatch (.invalidType (.bool false) expected)
  | some '"' =>
    eat
    mismatch (.invalidType (.string (← string)) expected)
  | some '[' => mismatch (.invalidType .sequence expected)
  | some '\x7b' => mismatch (.invalidType .map expected)
  | some c =>
    if beginsNumber c then mismatch (.invalidType (.number (← number)) expected)
    else failPeek .expectedValue
  | none => failPeek .expectedValue

/-- The next character behind white space, of which there must be one. -/
def valueStart : Scan Char := do
  match ← peekToken with
  | none => failPeek .endInValue
  | some c => return c

/-- An answer or a mismatch. -/
def ofExcept {α : Type} : Except Mismatch α → Scan α
  | .ok a => return a
  | .error cause => mismatch cause

end Scan

open Scan

namespace Reader

/-- A reader that answers what another one reads, transformed. -/
def map {α β : Type} (f : α → β) (r : Reader α) : Reader β where
  ofJson origin j := (r.ofJson origin j).map f
  scan := f <$> r.scan

/-- A reader that takes the whole document first. -/
def whole {α : Type} (ofJson : Origin → Json → Except Mismatch α) : Reader α where
  ofJson := ofJson
  scan := do ofExcept (ofJson .fragment (← value))

/-! ### Single values -/

/-- A text, expected under a name. -/
def text (expected : String) : Reader String where
  ofJson
    | _, .string s => .ok s
    | _, j => .error (.invalidType (.ofJson j) expected)
  scan := do
    if (← valueStart) = '"' then
      eat
      string
    else unexpected expected

/-- A text. -/
def string : Reader String := text "a string"

/-- The path of a file. -/
def path : Reader String := text "path string"

/-- A truth value. -/
def bool : Reader Bool where
  ofJson
    | _, .bool b => .ok b
    | _, j => .error (.invalidType (.ofJson j) "a boolean")
  scan := do
    match ← valueStart with
    | 't' =>
      eat
      word "rue".toList
      return true
    | 'f' =>
      eat
      word "alse".toList
      return false
    | _ => unexpected "a boolean"

/-- An integer of a range, expected under a name. -/
def integer (expected : String) (low high : Int) : Reader Int where
  ofJson
    | _, .number n => check n
    | _, j => .error (.invalidType (.ofJson j) expected)
  scan := do
    if beginsNumber (← valueStart) then
      placed do
        let n ← number
        ofExcept (check n)
    else unexpected expected
where
  /-- The integer that a number is. -/
  check (n : Number) : Except Mismatch Int :=
    match n with
    | .int i => if low ≤ i ∧ i ≤ high then .ok i else .error (.invalidValue (.number n) expected)
    | .float _ => .error (.invalidType (.number n) expected)

/-- An unsigned integer of 64 bits. -/
def word64 : Reader UInt64 :=
  (integer "u64" 0 0xffff_ffff_ffff_ffff).map fun i => UInt64.ofNat i.toNat

/-- A size, which is an unsigned integer of 64 bits as well. -/
def size : Reader UInt64 :=
  (integer "usize" 0 0xffff_ffff_ffff_ffff).map fun i => UInt64.ofNat i.toNat

/-- An unsigned integer of 32 bits. -/
def word32 : Reader UInt32 :=
  (integer "u32" 0 0xffff_ffff).map fun i => UInt32.ofNat i.toNat

/-- A signed integer of 64 bits. -/
def int64 : Reader Int64 :=
  (integer "i64" (-0x8000_0000_0000_0000) 0x7fff_ffff_ffff_ffff).map Int64.ofInt

/-- A value, or null for none. -/
def option {α : Type} (r : Reader α) : Reader (Option α) where
  ofJson
    | _, .null => .ok none
    | origin, j => (r.ofJson origin j).map some
  scan := do
    if (← peekToken) = some 'n' then
      eat
      word "ull".toList
      return none
    else return some (← r.scan)

/-! ### Collections -/

/-- A list. -/
def list {α : Type} (r : Reader α) : Reader (List α) where
  ofJson
    | origin, .array items => items.mapM (r.ofJson origin)
    | _, j => .error (.invalidType (.ofJson j) "a sequence")
  scan := do
    if (← valueStart) = '[' then
      let item (done : List α) : Scan (List α) := do
        let a ← r.scan
        return a :: done
      let read ← placed (do bracket (do items item (← fuel) true []) closeArray)
      return read.reverse
    else unexpected "a sequence"

/-- An object whose keys are data. -/
def dict {α : Type} (r : Reader α) : Reader (Dict α) where
  ofJson
    | origin, .object entries =>
      (entries.mapM fun (e : String × Json) => (r.ofJson origin e.2).map fun a => (e.1, a)).map
        Dict.ofList
    | _, j => .error (.invalidType (.ofJson j) "a map")
  scan := do
    if (← valueStart) = '\x7b' then
      let entry (done : Dict α) (key : String) : Scan (Dict α) := do
        colon
        let a ← r.scan
        return done.insert key a
      placed (do bracket (do entries entry (← fuel) true .empty) closeObject)
    else unexpected "a map"

end Reader

/-! ### Records -/

/-- One field of a record: how it is read into a partly filled record `σ`. -/
structure Slot (σ : Type) where
  name : String
  /-- True when the field may be left out at the end of an array. -/
  mayEnd : Bool
  isFilled : σ → Bool
  ofJson : Origin → Json → σ → Except Mismatch σ
  scan : σ → Scan σ

/-- The slot of a field that is read by a reader. -/
def Slot.of {σ α : Type} (name : String) (mayEnd : Bool) (get : σ → Option α)
    (set : α → σ → σ) (r : Reader α) : Slot σ where
  name := name
  mayEnd := mayEnd
  isFilled s := (get s).isSome
  ofJson origin j s := do return set (← r.ofJson origin j) s
  scan s := do return set (← r.scan) s

/-- A value with named fields. -/
structure Record (σ α : Type) where
  /-- What is expected where the record should stand. -/
  expected : String
  /-- What is expected of an array that ends too early. -/
  whole : String
  start : σ
  slots : List (Slot σ)
  /-- The value, once there are no more fields. -/
  finish : σ → Except Mismatch α
  /-- True when other fields than those of the record are refused. -/
  closed : Bool

namespace Record

variable {σ α : Type} (r : Record σ α)

/-- The slot of a key, which must not be filled yet. A key without a slot has none. -/
def slotFor (s : σ) (key : String) : Except Mismatch (Option (Slot σ)) :=
  match r.slots.find? fun slot => slot.name = key with
  | some slot => if slot.isFilled s then .error (.duplicateField key) else .ok (some slot)
  | none =>
    if r.closed then .error (.unknownField key (r.slots.map (·.name))) else .ok none

/-- The record with one more entry of an object. -/
def addEntry (origin : Origin) (s : σ) (e : String × Json) : Except Mismatch σ := do
  match ← r.slotFor s e.1 with
  | some slot => slot.ofJson origin e.2 s
  | none => return s

/-- The record of the entries of an object. -/
def ofEntries (origin : Origin) (es : List (String × Json)) : Except Mismatch α := do
  r.finish (← es.foldlM (r.addEntry origin) r.start)

/-- The mismatch of an array with too few items. -/
def tooShort (r : Record σ α) (count : Nat) : Mismatch := .invalidLength count r.whole

/-- The mismatch of an array with too many items. -/
def tooLong (origin : Origin) (count : Nat) : Mismatch :=
  .invalidLength count <|
    match origin with
    | .document => "fewer elements in array"
    | .fragment =>
      let n := r.slots.length
      toString n ++ (if n = 1 then " element" else " elements") ++ " in sequence"

/-- The record of the items of an array, by position. -/
def ofItems (origin : Origin) (items : List Json) : Except Mismatch α := do
  let v ← r.finish (← go 0 r.start r.slots items)
  if r.slots.length < items.length then .error (r.tooLong origin items.length) else .ok v
where
  /-- The record with the items from a position on. -/
  go (count : Nat) (s : σ) : List (Slot σ) → List Json → Except Mismatch σ
    | [], _ => .ok s
    | slot :: slots, j :: js => do go (count + 1) (← slot.ofJson origin j s) slots js
    | slot :: slots, [] =>
      if slot.mayEnd then go (count + 1) s slots [] else .error (r.tooShort count)

/-- The record that a document stands for. -/
def ofJson (origin : Origin) : Json → Except Mismatch α
  | .object es => r.ofEntries origin es
  | .array items => r.ofItems origin items
  | j => .error (.invalidType (.ofJson j) r.expected)

/-- Reads one entry of an object, behind its key. -/
def scanEntry (s : σ) (key : String) : Scan σ := do
  match ← ofExcept (r.slotFor s key) with
  | some slot =>
    colon
    slot.scan s
  | none =>
    colon
    skip
    return s

/-- Reads the items of an array by position. -/
def scanItems (first : Bool) (count : Nat) (s : σ) : List (Slot σ) → Scan σ
  | [] => return s
  | slot :: slots => do
    if ← anotherItem first then
      let s ← slot.scan s
      scanItems false (count + 1) s slots
    else if slot.mayEnd then scanItems first (count + 1) s slots
    else mismatch (r.tooShort count)

/-- Reads the record from text. -/
def scan : Scan α := do
  match ← valueStart with
  | '\x7b' =>
    let inside : Scan α := do
      let s ← entries r.scanEntry (← fuel) true r.start
      ofExcept (r.finish s)
    placed (bracket inside closeObject)
  | '[' =>
    let inside : Scan α := do
      let s ← r.scanItems true 0 r.start r.slots
      ofExcept (r.finish s)
    placed (bracket inside closeArray)
  | _ => unexpected r.expected

/-- The reader of the record. -/
def reader : Reader α := ⟨r.ofJson, r.scan⟩

end Record

/-- The value of a field that must be there. -/
def require {α : Type} (name : String) : Option α → Except Mismatch α
  | some a => .ok a
  | none => .error (.missingField name)

/-! ### Variants -/

/-- The variant that a document names. From a fragment it may be given by number. -/
def variantNamed (origin : Origin) (names : List String) : Json → Except Mismatch String
  | .string s => if names.contains s then .ok s else .error (.unknownVariant s names)
  | .number (.int i) =>
    match origin, decide (0 ≤ i) with
    | .fragment, true =>
      match names[i.toNat]? with
      | some name => .ok name
      | none => .error (.invalidValue (.number (.int i))
          ("variant index 0 <= i < " ++ toString names.length))
    | _, _ => .error (.invalidType (.number (.int i)) "variant identifier")
  | j => .error (.invalidType (.ofJson j) "variant identifier")

/-- What the fields beside a tag are read from. -/
inductive Untagged where
  | entries (es : List (String × Json))
  | items (items : List Json)
  deriving Repr

/-- A value whose form is given by a tag. -/
structure Tagged (α : Type) where
  tag : String
  expected : String
  variants : List String
  /-- The value of a variant, from the fields beside the tag. -/
  variant : String → Untagged → Except Mismatch α

namespace Tagged

variable {α : Type} (t : Tagged α)

/-- The variant among the entries of an object, and the other entries. -/
def splitEntries (origin : Origin) : List (String × Json) → Option String →
    List (String × Json) → Except Mismatch (String × List (String × Json))
  | [], some name, others => .ok (name, others.reverse)
  | [], none, _ => .error (.missingField t.tag)
  | (k, j) :: es, found, others =>
    if k = t.tag then
      match found with
      | some _ => .error (.duplicateField t.tag)
      | none => do splitEntries origin es (some (← variantNamed origin t.variants j)) others
    else splitEntries origin es found ((k, j) :: others)

/-- The value of the entries of an object. -/
def ofEntries (origin : Origin) (es : List (String × Json)) : Except Mismatch α := do
  let (name, others) ← t.splitEntries origin es none []
  t.variant name (.entries others)

/-- The value that a document stands for. In an array the tag comes first. -/
def ofJson (origin : Origin) : Json → Except Mismatch α
  | .object es => t.ofEntries origin es
  | .array [] => .error (.missingField t.tag)
  | .array (j :: js) => do
    let name ← variantNamed origin t.variants j
    t.variant name (.items js)
  | j => .error (.invalidType (.ofJson j) t.expected)

/-- Reads the name of a variant. -/
def scanName : Scan String := do
  if (← valueStart) = '"' then
    placed do
      eat
      let s ← string
      ofExcept (variantNamed .document t.variants (.string s))
  else unexpected "variant identifier"

/-- Reads one entry of an object, behind its key. -/
def scanEntry (done : Option String × List (String × Json)) (key : String) :
    Scan (Option String × List (String × Json)) := do
  if key = t.tag then
    if done.1.isSome then mismatch (.duplicateField t.tag)
    colon
    let name ← t.scanName
    return (some name, done.2)
  else
    colon
    let j ← value
    return (done.1, (key, j) :: done.2)

/-- Reads the variant and the fields beside the tag. -/
def scanSplit : Scan (String × Untagged) := do
  match ← valueStart with
  | '\x7b' =>
    let inside : Scan (String × Untagged) := do
      let (found, others) ← entries t.scanEntry (← fuel) true (none, [])
      match found with
      | some name => return (name, .entries others.reverse)
      | none => mismatch (.missingField t.tag)
    placed (bracket inside closeObject)
  | '[' =>
    let inside : Scan (String × Untagged) := do
      if ← anotherItem true then
        let name ← t.scanName
        let item (done : List Json) : Scan (List Json) := do
          let j ← value
          return j :: done
        let others ← items item (← fuel) false []
        return (name, .items others.reverse)
      else mismatch (.missingField t.tag)
    placed (bracket inside closeArray)
  | _ => unexpected t.expected

/-- Reads the value from text. The fields beside the tag are read once it is complete, so
that a mismatch in one of them has no place. -/
def scan : Scan α := do
  let (name, rest) ← t.scanSplit
  ofExcept (t.variant name rest)

/-- The reader of the value. -/
def reader : Reader α := ⟨t.ofJson, t.scan⟩

end Tagged

/-- The record of the fields beside a tag. -/
def Record.ofUntagged {σ α : Type} (r : Record σ α) : Untagged → Except Mismatch α
  | .entries es => r.ofEntries .fragment es
  | .items items => r.ofItems .fragment items

end Specimen
