import Specimen.Decimal.Shortest
import Specimen.Dict

/-!
# Documents

A document is a tree of nulls, truth values, numbers, texts, arrays and objects. Numbers
written without a point or exponent that fit 64 bits, signed or unsigned, stay integers;
every other number is a double. An object keeps its entries as they were written, so that
a reader can meet them in that order and notice repeated keys.

* `canonical` sorts the entries of every object by key and keeps the last of those with
  one key. Two writings of the same document have the same canonical form.
* `sameValue` compares documents by what they stand for: numbers by value, objects by
  key.
-/

namespace Specimen

/-- A number of a document. -/
inductive Number where
  /-- An integer of the signed or the unsigned 64-bit range. -/
  | int (value : Int)
  | float (value : Binary64)
  deriving DecidableEq, Repr, Inhabited

namespace Number

/-- The value as a fraction with a signed numerator. -/
def ratio : Number → Int × Nat
  | int i => (i, 1)
  | float x => x.signedRatio

/-- The order of two numbers by value. -/
def compareValue (a b : Number) : Ordering :=
  let (n, d) := a.ratio
  let (m, e) := b.ratio
  compare (n * e) (m * d)

/-- True for integers and for doubles without a fractional part. -/
def isIntegral : Number → Bool
  | int _ => true
  | float x => x.isIntegral

/-- The number as it is written. -/
def text : Number → String
  | int i => toString i
  | float x => x.text

end Number

/-- A document. -/
inductive Json where
  | null
  | bool (value : Bool)
  | number (value : Number)
  | string (value : String)
  | array (items : List Json)
  | object (entries : List (String × Json))
  deriving Repr, Inhabited

namespace Json

/-- A natural number as a document. -/
def nat (n : Nat) : Json := number (.int n)

/-- An integer as a document. -/
def int (i : Int) : Json := number (.int i)

/-- A text, or null. -/
def optString : Option String → Json
  | some s => string s
  | none => null

/-- An array of texts. -/
def strings (ss : List String) : Json := array (ss.map string)

/-! ### Canonical form -/

mutual

/-- The document with the entries of every object in the order of their keys, the last of
those with one key standing for all. -/
def canonical : Json → Json
  | array items => array (canonicalItems items)
  | object entries => object (Dict.ofList (canonicalEntries entries)).entries
  | j => j

/-- `canonical` on every item. -/
def canonicalItems : List Json → List Json
  | [] => []
  | j :: js => canonical j :: canonicalItems js

/-- `canonical` on the value of every entry. -/
def canonicalEntries : List (String × Json) → List (String × Json)
  | [] => []
  | (k, j) :: es => (k, canonical j) :: canonicalEntries es

end

/-! ### Size -/

mutual

/-- How deep arrays and objects nest in a document. -/
def depth : Json → Nat
  | array items => depthItems items + 1
  | object entries => depthEntries entries + 1
  | _ => 0

/-- The greatest depth of some documents. -/
def depthItems : List Json → Nat
  | [] => 0
  | j :: js => max (depth j) (depthItems js)

/-- The greatest depth of the values of some entries. -/
def depthEntries : List (String × Json) → Nat
  | [] => 0
  | (_, j) :: es => max (depth j) (depthEntries es)

end

mutual

/-- The number of documents in a document, itself included. -/
def size : Json → Nat
  | array items => sizeItems items + 1
  | object entries => sizeEntries entries + 1
  | _ => 1

/-- The number of documents in some documents. -/
def sizeItems : List Json → Nat
  | [] => 0
  | j :: js => size j + sizeItems js

/-- The number of documents in the values of some entries. -/
def sizeEntries : List (String × Json) → Nat
  | [] => 0
  | (_, j) :: es => size j + sizeEntries es

end

/-! ### Equality by value -/

mutual

/-- Equality by value: numbers count by what they are, and objects by their keys. -/
def sameValue : Json → Json → Bool
  | null, null => true
  | bool a, bool b => a == b
  | number a, number b => a.compareValue b == .eq
  | string a, string b => a == b
  | array as, array bs => sameItems as bs
  | object as, object bs => as.length == bs.length && sameEntries as bs
  | _, _ => false

/-- `sameValue` item by item. -/
def sameItems : List Json → List Json → Bool
  | [], [] => true
  | a :: as, b :: bs => sameValue a b && sameItems as bs
  | _, _ => false

/-- Every entry has an equal one in the other object. -/
def sameEntries : List (String × Json) → List (String × Json) → Bool
  | [], _ => true
  | (k, a) :: as, bs =>
    (match bs.lookup k with
      | some b => sameValue a b
      | none => false) && sameEntries as bs

end

end Json

end Specimen
