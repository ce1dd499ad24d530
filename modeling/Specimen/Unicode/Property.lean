import Specimen.Unicode.Age
import Specimen.Unicode.BinaryProperty
import Specimen.Unicode.Script
import Specimen.Unicode.Segmentation

/-!
# Classes by name

A class is named by one word, which is a property, a general category or a script, or by a
property and a value. Names are compared loosely: case, spaces, hyphens, underscores and a
leading "is" do not count.
-/

namespace Specimen.Unicode

/-- Why a name is not the name of a class. -/
inductive NameFault where
  | unknownProperty
  | unknownValue
  deriving DecidableEq, Repr

/-- The form in which names are compared: without a leading "is", spaces, hyphens and
underscores, in lower case. The one name that begins with "is" keeps it. -/
def looseName (name : String) : String :=
  let isLower (c : Char) := c = 'i' || c = 'I'
  let (startsWithIs, cs) := match name.toList with
    | a :: b :: rest =>
      if isLower a && (b = 's' || b = 'S') then (true, rest) else (false, a :: b :: rest)
    | cs => (false, cs)
  let kept := cs.filterMap fun c =>
    if c = ' ' || c = '_' || c = '-' || 0x7F < c.toNat then none
    else some c.toLower
  if startsWithIs && kept = ['c'] then "isc" else String.ofList kept

/-- Loose names of properties that take a value but define no class. -/
def valuedProperties : List String := [
  "bc", "bidiclass", "bidimirroringglyph", "bidipairedbracket", "bidipairedbrackettype",
  "blk", "block", "bmg", "bpb", "bpt", "canonicalcombiningclass", "casefolding", "ccc", "cf",
  "cjkaccountingnumeric", "cjkcompatibilityvariant", "cjkiicore", "cjkirggsource",
  "cjkirghsource", "cjkirgjsource", "cjkirgkpsource", "cjkirgksource", "cjkirgmsource",
  "cjkirgssource", "cjkirgtsource", "cjkirguksource", "cjkirgusource", "cjkirgvsource",
  "cjkothernumeric", "cjkprimarynumeric", "cjkrsunicode", "compex", "bidim",
  "bidimirrored", "fullcompositionexclusion", "ce", "compositionexclusion", "cwkcf",
  "changeswhennfkccasefolded", "decompositionmapping", "decompositiontype", "dm", "dt", "ea",
  "eastasianwidth", "equideo", "equivalentunifiedideograph", "expandsonnfc", "expandsonnfd",
  "expandsonnfkc", "expandsonnfkd", "fcnfkc", "fcnfkcclosure", "hangulsyllabletype", "hst",
  "incb", "indicconjunctbreak", "indicpositionalcategory", "indicsyllabiccategory", "inpc",
  "insc", "isc", "isocomment", "jamoshortname", "jg", "joininggroup", "joiningtype", "jsn",
  "jt", "kehcat", "kehdesc", "kehfval", "kehhg", "kehifao", "kehjsesh", "kehnomirror",
  "kehnorotate", "kaccountingnumeric", "kcompatibilityvariant", "kiicore", "kirggsource",
  "kirghsource", "kirgjsource", "kirgkpsource", "kirgksource", "kirgmsource", "kirgssource",
  "kirgtsource", "kirguksource", "kirgusource", "kirgvsource", "kothernumeric",
  "kprimarynumeric", "krsunicode", "lb", "lc", "linebreak", "lowercasemapping", "na", "na1",
  "name", "namealias", "nfcqc", "nfcquickcheck", "nfdqc", "nfdquickcheck", "nfkccasefold",
  "nfkccf", "nfkcqc", "nfkcquickcheck", "nfkcscf", "nfkcsimplecasefold", "nfkdqc",
  "nfkdquickcheck", "nt", "numerictype", "numericvalue", "nv", "odi",
  "otherdefaultignorablecodepoint", "scf", "sfc", "simplecasefolding",
  "simplelowercasemapping", "simpletitlecasemapping", "simpleuppercasemapping", "slc", "stc",
  "suc", "tc", "titlecasemapping", "uc", "unicode1name", "unicoderadicalstroke", "uppercasemapping",
  "verticalorientation", "vo", "xonfc", "xonfd", "xonfkc", "xonfkd"]

/-- A value that must be known. -/
def known (set? : Option CodeSet) : Except NameFault CodeSet :=
  match set? with
  | some set => .ok set
  | none => .error .unknownValue

/-- True for the names that abbreviate a category as well as a property and mean the
category. -/
def meansCategory (name : String) : Bool := name = "cf" || name = "sc" || name = "lc"

/-- The class with a name of one word. -/
def classNamed (word : String) : Except NameFault CodeSet :=
  let name := looseName word
  match if meansCategory name then none else binarySet? name with
  | some set => .ok set
  | none =>
    if valuedProperties.contains name && !meansCategory name then .error .unknownProperty
    else
      match categorySet? name with
      | some set => .ok set
      | none =>
        if name = "cs" || name = "surrogate" then .error .unknownValue
        else
          match scriptCode? name with
          | some code => .ok (scriptSet code)
          | none =>
            if ["hrkt", "katakanaorhiragana", "zzzz", "unknown"].contains name then
              .error .unknownValue
            else .error .unknownProperty

/-- The class of the characters for which a property has a value. -/
def classOfValue (property value : String) : Except NameFault CodeSet :=
  let property := looseName property
  let value := looseName value
  if property = "gc" || property = "generalcategory" then known (categorySet? value)
  else if property = "sc" || property = "script" then
    known ((scriptCode? value).map scriptSet)
  else if property = "scx" || property = "scriptextensions" then
    known ((scriptCode? value).map scriptExtensionSet)
  else if property = "age" then known (ageSet? value)
  else if property = "gcb" || property = "graphemeclusterbreak" then
    known (segmentSet? (graphemeRuns ()) graphemeNames value)
  else if property = "wb" || property = "wordbreak" then
    known (segmentSet? (wordRuns ()) wordNames value)
  else if property = "sb" || property = "sentencebreak" then
    known (segmentSet? (sentenceRuns ()) sentenceNames value)
  else if valuedProperties.contains property || (binarySet? property).isSome then
    .error .unknownValue
  else .error .unknownProperty

end Specimen.Unicode
