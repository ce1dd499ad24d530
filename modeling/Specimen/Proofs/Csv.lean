import Specimen.Csv

/-!
# Reading comma-separated values

A reader for tables, one character after the other: fields are separated by commas, records by any
of the three line ends, and a field may be put in quotes, inside which two quotes stand for one. It
refuses a quote anywhere else. Whether a line with nothing on it is a record (of one empty field) is
left open, by a flag.

* `Reading.step` is what one character does, and `read` is the reader.
* `feed_field`, `exists_feed_fields` and `feed_record` say where the reader is behind a field, some
  fields and a record as they are written.
* `read_records` is the main result: what is written reads back, whatever the texts are made of.
-/

namespace Specimen.Csv

/-! ### The reader -/

/-- Where a reader is. -/
inductive Spot where
  /-- At the beginning of a record. -/
  | record
  /-- The same, right behind a carriage return; a line feed belongs to it. -/
  | returned
  /-- At the beginning of a field, behind a comma. -/
  | field
  /-- In a field without quotes. -/
  | bare
  /-- Between the quotes of a field. -/
  | inside
  /-- Behind a quote that ends the field, unless a second one follows. -/
  | behind
  deriving DecidableEq, Repr

/-- Where a reader is, and what it has read. -/
structure Reading where
  spot : Spot
  /-- The characters of a field that has not ended. -/
  field : List Char
  /-- The fields of a record that has not ended. -/
  fields : List String
  records : List (List String)
  deriving DecidableEq, Repr

namespace Reading

/-- The beginning of a text. -/
def start : Reading := ⟨.record, [], [], []⟩

/-- One more character of the field. -/
def add (r : Reading) (spot : Spot) (c : Char) : Reading :=
  { r with spot := spot, field := r.field ++ [c] }

/-- The end of the field. -/
def endField (r : Reading) : Reading :=
  { r with spot := .field, field := [], fields := r.fields ++ [String.ofList r.field] }

/-- The end of the record. -/
def endRecord (r : Reading) (next : Spot) : Reading :=
  ⟨next, [], [], r.records ++ [r.fields ++ [String.ofList r.field]]⟩

/-- The end of the line. Nothing on it is a record only if the flag says so. -/
def endLine (blank : Bool) (r : Reading) (next : Spot) : Reading :=
  if (r.spot = .record ∨ r.spot = .returned) ∧ blank = false then { r with spot := next }
  else r.endRecord next

/-- Reads a character. -/
def step (blank : Bool) (r : Reading) (c : Char) : Option Reading :=
  if r.spot = .inside then
    some (if c = '"' then { r with spot := .behind } else r.add .inside c)
  else if c = '"' then
    match r.spot with
    | .behind => some (r.add .inside '"')
    | .bare => none
    | _ => some { r with spot := .inside }
  else if c = ',' then some r.endField
  else if c = '\r' then some (r.endLine blank .returned)
  else if c = '\n' then
    some (if r.spot = .returned then { r with spot := .record } else r.endLine blank .record)
  else if r.spot = .behind then none
  else some (r.add .bare c)

/-- The end of the text. The last record need not end its line. -/
def finish (r : Reading) : Option (List (List String)) :=
  match r.spot with
  | .record | .returned => some r.records
  | .inside => none
  | _ => some (r.endRecord .record).records

/-- Reads characters. -/
def feed (blank : Bool) (r : Reading) (cs : List Char) : Option Reading :=
  cs.foldlM (step blank) r

end Reading

/-- The records of a text, if it is a table. -/
def read (blank : Bool) (text : String) : Option (List (List String)) :=
  (Reading.start.feed blank text.toList).bind Reading.finish

namespace Reading

variable {blank : Bool} {r : Reading}

/-! ### Fields -/

theorem feed_nil (r : Reading) : r.feed blank [] = some r := rfl

theorem feed_cons (r : Reading) (c : Char) (cs : List Char) :
    r.feed blank (c :: cs) = (r.step blank c).bind fun r => r.feed blank cs := List.foldlM_cons

theorem feed_append (r : Reading) (cs ds : List Char) :
    r.feed blank (cs ++ ds) = (r.feed blank cs).bind fun r => r.feed blank ds :=
  List.foldlM_append

/-- Characters that are not special are read as they are, where no quotes have been opened. -/
theorem feed_bare (h_inside : r.spot ≠ .inside) (h_behind : r.spot ≠ .behind) {cs : List Char}
    (h : ∀ c ∈ cs, isSpecial c = false) : r.feed blank cs =
      some { r with spot := if cs = [] then r.spot else .bare, field := r.field ++ cs } := by
  induction cs generalizing r with
  | nil => rw [feed_nil, if_pos rfl, List.append_nil]
  | cons c cs ih =>
    obtain ⟨h_c, h_cs⟩ := List.forall_mem_cons.1 h
    simp only [isSpecial, Bool.or_eq_false_iff, decide_eq_false_iff_not] at h_c
    obtain ⟨⟨⟨h_comma, h_quote⟩, h_return⟩, h_feed⟩ := h_c
    have h_step : r.step blank c = some (r.add .bare c) := by
      rw [step, if_neg h_inside, if_neg h_quote, if_neg h_comma, if_neg h_return, if_neg h_feed,
        if_neg h_behind]
    rw [feed_cons, h_step, Option.bind_some, ih (r := r.add .bare c) Spot.noConfusion
      Spot.noConfusion h_cs]
    simp [add]

/-- Between quotes, a text with its quotes doubled is read as the text. -/
theorem feed_inside (h : r.spot = .inside) (cs : List Char) :
    r.feed blank (cs.flatMap fun c => if c = '"' then ['"', '"'] else [c]) =
      some { r with field := r.field ++ cs } := by
  induction cs generalizing r with
  | nil => rw [List.flatMap_nil, feed_nil, List.append_nil]
  | cons c cs ih =>
    have h_add : (r.feed blank (if c = '"' then ['"', '"'] else [c])) = some (r.add .inside c) := by
      by_cases h_c : c = '"' <;> simp [feed, step, h, h_c, add]
    rw [List.flatMap_cons, feed_append, h_add, Option.bind_some, ih (r := r.add .inside c) rfl]
    simp [add, h]

/-- Where a field can begin. -/
structure Begins (r : Reading) : Prop where
  spot : r.spot = .record ∨ r.spot = .field
  field : r.field = []

/-- Where a field can end: not between quotes, and at the beginning of a record only if nothing was
read. -/
structure Ended (r r' : Reading) (cs : List Char) : Prop where
  inside : r'.spot ≠ .inside
  returned : r'.spot ≠ .returned
  record : r'.spot = .record → r.spot = .record ∧ cs = []

/-- **Fields.** A field is read as it was written. -/
theorem feed_field (blank : Bool) (h : r.Begins) (s : String) : ∃ spot,
    r.feed blank (Csv.field s) = some { r with spot := spot, field := s.toList } ∧
      r.Ended { r with spot := spot, field := s.toList } (Csv.field s) := by
  obtain ⟨h_spot, h_field⟩ := h
  rw [Csv.field]
  by_cases h_any : s.toList.any isSpecial = true
  · -- the quotes take the reader behind them, wherever the field began
    have h_open : r.step blank '"' = some { r with spot := .inside } := by
      rcases h_spot with h_spot | h_spot <;> simp [step, h_spot]
    refine ⟨.behind, ?_, ⟨Spot.noConfusion, Spot.noConfusion, fun h => nomatch h⟩⟩
    rw [if_pos h_any, quoted, List.cons_append, feed_cons, h_open, Option.bind_some, feed_append,
      feed_inside rfl, Option.bind_some]
    simp [feed, step, h_field]
  · have h_plain : ∀ c ∈ s.toList, isSpecial c = false := by simpa using h_any
    rw [if_neg h_any]
    refine ⟨if s.toList = [] then r.spot else .bare, ?_, ?_⟩
    · rw [feed_bare ?_ ?_ h_plain, h_field, List.nil_append]
      all_goals rcases h_spot with h_spot | h_spot <;> simp [h_spot]
    · by_cases h_nil : s.toList = [] <;> rcases h_spot with h_spot | h_spot <;>
        constructor <;> simp [h_nil, h_spot]

/-! ### Records -/

/-- A comma ends a field. -/
theorem step_comma (h : r.spot ≠ .inside) : r.step blank ',' = some r.endField := by
  simp [step, h]

/-- A line feed ends a record, where something has been read of it. -/
theorem step_lineFeed (h_inside : r.spot ≠ .inside) (h_returned : r.spot ≠ .returned)
    (h_record : r.spot ≠ .record) : r.step blank '\n' = some (r.endRecord .record) := by
  simp [step, h_inside, h_returned, h_record, endLine]

/-- Fields with commas between them, read up to the end of the last one. -/
theorem exists_feed_fields (blank : Bool) {ss : List String} (h_ss : ss ≠ []) :
    ∀ {r : Reading}, r.Begins → ∃ r', r.feed blank (Csv.fields ss) = some r' ∧
      r.Ended r' (Csv.fields ss) ∧ r'.fields ++ [String.ofList r'.field] = r.fields ++ ss ∧
      r'.records = r.records := by
  induction ss with
  | nil => exact absurd rfl h_ss
  | cons s ss ih =>
    intro r h_begins
    obtain ⟨spot, h_feed, h_ended⟩ := feed_field blank h_begins s
    cases ss with
    | nil => exact ⟨_, h_feed, h_ended, by simp, rfl⟩
    | cons s' ss =>
      obtain ⟨r', h_feed', h_ended', h_fields, h_records⟩ :=
        ih (by simp) (r := endField { r with spot := spot, field := s.toList }) ⟨.inr rfl, rfl⟩
      refine ⟨r', ?_, ⟨h_ended'.inside, h_ended'.returned, fun h => ?_⟩, ?_, h_records⟩
      · rw [Csv.fields, feed_append, h_feed, Option.bind_some, feed_cons,
          step_comma h_ended.inside, Option.bind_some, h_feed']
        simp
      · -- behind a comma the record has begun
        exact absurd (h_ended'.record h).1 (by simp [endField])
      · rw [h_fields]
        simp [endField]

/-- **Records.** From the beginning of a record, a record is read as it was written. -/
theorem feed_record {ss : List String} (h_ss : ss ≠ []) (records : List (List String)) :
    feed blank ⟨.record, [], [], records⟩ (Csv.record ss) =
      some ⟨.record, [], [], records ++ [ss]⟩ := by
  obtain ⟨r', h_feed, h_ended, h_fields, h_records⟩ :=
    exists_feed_fields blank h_ss (r := ⟨.record, [], [], records⟩) ⟨.inl rfl, rfl⟩
  rw [Csv.record]
  cases h_cs : Csv.fields ss with
  | nil =>
    -- only a single empty field leaves nothing to write, and quotes are written for it
    rw [h_cs, feed_nil] at h_feed
    obtain rfl := Option.some.inj h_feed
    obtain rfl : ss = [""] := by simpa using h_fields.symm
    simp [feed, step, endLine, endRecord]
  | cons c cs =>
    have h_record : r'.spot ≠ .record := fun h => by
      have h_nil := (h_ended.record h).2
      rw [h_cs] at h_nil
      cases h_nil
    show feed blank _ (c :: cs ++ ['\n']) = _
    rw [← h_cs, feed_append, h_feed, Option.bind_some, feed_cons,
      step_lineFeed h_ended.inside h_ended.returned h_record, Option.bind_some, feed_nil, endRecord,
      h_fields, h_records, List.nil_append]

theorem feed_records {rows : List (List String)} (h : ∀ ss ∈ rows, ss ≠ [])
    (records : List (List String)) :
    feed blank ⟨.record, [], [], records⟩ (rows.flatMap Csv.record) =
      some ⟨.record, [], [], records ++ rows⟩ := by
  induction rows generalizing records with
  | nil => rw [List.flatMap_nil, feed_nil, List.append_nil]
  | cons ss rows ih =>
    obtain ⟨h_ss, h_rows⟩ := List.forall_mem_cons.1 h
    rw [List.flatMap_cons, feed_append, feed_record h_ss, Option.bind_some, ih h_rows,
      List.append_assoc, List.singleton_append]

end Reading

/-- **What is written reads back**, as long as every record has a field. -/
theorem read_records (blank : Bool) {rows : List (List String)} (h : ∀ ss ∈ rows, ss ≠ []) :
    read blank (records rows) = some rows := by
  rw [read, records, String.toList_ofList, Reading.start, Reading.feed_records h, Option.bind_some]
  simp [Reading.finish]

/-- The table of data sets reads back as its columns and the values below them. -/
theorem read_table (blank : Bool) {columns : List String} (h : columns ≠ []) (ds : List DataSet) :
    read blank (table columns ds) = some (columns :: ds.map (row columns)) := by
  refine read_records blank (List.forall_mem_cons.2 ⟨h, fun ss h_ss => ?_⟩)
  obtain ⟨d, -, rfl⟩ := List.mem_map.1 h_ss
  simpa [row] using h

example : read false "a,\"b \"\"c\"\"\"\r\n\r\n,\r\"\"" =
    some [["a", "b \"c\""], ["", ""], [""]] := by decide

end Specimen.Csv
