import Specimen.Proofs.Config.Charsets
import Specimen.Proofs.Field.Domain
import Specimen.Proofs.Generator.Activity
import Specimen.Proofs.Generator.Lockstep
import Specimen.Proofs.Graph.Mirror
import Specimen.Proofs.Graph.Validated

/-!
# Characters of texts

The identity of a node is made from that of the node in which it is embedded, so it carries the
character set that is named nearest to its place (`exists_mirrors_nearestCharset`). A node that
refers to another one hands nothing on to it. A set that is found in a graph with the character sets
of a configuration is made of the characters that its id stands for there
(`Graph.Equips.exists_text`).

So a text field has the set that is made of the characters which the nearest id stands for
(`Generator.exists_fieldSet`). Whatever the generator does, a field that is generating has just
begun or has a value that was generated for it with its own set (`Evaluation.FieldsYield`), so that
the characters of all texts are those that the declaration says (`Generator.text_characters`).

Building goes by the characters that count (`Graph.buildConfig_congr`). So a character that is
repeated in a declaration does not count, and the same generator comes of it.
-/

namespace Specimen

/-! ### The nearest character set -/

/-- **Nesting.** The node at a place has the character set that is named nearest to the place. -/
theorem exists_mirrors_nearestCharset {sets : CharacterSets} {c : Config} {ns : List Node}
    (h : List.Forall₂ (Node.Mirrors sets none) c.constraints ns) {p : Place} {owner : Option String}
    {x : Config.Constraint} (h_x : c.Stands p owner x) : ∃ n above, nodeAt? ns p = some n ∧
      n.Mirrors sets above x ∧ n.identity.charset = c.nearestCharset? p := by
  induction h_x with
  | @top i x h_top =>
    obtain ⟨h_i, rfl⟩ := List.getElem?_eq_some_iff.1 h_top
    have h_mirrors := h.get h_i (h.length_eq ▸ h_i)
    have h_node : nodeAt? ns [i] = some (ns.get ⟨i, h.length_eq ▸ h_i⟩) :=
      nodeAt?_cons.2 ⟨_, List.getElem?_eq_getElem (h.length_eq ▸ h_i), Node.at?_nil _⟩
    have h_at : c.at? ([] ++ [i]) = some (c.constraints.get ⟨i, h_i⟩) :=
      (Config.Stands.top h_top).at?
    have h_nearest := Config.nearestCharset?_append h_at
    rw [Config.nearestCharset?_nil, Option.or_none, List.nil_append] at h_nearest
    refine ⟨_, none, h_node, h_mirrors, ?_⟩
    rw [h_mirrors.identity_eq, h_nearest]
    rfl
  | @part p owner x i y h_x h_part ih =>
    obtain ⟨n, above, h_n, h_mirrors, h_charset⟩ := ih
    obtain ⟨link, h_link, h_child⟩ := h_mirrors.links.link h_part
    cases h_child with
    | @embedded _ _ k h_k =>
      refine ⟨k, some n.identity, nodeAt?_part h_n h_link, h_k, ?_⟩
      rw [h_k.identity_eq, Config.nearestCharset?_append (h_x.part h_part).at?, ← h_charset]
      rfl

/-! ### What ids stand for -/

theorem CharacterSet.ofString?_eq_ok_iff {id chars : String} {set : CharacterSet} :
    ofString? id chars = .ok set ↔ set.id = id ∧ set.chars = letters chars := by
  constructor
  · intro h
    refine ⟨?_, chars_of_ofString? h⟩
    unfold ofString? at h
    split at h
    · rw [← Except.ok.inj h]
    · cases h
  · rintro ⟨rfl, h_chars⟩
    obtain ⟨id, own, nonempty, nodup⟩ := set
    subst h_chars
    exact dif_pos nonempty

/-- A built-in set is made of the text that is listed for it. -/
theorem CharacterSets.exists_text_of_builtin {id : String} {set : CharacterSet}
    (h : builtin.get? id = some set) :
    ∃ text, builtinTexts.lookup id = some text ∧ CharacterSet.ofString? id text = .ok set := by
  have h_all : ∀ e ∈ builtin.entries, e.2.id = e.1 ∧
      builtinTexts.lookup e.1 = some e.2.text ∧ e.2.chars = CharacterSet.letters e.2.text := by
    decide +kernel
  obtain ⟨h_id, h_text, h_chars⟩ := h_all (id, set) (Dict.mem_entries_iff.2 h)
  exact ⟨_, h_text, CharacterSet.ofString?_eq_ok_iff.2 ⟨h_id, h_chars⟩⟩

/-- **A set that is found** is made of the characters that its id stands for. -/
theorem Graph.Equips.exists_text {g : Graph} {c : Config} (h : g.Equips c) {id : String}
    {set : CharacterSet} (h_find : g.charsets.find id = .ok set) :
    ∃ text, c.charsetText? id = some text ∧ CharacterSet.ofString? id text = .ok set := by
  have h_get : g.charsets.get? id = some set := by
    unfold CharacterSets.find at h_find
    split at h_find
    · next h_some => rw [h_some, Except.ok.inj h_find]
    · cases h_find
  rw [Config.charsetText?]
  cases h_declared : c.charsets.get? id with
  | some chars =>
    obtain ⟨set', h_set', h_get'⟩ := h.declared id chars h_declared
    obtain rfl := Option.some.inj (h_get'.symm.trans h_get)
    exact ⟨chars, rfl, h_set'⟩
  | none =>
    rw [h.others id h_declared] at h_get
    rw [Option.none_or]
    exact CharacterSets.exists_text_of_builtin h_get

/-! ### Declarations with the same characters -/

theorem Graph.declareCharsets_congr {es es' : List (String × String)}
    (h : List.Forall₂ Config.SameLetters es es') : declareCharsets es = declareCharsets es' := by
  induction h with
  | nil => rfl
  | @cons e e' es es' h_e _ ih =>
    obtain ⟨id, chars⟩ := e
    obtain ⟨id', chars'⟩ := e'
    obtain ⟨rfl, h_letters⟩ : id = id' ∧ CharacterSet.letters chars = CharacterSet.letters chars' :=
      h_e
    have h_declare : declareCharset id chars = declareCharset id chars' := by
      rw [declareCharset, declareCharset]
      simp only [CharacterSets.declare, CharacterSet.ofString?_congr h_letters]
    rw [declareCharsets, declareCharsets, h_declare, ih]

/-- **Building** goes by the characters that count. -/
theorem Graph.buildConfig_congr {c : Config} {sets : Dict String}
    (h : sets.map CharacterSet.letters = c.charsets.map CharacterSet.letters) :
    buildConfig { c with charsets := sets } = buildConfig c := by
  rw [buildConfig, buildConfig, declareCharsets_congr (Config.forall₂_sameLetters h)]

/-! ### What fields yield -/

open Evaluation

/-- A value comes of a field and a set. -/
def Field.Yields (f : Field) (set : CharacterSet) (v : Option String) : Prop :=
  ∃ c d t, v = some t ∧ (f.generate c set d).1 = .ok t

/-- The value of a field comes of it and its set. -/
theorem Field.yields_of_fieldValue {key : Nat} {f : Field} {set : CharacterSet} {c : FieldCase}
    {m : Memory} {v : Option String} (h : (fieldValue key f set c m).1 = .ok v) :
    f.Yields set v := by
  have h_ends : Ends (fieldValue key f set c) m (fun v _ => f.Yields set v) fun _ _ => True := by
    rw [ends_fieldValue (Prod.eta _).symm]
    exact ⟨fun t h_t => ⟨_, _, t, rfl, h_t⟩, fun _ _ => trivial⟩
  exact h_ends.of_ok (Prod.ext h rfl)

/-- What comes of the field of a text has only characters of the set. -/
theorem Field.Yields.mem_of_text {low high : UInt64} {f : Field} {set : CharacterSet}
    {v : Option String} (h : f.Yields set v) (h_field : ofSpec (.text low high) = .ok f) :
    ∃ t, v = some t ∧ ∀ a ∈ t.toList, a ∈ set.chars := by
  obtain ⟨case, draws, t, h_t, h_generate⟩ := h
  have h_spells := spells_of_generate (declared_of_ofSpec h_field) nofun h_generate
  exact ⟨t, h_t, h_spells.2⟩

/-- A field generates in a single move. -/
theorem Scope.Moves.of_field {s : Scope} {n : Node} {f : Field} {set : CharacterSet} {c : FieldCase}
    {control control' : Control} {stage : Stage} {m m' : Memory}
    (h : s.Moves n c .begun control m stage control' m') (h_kind : n.kind = .field f set) :
    stage = .begun ∧ control' = .ofResult (fieldValue n.key f set c m).1 := by
  cases h with
  | field h =>
    cases h_kind.symm.trans h
    exact ⟨rfl, rfl⟩
  | constant h | combined h | absent h | explicit h | ignoring h | fixed h | whenPresent h
  | ruleLost h | source h => cases h_kind.symm.trans h
  | childLost h =>
    rcases h with ⟨rule, h, -⟩ | h
    · cases h_kind.symm.trans h
    · cases h_kind.symm.trans h

/-- The fields that are generating have just begun, and the innermost one may have a value that
comes of it. -/
structure Evaluation.FieldsYield (x : Evaluation) : Prop where
  begun : ∀ fr ∈ x.stack, ∀ f set, fr.node.kind = .field f set → fr.stage = .begun
  generated : ∀ fr st v f set, x.stack = fr :: st → x.control = .generated v →
    fr.node.kind = .field f set → f.Yields set v

namespace Evaluation.FieldsYield

variable {s : Scope} {x y : Evaluation}

/-- **One step.** -/
theorem step (h : x.FieldsYield) (h_step : s.Step x y) : y.FieldsYield := by
  cases h_step with
  | overridden | remembered | reentrant =>
    exact ⟨h.begun, fun _ _ _ _ _ _ h_control => by cases h_control⟩
  | begin =>
    refine ⟨List.forall_mem_cons.2 ⟨fun _ _ _ => rfl, h.begun⟩, ?_⟩
    intro fr st v f set _ h_control
    cases h_control
  | @move st fr control m stage control' m' h_moves =>
    obtain ⟨h_first, h_rest⟩ := List.forall_mem_cons.1 h.begun
    -- A field gives its answer at once: it never gets beyond the first stage.
    have h_field : ∀ f set, fr.node.kind = .field f set → stage = .begun ∧ control' =
        .ofResult (fieldValue fr.node.key f set (fr.node.computedCase fr.asked) m).1 := by
      intro f set h_kind
      rw [h_first f set h_kind] at h_moves
      exact h_moves.of_field h_kind
    refine ⟨List.forall_mem_cons.2 ⟨fun f set h_kind => (h_field f set h_kind).1, h_rest⟩, ?_⟩
    intro fr' st' v f set h_stack h_control h_kind
    obtain ⟨rfl, rfl⟩ := List.cons.inj h_stack
    have h_result := (h_field f set h_kind).2.symm.trans h_control
    cases h_value : (fieldValue fr.node.key f set (fr.node.computedCase fr.asked) m).1 with
    | error e =>
      rw [h_value] at h_result
      cases h_result
    | ok w =>
      rw [h_value] at h_result
      cases h_result
      exact Field.yields_of_fieldValue h_value
  | finish | fail =>
    exact ⟨(List.forall_mem_cons.1 h.begun).2, fun _ _ _ _ _ _ h_control => by cases h_control⟩

end Evaluation.FieldsYield

namespace Generator

variable {c : Config} {o : GeneratorOptions} {random : UInt64} {g : Generator} {m : Memory}

/-- **All of what a generator does.** Wherever it is, the fields that are generating have just begun
or have a value that comes of them. -/
theorem fieldsYield_of_proceeds {x : Evaluation}
    (h : g.Proceeds (.resting m) (.evaluating x)) : x.FieldsYield := by
  have h_all : ∀ a, g.Proceeds (.resting m) a → ∀ x, a = .evaluating x → x.FieldsYield := by
    intro a h_a
    induction h_a with
    | refl => exact fun _ h_eq => by cases h_eq
    | tail _ h_act ih =>
      rintro x rfl
      cases h_act with
      | evaluates h_evaluates =>
        cases h_evaluates with
        | ask _ =>
          exact ⟨fun _ h_fr => absurd h_fr List.not_mem_nil,
            fun _ _ _ _ _ h_stack => by cases h_stack⟩
        | step h_step => exact (ih _ rfl).step h_step
      | looks h_looks => cases h_looks
      | tidies h_tidies => cases h_tidies
  exact h_all _ h x rfl

/-! ### Sets of fields -/

/-- The graph of a configuration has its character sets. -/
theorem equips_of_ofConfig (h : ofConfig c o random = .ok g) : g.graph.Equips c := by
  obtain ⟨⟨tops, h_of⟩, -⟩ := ofConfig_represents h
  -- a pattern that was built has a plan
  have h_patterns : Graph.PatternsPlanned c := by
    intro p x expression maxRepeat h_x h_kind
    obtain ⟨n, above, -, h_mirrors⟩ := mirrors_nodeAt? h_of.mirrors h_x
    have h_built := h_mirrors.kind
    rw [h_kind] at h_built
    generalize n.kind = k at h_built
    cases h_built with
    | field h_field h_set =>
      rw [Field.ofSpec] at h_field
      split at h_field
      · next plan h_plan => exact ⟨plan, h_plan⟩
      · cases h_field
  have h_adds := Graph.buildConfig_adds h_of.wellFormed h_patterns
  unfold ofConfig at h
  simp only at h
  split at h
  · split at h
    · next roots graph h_build =>
      cases h
      exact (h_adds.of_ok h_build).1
    · cases h
  · cases h

/-- **Sets of fields.** The node of a field has the set that is made of the characters that the
nearest id stands for, or else the standard one. -/
theorem exists_fieldSet (h : ofConfig c o random = .ok g) {p : Place} {x : Config.Constraint}
    {spec : Config.FieldSpec} (h_x : c.at? p = some x) (h_kind : x.kind = .field spec) :
    ∃ n f set text, g.nodeAt? p = some n ∧ n.kind = .field f set ∧ Field.ofSpec spec = .ok f ∧
      c.charsetText? ((c.nearestCharset? p).getD CharacterSets.standardId) = some text ∧
      CharacterSet.ofString? ((c.nearestCharset? p).getD CharacterSets.standardId) text =
        .ok set := by
  obtain ⟨⟨tops, h_of⟩, -⟩ := ofConfig_represents h
  obtain ⟨owner, h_stands⟩ := Config.at?_iff_stands.1 h_x
  obtain ⟨n, above, h_n, h_mirrors, h_charset⟩ :=
    exists_mirrors_nearestCharset h_of.mirrors h_stands
  have h_built := h_mirrors.kind
  rw [h_kind] at h_built
  generalize h_eq : n.kind = k at h_built
  cases h_built with
  | @field _ _ f set h_field h_set =>
    rw [h_charset] at h_set
    obtain ⟨text, h_text, h_made⟩ := (equips_of_ofConfig h).exists_text h_set
    exact ⟨n, f, set, text, h_of.nodeAt?_eq p ▸ h_n, h_eq, h_field, h_text, h_made⟩

/-- Declarations with the same characters lead to the same generator. -/
theorem ofConfig_congr {sets : Dict String}
    (h : sets.map CharacterSet.letters = c.charsets.map CharacterSet.letters) :
    ofConfig { c with charsets := sets } o random = ofConfig c o random := by
  rw [ofConfig, ofConfig, Config.check_congr h, Graph.buildConfig_congr h]

/-! ### Texts -/

/-- **Characters of texts.** Take any generator of a configuration, and the declaration of a text at
any place of it.

The nearest constraint from there outwards that names a character set says what the text is made of,
or else it is the standard set. A set that the configuration declares comes before the built-in one
with its id. Whatever is going on and has led there, when the node at this place has generated a
value, it is a text with only characters that the set is declared to have.

To repeat a character in a declaration after its first appearance leads to the same generator. -/
theorem text_characters (h : ofConfig c o random = .ok g) :
    (∀ p x low high, c.at? p = some x → x.kind = .field (.text low high) →
      ∃ n text, g.nodeAt? p = some n ∧
        c.charsetText? ((c.nearestCharset? p).getD CharacterSets.standardId) = some text ∧
        ∀ m fr st v m', g.Proceeds (.resting m) (.evaluating ⟨fr :: st, .generated v, m'⟩) →
          fr.node = n → ∃ t, v = some t ∧ ∀ a ∈ t.toList, a ∈ text.toList) ∧
    ∀ id before after a, c.charsets.get? id = some (String.ofList (before ++ after)) →
      a ∈ before → ofConfig
        { c with charsets := c.charsets.insert id (String.ofList (before ++ a :: after)) }
        o random = .ok g := by
  refine ⟨fun p x low high h_x h_kind => ?_, fun id before after a h_get h_a => ?_⟩
  · obtain ⟨n, f, set, text, h_n, h_node, h_field, h_text, h_set⟩ := exists_fieldSet h h_x h_kind
    refine ⟨n, text, h_n, h_text, ?_⟩
    rintro m fr st v m' h_proceeds rfl
    have h_yields := (fieldsYield_of_proceeds h_proceeds).generated fr st v f set rfl rfl h_node
    obtain ⟨t, h_t, h_chars⟩ := h_yields.mem_of_text h_field
    refine ⟨t, h_t, fun a h_a => ?_⟩
    have h_letters := h_chars a h_a
    rw [CharacterSet.chars_of_ofString? h_set] at h_letters
    exact CharacterSet.mem_letters.1 h_letters
  · rw [ofConfig_congr (Config.map_letters_insert h_get (CharacterSet.letters_repeat h_a))]
    exact h

/-! ### A set that is declared anew -/

/-- The graph holds the nodes at the places. -/
theorem holds_of_nodeAt? {p : Place} {n : Node} (h : g.nodeAt? p = some n) : g.graph.Holds n := by
  obtain ⟨t, h_t, h_inside⟩ := exists_nodeAt?_iff.1 ⟨p, h⟩
  obtain ⟨id, -, h_get⟩ := List.mem_filterMap.1 h_t
  exact ⟨id, t, h_get, h_inside⟩

/-- A combination that names the set of digits, of which the configuration leaves two. A text is
deep inside of it, and a reference leads to another one outside. -/
def twoDigits : Config where
  version := Config.supportedVersion
  seed := none
  charsets := Dict.empty.insert "numeric" "01"
  constraints := [
    .mk (some "all") (some "numeric") (.combined [
      .embedded (.mk none none (.optional
        (.embedded (.mk none none (.source
          (.embedded (.mk none none (.field (.text 2 4))))))) (.fixed true))),
      .reference "word"] "-"),
    .mk (some "word") none (.field (.text 1 3))]

/-- The text deep inside is made of the two digits, also when one of them is declared twice. -/
theorem text_characters_twoDigits : ∃ g n t m, ofConfig twoDigits {} 0 = .ok g ∧
    g.nodeAt? [0, 0, 0, 0] = some n ∧
    g.Proceeds (.resting (g.freshMemory.withDraws default))
      (.evaluating ⟨[⟨n, .normal, 0, .begun⟩], .generated (some t), m⟩) ∧
    2 ≤ t.length ∧ (∀ a ∈ t.toList, a ∈ "01".toList) ∧
    ofConfig { twoDigits with charsets := twoDigits.charsets.insert "numeric" "011" } {} 0 =
      .ok g := by
  have h_run : (ofConfig twoDigits {} 0).toOption.map (fun g =>
      (g.nodeAt? [0, 0, 0, 0]).map fun n => match n.kind with
        | .field f set => (fieldValue n.key f set (n.computedCase .normal)
            ((g.freshMemory.withDraws default).begun n.key n.identity
              (n.computedCase .normal))).1.toOption.map (·.map String.length)
        | _ => none) = some (some (some (some 2))) := by decide +kernel
  obtain ⟨g, h_ok, h_g⟩ := exists_ok_of_map h_run
  obtain ⟨n, h_n, h_value⟩ := Option.map_eq_some_iff.1 h_g
  obtain ⟨h_places, h_repeated⟩ := text_characters h_ok
  obtain ⟨n', text, h_n', h_text, h_all⟩ := h_places [0, 0, 0, 0] _ 2 4 rfl rfl
  obtain rfl := Option.some.inj (h_n.symm.trans h_n')
  obtain rfl : "01" = text := Option.some.inj h_text
  split at h_value
  · next f set h_kind =>
    obtain ⟨v, h_v, h_length⟩ := Option.map_eq_some_iff.1 h_value
    obtain ⟨t, rfl, h_two⟩ := Option.map_eq_some_iff.1 h_length
    have h_ask : g.Proceeds (.resting (g.freshMemory.withDraws default))
        (.evaluating ⟨[], .ask n .normal, g.freshMemory.withDraws default⟩) :=
      .single (.evaluates (.ask (holds_of_nodeAt? h_n)))
    have h_begin := h_ask.tail (.evaluates (.step (.begin ⟨rfl, fun _ => rfl⟩ nofun)))
    have h_move := h_begin.tail (.evaluates (.step (.move (.field h_kind))))
    have h_result := congrArg Prod.fst (eq_ok_of_toOption h_v)
    simp only [h_result] at h_move
    obtain ⟨t', h_t', h_digits⟩ := h_all _ _ _ _ _ h_move rfl
    obtain rfl := Option.some.inj h_t'
    exact ⟨g, n, t, _, h_ok, h_n, h_move, h_two.ge, h_digits,
      h_repeated "numeric" ['0', '1'] [] '1' rfl (by decide)⟩
  · cases h_value

end Generator

end Specimen
