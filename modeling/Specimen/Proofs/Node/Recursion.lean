import Mathlib.Logic.ExistsUnique
import Specimen.Node.Cases
import Specimen.Proofs.Ends

/-!
# Recursions with and without a bound

Values, numbers of cases, cases that are left and ids are found by recursions whose depth is bounded
by fuel. An evaluation with less fuel agrees with one with more wherever its fuel does not run out
(`Eval.Approximates`), and so it does with any evaluation that meets the equation of the recursion
without a bound.

* `Recursion` is an equation for evaluations that keeps this order, and `Recursion.within` what it
  answers within a depth.
* `Recursion.existsUnique_solution`: if for every question there is a depth that is enough, there is
  just one evaluation without a bound, and it answers what is answered within that depth.
* `Node.valueRecursion`, `Node.countRecursion`, `Node.hasNextRecursion` and `Node.containedRecursion`
  are the recursions by which nodes are asked and looked through.
-/

namespace Specimen

namespace Eval

variable {α β : Type}

/-- An evaluation does the same as another one wherever its fuel does not run out. -/
def Approximates (e e' : Eval α) : Prop := ∀ m, (e m).1 ≠ .error .tooDeep → e' m = e m

namespace Approximates

variable {e e' : Eval α}

theorem refl (e : Eval α) : e.Approximates e := fun _ _ => rfl

theorem tooDeep : Approximates (throw .tooDeep) e := fun _ h_deep => absurd rfl h_deep

theorem bind {k k' : α → Eval β} (h : e.Approximates e')
    (h_next : ∀ a, (k a).Approximates (k' a)) : Approximates (e >>= k) (e' >>= k') := by
  intro m h_deep
  rcases h_e : e m with ⟨f | a, m'⟩
  · rw [bind_of_error h_e] at h_deep ⊢
    have h_same : e' m = e m := h m fun h_error => by
      rw [h_e] at h_error
      cases h_error
      exact h_deep rfl
    exact bind_of_error (h_same.trans h_e)
  · rw [bind_of_ok h_e] at h_deep ⊢
    have h_same : e' m = e m := h m (by rw [h_e]; exact nofun)
    rw [bind_of_ok (h_same.trans h_e)]
    exact h_next a m' h_deep

/-- What comes first is the same in both. -/
theorem after (e : Eval α) {k k' : α → Eval β} (h_next : ∀ a, (k a).Approximates (k' a)) :
    Approximates (e >>= k) (e >>= k') := (refl e).bind h_next

theorem ensuring (h : e.Approximates e') (always : Memory → Memory) :
    (Eval.ensuring always e).Approximates (Eval.ensuring always e') := by
  intro m h_deep
  have h_same : e' m = e m := h m h_deep
  show ((e' m).1, always (e' m).2) = ((e m).1, always (e m).2)
  rw [h_same]

theorem inNode (h : e.Approximates e') (node : String) :
    (Eval.inNode node e).Approximates (Eval.inNode node e') := by
  intro m h_deep
  have h_same : e' m = e m := by
    refine h m fun h_error => h_deep ?_
    -- fuel that ran out has no names of nodes around it
    have h_e : e m = (.error .tooDeep, (e m).2) := Prod.ext h_error rfl
    simp only [Eval.inNode, ExceptT.mk]
    rw [h_e]
  simp only [Eval.inNode, ExceptT.mk]
  rw [h_same]

end Approximates

end Eval

open Eval

/-! ### Recursions -/

/-- The equation of a recursion, by which questions are answered with the answers to others. -/
structure Recursion (ι α : Type) where
  /-- The answer to a question, given how others are answered. -/
  equation : (ι → Eval α) → ι → Eval α
  mono : ∀ {ask ask' : ι → Eval α}, (∀ i, (ask i).Approximates (ask' i)) →
    ∀ i, (equation ask i).Approximates (equation ask' i)

namespace Recursion

variable {ι α : Type} (r : Recursion ι α)

/-- What a recursion answers within a depth. -/
def within : Nat → ι → Eval α
  | 0, _ => throw .tooDeep
  | depth + 1, i => r.equation (within depth) i

/-- An evaluation meets the equation of a recursion, with no bound on how deep it is. -/
def IsSolution (ask : ι → Eval α) : Prop := ∀ i, ask i = r.equation ask i

variable {r}

theorem within_approximates_solution {ask : ι → Eval α} (h : r.IsSolution ask) :
    ∀ depth i, (r.within depth i).Approximates (ask i)
  | 0, _ => .tooDeep
  | depth + 1, i => by
    rw [h i]
    exact r.mono (within_approximates_solution h depth) i

theorem within_approximates_within : ∀ depth more i,
    (r.within depth i).Approximates (r.within (depth + more) i)
  | 0, _, _ => .tooDeep
  | depth + 1, more, i => by
    rw [Nat.add_right_comm]
    exact r.mono (within_approximates_within depth more) i

/-- **More depth changes nothing** where a depth is enough. -/
theorem within_eq_of_le {depth depth' : Nat} (h : depth ≤ depth') {i : ι} {m : Memory}
    (h_deep : (r.within depth i m).1 ≠ .error .tooDeep) :
    r.within depth' i m = r.within depth i m := by
  obtain ⟨more, rfl⟩ := Nat.exists_eq_add_of_le h
  exact within_approximates_within depth more i m h_deep

/-- For each question, a depth that is enough for it. -/
def Suffices (r : Recursion ι α) (depth : ι → Nat) : Prop :=
  ∀ i m, (r.within (depth i) i m).1 ≠ .error .tooDeep

/-- Every solution answers what is answered within a depth that is enough. -/
theorem IsSolution.eq_within {ask : ι → Eval α} (h : r.IsSolution ask) {depth : ι → Nat}
    (h_depth : r.Suffices depth) (i : ι) : ask i = r.within (depth i) i :=
  funext fun m => within_approximates_solution h (depth i) i m (h_depth i m)

/-- What is answered within depths that are enough is a solution. -/
theorem isSolution_within {depth : ι → Nat} (h : r.Suffices depth) :
    r.IsSolution fun i => r.within (depth i) i := by
  -- within any depth the same is answered, if anything
  have h_all : ∀ d j, (r.within d j).Approximates (r.within (depth j) j) := by
    intro d j m h_deep
    rw [← within_eq_of_le (Nat.le_max_left d (depth j)) h_deep,
      within_eq_of_le (Nat.le_max_right d (depth j)) (h j m)]
  intro i
  funext m
  have h_more := within_eq_of_le (Nat.le_succ (depth i)) (h i m)
  have h_deep : (r.within (depth i + 1) i m).1 ≠ .error .tooDeep := h_more ▸ h i m
  exact h_more.symm.trans (r.mono (h_all (depth i)) i m h_deep).symm

/-- **Without a bound.** If for each question there is a depth that is enough for it, just one
evaluation meets the equation of the recursion. -/
theorem existsUnique_solution {depth : ι → Nat} (h : r.Suffices depth) :
    ∃! ask, r.IsSolution ask :=
  ⟨_, isSolution_within h, fun _ h_ask => funext fun i => h_ask.eq_within h i⟩

end Recursion

/-! ### Values -/

section Values

variable {s : Scope} {ask ask' : Node → FieldCase → Eval (Option String)} {key : Nat}
  {i : Identity}

theorem guarded_mono {c : FieldCase} {e e' : Eval (Option String)} (h : e.Approximates e') :
    (guarded key i c e).Approximates (guarded key i c e') := by
  have h_named : ∀ event, Approximates (do Eval.log event; Eval.inNode i.display e)
      (do Eval.log event; Eval.inNode i.display e') :=
    fun event => .after (Eval.log event) fun _ => h.inNode i.display
  rw [guarded, guarded]
  -- up to where the node computes, both do the same
  refine .after _ fun token => .after _ fun cell => ?_
  split
  · split
    · exact .after _ fun _ => .after _ fun _ => (h_named _).ensuring _
    · exact .after _ fun _ => (h_named _).ensuring _
  · exact .after _ fun _ => (h_named _).ensuring _

theorem stateless_mono {generate generate' : FieldCase → Eval (Option String)}
    (h : ∀ c, (generate c).Approximates (generate' c)) (c : FieldCase) :
    (stateless key i c generate).Approximates (stateless key i c generate') := by
  refine .after _ fun value => ?_
  cases value with
  | some value => exact .refl _
  | none => exact guarded_mono (h c)

theorem cached_mono {generate generate' : FieldCase → Eval (Option String)}
    (h : ∀ c, (generate c).Approximates (generate' c)) (c : FieldCase) :
    (cached key i c generate).Approximates (cached key i c generate') := by
  refine .after _ fun value => ?_
  cases value with
  | some value => exact .refl _
  | none =>
    refine .after _ fun cell => ?_
    split
    · exact .refl _
    · exact (guarded_mono (h c.computed)).bind fun _ => .refl _

variable (h : ∀ n c, (ask n c).Approximates (ask' n c))

include h

theorem Scope.partValues_mono (c : FieldCase) : ∀ links,
    (s.partValues ask c links).Approximates (s.partValues ask' c links)
  | [] => .refl _
  | _ :: links => .after _ fun n => (h n c).bind fun _ =>
    (Scope.partValues_mono c links).bind fun _ => .refl _

theorem Scope.isMandatory_mono (rule : Config.Mandatory) :
    (s.isMandatory ask rule).Approximates (s.isMandatory ask' rule) := by
  unfold Scope.isMandatory
  split
  · exact .refl _
  · cases rule with
    | fixed always => exact .refl _
    | whenPresent id => exact .after _ fun n => (h n .normal).bind fun _ => .refl _

theorem Scope.optionalValue_mono (key : Nat) (child : Link) (rule : Config.Mandatory)
    (c : FieldCase) : (s.optionalValue ask key child rule c).Approximates
      (s.optionalValue ask' key child rule c) := by
  unfold Scope.optionalValue
  split
  · exact .refl _
  · refine .after _ fun n => ?_
    split
    · exact .after _ fun _ => h n _
    · exact ((Scope.isMandatory_mono h rule).bind fun _ => .refl _).bind fun _ => h n _

/-- The answer of a node keeps the order of evaluations. -/
theorem Node.answer_mono (n : Node) (c : FieldCase) :
    (n.answer s ask c).Approximates (n.answer s ask' c) := by
  unfold Node.answer
  split
  · exact .refl _
  · exact .refl _
  · exact cached_mono (fun c => (Scope.partValues_mono h c _).bind fun _ => .refl _) c
  · exact cached_mono (fun c => Scope.optionalValue_mono h _ _ _ c) c
  · exact stateless_mono (fun c => .after _ fun n => h n c) c

end Values

namespace Node

/-- Nodes asked for values. -/
def valueRecursion (s : Scope) : Recursion (Node × FieldCase) (Option String) where
  equation ask i := i.1.answer s (fun n c => ask (n, c)) i.2
  mono h i := Node.answer_mono (fun n c => h (n, c)) i.1 i.2

theorem value_eq_within (s : Scope) : ∀ fuel n c,
    Node.value s fuel n c = (valueRecursion s).within fuel (n, c)
  | 0, _, _ => rfl
  | fuel + 1, n, c => by
    have h_ask : Node.value s fuel = fun n c => (valueRecursion s).within fuel (n, c) :=
      funext fun n => funext fun c => value_eq_within s fuel n c
    rw [Node.value, h_ask]
    rfl

end Node

/-! ### Looking through nodes -/

section Looks

variable {α : Type} {s : Scope}

theorem traverse_mono {key : Nat} {i : Identity} {visit visit' : Eval α}
    (h : visit.Approximates visit') :
    (traverse key i visit).Approximates (traverse key i visit') := by
  rw [traverse, traverse]
  refine .after _ fun cell => ?_
  split
  · exact .after _ fun _ => .after _ fun _ => (h.inNode _).ensuring _
  · exact .after _ fun _ => (h.inNode _).ensuring _

theorem Scope.widest_mono {count count' : Node → Eval Nat}
    (h : ∀ n, (count n).Approximates (count' n)) : ∀ links most,
      (s.widest count links most).Approximates (s.widest count' links most)
  | [], _ => .refl _
  | _ :: links, _ => .after _ fun n => (h n).bind fun _ => Scope.widest_mono h links _

theorem Scope.anyNext_mono {hasNext hasNext' : Node → Eval Bool}
    (h : ∀ n, (hasNext n).Approximates (hasNext' n)) : ∀ links,
      (s.anyNext hasNext links).Approximates (s.anyNext hasNext' links)
  | [] => .refl _
  | _ :: links => .after _ fun n => (h n).bind fun found => by
    cases found with
    | true => exact .refl _
    | false => exact Scope.anyNext_mono h links

theorem Scope.reached_mono {contained contained' : Node → Eval NameSet}
    (h : ∀ n, (contained n).Approximates (contained' n)) : ∀ links ids,
      (s.reached contained links ids).Approximates (s.reached contained' links ids)
  | [], _ => .refl _
  | _ :: links, _ => .after _ fun n => (h n).bind fun _ => Scope.reached_mono h links _

end Looks

namespace Node

variable (s : Scope)

/-- Nodes asked for the number of their cases. -/
def countRecursion : Recursion Node Nat where
  equation count n :=
    match n.kind with
    | .constant _ => return 1
    | .field f _ => return f.boundaries.length
    | .combined parts _ => traverse n.key n.identity (s.widest count parts 1)
    | .optional child _ => traverse n.key n.identity do
      let count ← count (← s.resolve child)
      return saturated (saturated (2 * count) + 1)
    | .source child => traverse n.key n.identity do count (← s.resolve child)
  mono h n := by
    split
    · exact .refl _
    · exact .refl _
    · exact traverse_mono (Scope.widest_mono h _ _)
    · exact traverse_mono (.after _ fun n => (h n).bind fun _ => .refl _)
    · exact traverse_mono (.after _ h)

/-- Nodes asked whether cases are left. -/
def hasNextRecursion : Recursion Node Bool where
  equation hasNext n :=
    match n.kind with
    | .constant _ => return (← Eval.cell n.key).served.isEmpty
    | .field f _ => return (pendingCase? f (← Eval.cell n.key).served).isSome
    | .combined parts _ => traverse n.key n.identity (s.anyNext hasNext parts)
    | .optional child rule => traverse n.key n.identity do
      let cell ← Eval.cell n.key
      let childHasNext : Eval Bool := do hasNext (← s.resolve child)
      match s.knownMandatory cell rule with
      | some true => childHasNext
      | some false => return cell.choice.hasNext
      | none => if cell.choice.hasNext then return true else childHasNext
    | .source child => traverse n.key n.identity do hasNext (← s.resolve child)
  mono h n := by
    split
    · exact .refl _
    · exact .refl _
    · exact traverse_mono (Scope.anyNext_mono h _)
    · refine traverse_mono (.after _ fun cell => ?_)
      split
      · exact .after _ h
      · exact .refl _
      · split
        · exact .refl _
        · exact .after _ h
    · exact traverse_mono (.after _ h)

/-- Nodes asked for the ids that they reach. -/
def containedRecursion : Recursion Node NameSet where
  equation contained n :=
    match n.kind with
    | .constant _ | .field .. => return n.ownIds
    | kind => traverse n.key n.identity (s.reached contained kind.links n.ownIds)
  mono h n := by
    split
    · exact .refl _
    · exact .refl _
    · exact traverse_mono (Scope.reached_mono h _ _)

theorem countCases_eq_within : ∀ fuel, countCases s fuel = (countRecursion s).within fuel
  | 0 => rfl
  | fuel + 1 => funext fun n => by
    rw [countCases, countCases_eq_within fuel]
    rfl

theorem hasNextCase_eq_within : ∀ fuel, hasNextCase s fuel = (hasNextRecursion s).within fuel
  | 0 => rfl
  | fuel + 1 => funext fun n => by
    rw [hasNextCase, hasNextCase_eq_within fuel]
    rfl

theorem containedIds_eq_within : ∀ fuel, containedIds s fuel = (containedRecursion s).within fuel
  | 0 => rfl
  | fuel + 1 => funext fun n => by
    rw [containedIds, containedIds_eq_within fuel]
    rfl

end Node

end Specimen
