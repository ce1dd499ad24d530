import Specimen.Proofs.Generator.Requests
import Specimen.Proofs.Node.Comparing

/-!
# Requests to two memories

Whatever respects a relation of memories for each node respects it for a generator: requests go
through the roots and put together what nodes do.

* Looking through the roots respects every comparison of cells (`Generator.hasNextCase_respects`).
* Every request respects that memories are alike (`Request.perform_respects`), so a list of requests
  gets the same replies from both (`Memory.Like.replies_eq`).
-/

namespace Specimen

namespace Generator

variable {R : Memory → Memory → Prop} (h : Comparable R) (g : Generator)

/-! ### Looking through roots -/

include h in
theorem containedIds_respects (id : String) : Respects R (g.containedIds id) :=
  (Respects.find g.scope id).bind fun n => Node.containedIds_respects h g.scope g.fuel n

include h in
theorem countCases_respects : Respects R g.countCases := by
  have h_go : ∀ (ids : List String) most, Respects R (countCases.go g most ids) := by
    intro ids
    induction ids with
    | nil => exact fun most => .pure most
    | cons id ids ih =>
      intro most
      refine (Respects.find g.scope id).bind fun n => ?_
      exact (Node.countCases_respects h g.scope g.fuel n).bind fun _ => ih _
  exact h_go g.roots 0

include h in
theorem hasNextCase_respects : Respects R g.hasNextCase := by
  have h_go : ∀ ids : List String, Respects R (hasNextCase.go g ids) := by
    intro ids
    induction ids with
    | nil => exact .pure false
    | cons id ids ih =>
      refine (Respects.find g.scope id).bind fun n => ?_
      refine (Node.hasNextCase_respects h g.scope g.fuel n).bind fun found => ?_
      split
      · exact .pure true
      · exact ih
  exact h_go g.roots

/-! ### Requests -/

theorem value_respects (id : String) (c : FieldCase) : Respects Memory.Like (g.value id c) :=
  (Respects.find g.scope id).bind fun n => Node.value_respects g.scope g.fuel n c

/-- Where an override is set, nothing is left of the one before. -/
theorem setOverride_respects (id : String) (values : Option Override) :
    Respects Memory.Like (g.setOverride id values) := by
  refine (Respects.find g.scope id).bind fun n => .modify fun m m' h_m => ?_
  refine h_m.update_cell n.key ?_
  obtain ⟨used, h_eq, -⟩ := h_m.cell n.key
  rw [h_eq]
  exact .refl _

theorem applyFixed_respects (d : DataSet) : Respects Memory.Like (g.applyFixed d) := by
  have h_loop : ∀ ids : List String, Respects Memory.Like (forIn ids PUnit.unit fun id _ => do
      g.setOverride id ((d.fixed.get? id).map fun value _ => some value)
      Pure.pure (ForInStep.yield PUnit.unit)) := by
    intro ids
    induction ids with
    | nil => exact .pure _
    | cons id ids ih =>
      rw [List.forIn_cons]
      refine ((g.setOverride_respects id _).bind fun _ => .pure _).bind fun r => ?_
      cases r with
      | done _ => exact .pure _
      | yield _ => exact ih
  exact (h_loop g.graph.ids).bind fun _ => .pure _

theorem forRoots_respects {act : Node → Memory → Memory}
    (h_act : ∀ n m m', m.Like m' → (act n m).Like (act n m')) (ids : List String) :
    Respects Memory.Like (g.forRoots act ids) := by
  induction ids with
  | nil => exact .pure _
  | cons id ids ih =>
    exact (Respects.find g.scope id).bind fun n => (Respects.modify (h_act n)).bind fun _ => ih

theorem like_updateAll {change : Cell → Cell} (h_change : Cell.Blind change) (keys : List Nat)
    {m m' : Memory} (h : m.Like m') :
    (m.updateAll change keys).Like (m'.updateAll change keys) := by
  induction keys generalizing m m' with
  | nil => exact h
  | cons key keys ih => exact ih (h.update key h_change)

theorem resetValues_respects : Respects Memory.Like g.resetValues := by
  have h_blind : Cell.Blind Cell.forgetValue := fun _ _ => ⟨rfl, rfl⟩
  exact g.forRoots_respects (fun n _ _ => like_updateAll h_blind n.keys) g.roots

theorem resetCases_respects : Respects Memory.Like g.resetCases := by
  have h_blind : Cell.Blind Cell.forgetCases := fun _ _ => ⟨rfl, rfl⟩
  exact g.forRoots_respects (fun n _ _ => like_updateAll h_blind n.keys) g.roots

theorem beginPass_respects : Respects Memory.Like g.beginPass := by
  have h_begin : g.beginPass = (do
      let number ← (fun m : Memory => (.ok (m.passes + 1), { m with passes := m.passes + 1 }) :
        Eval Nat)
      g.resetValues
      return number) := rfl
  rw [h_begin]
  refine Respects.bind (fun m m' h_m => ?_) fun _ => g.resetValues_respects.bind fun _ => .pure _
  have h_number : m'.passes + 1 = m.passes + 1 := congrArg (· + 1) h_m.passes
  exact ⟨congrArg Except.ok h_number, h_m.cell, h_m.tokens, h_m.draws, h_number, h_m.log⟩

theorem fill_respects (c : FieldCase) (number : Nat) (ids : List String) (d : DataSet) :
    Respects Memory.Like (g.fill c number ids d) := by
  induction ids generalizing d with
  | nil => exact .pure d
  | cons id ids ih =>
    rw [fill]
    exact (g.value_respects id c).bind fun _ => ih _

theorem generate_respects (c : FieldCase) : Respects Memory.Like (g.generate c) := by
  refine g.beginPass_respects.bind fun number => ?_
  exact (g.fill_respects c number g.roots .empty).bind fun _ =>
    (respects_log _).bind fun _ => .pure _

theorem goOn_respects (limit allowed : Nat) (done : List DataSet) :
    Respects Memory.Like (g.goOn limit allowed done) := by
  induction allowed generalizing done with
  | zero =>
    rw [goOn.eq_def]
    refine (hasNextCase_respects Memory.Like.comparable g).bind fun more => ?_
    split
    · exact (respects_log _).bind fun _ => .pure _
    · exact .pure _
  | succ allowed ih =>
    rw [goOn.eq_def]
    refine (hasNextCase_respects Memory.Like.comparable g).bind fun more => ?_
    split
    · exact (g.generate_respects .normal).bind fun _ => ih _
    · exact .pure _

theorem enumerate_respects (limit : Nat) : Respects Memory.Like (g.enumerate limit) :=
  g.resetCases_respects.bind fun _ => g.goOn_respects limit limit []

end Generator

/-- **Every request** gets the same reply from memories that are alike, and leaves them alike. -/
theorem Request.perform_respects (g : Generator) (r : Request) :
    Respects Memory.Like (r.perform g) := by
  cases r with
  | value id c => exact (g.value_respects id c).map
  | generate c => exact (g.generate_respects c).map
  | enumerate limit => exact (g.enumerate_respects limit).map
  | countCases => exact (Generator.countCases_respects Memory.Like.comparable g).map
  | hasNextCase => exact (Generator.hasNextCase_respects Memory.Like.comparable g).map
  | containedIds id => exact (Generator.containedIds_respects Memory.Like.comparable g id).map
  | setOverride id values => exact (g.setOverride_respects id values).map
  | applyFixed d => exact (g.applyFixed_respects d).map
  | resetValues => exact g.resetValues_respects.map
  | resetCases => exact g.resetCases_respects.map
  | takeToken => exact respects_takeToken.map

/-! ### Many requests -/

/-- What requests get, one after the other, and what they leave. The nodes may have changed in
between, so each comes with the generator it is made to. -/
def performAll : List (Generator × Request) → Memory → List (Except Failure Reply) × Memory
  | [], m => ([], m)
  | (g, r) :: later, m =>
    let after := performAll later (r.perform g m).2
    ((r.perform g m).1 :: after.1, after.2)

/-- Requests get the same replies from memories that are alike, and leave them alike. -/
theorem Memory.Like.performAll {m m' : Memory} (h : m.Like m') (rs : List (Generator × Request)) :
    (performAll rs m').1 = (performAll rs m).1 ∧ (performAll rs m).2.Like (performAll rs m').2 := by
  induction rs generalizing m m' with
  | nil => exact ⟨rfl, h⟩
  | cons r rs ih =>
    obtain ⟨g, r⟩ := r
    obtain ⟨h_reply, h_after⟩ := r.perform_respects g m m' h
    obtain ⟨h_replies, h_last⟩ := ih h_after
    exact ⟨List.cons_eq_cons.2 ⟨h_reply, h_replies⟩, h_last⟩

end Specimen
