import TemplateMatch.Proofs.Json.Places
import TemplateMatch.Proofs.Walk.Nodes

/-!
What a comparison can fail on. A walk stops only at a template that cannot be read: the text of the
node, the key of a field, or one further down (`Walk.nodeError_of_compareNode`). Before it, a
document that is no JSON stops the comparison (`Comparison.error_of_ofDocuments`). Differences are
never an error here.
-/

namespace TemplateMatch

namespace CompareError

/-- The error is that of a template, at some path. -/
def OfTemplate (e : CompareError) : Prop :=
  ∃ path cause, e = .pattern path cause

end CompareError

namespace Walk

variable {c : Config} {path : Pointer} {scope : Scope} {err : CompareError}

/-- Where a comparison with an expected node fails, under a scope that may have grown. -/
inductive NodeError (c : Config) (path : Pointer) (scope : Scope) (e : Json.Value)
    (err : CompareError) : Prop
  | text {template : String} {later : Scope} :
    e = .string template → scope.Extends later → synthesize c path later template = .error err →
      NodeError c path scope e err
  | key {key : String} {value : Json.Value} {later : Scope} :
    (.field key, value) ∈ e.children → scope.Extends later →
      synthesize c (path.child (.field key)) later key = .error err →
      NodeError c path scope e err
  | child {x : Step × Json.Value} {a : Json.Value} {later : Scope} :
    x ∈ e.children → scope.Extends later →
      compareNode c (path.child x.1) later x.2 a = .error err → NodeError c path scope e err

theorem error_of_synthesize {template : String}
    (h : synthesize c path scope template = .error err) :
    ∃ cause, err = .pattern path cause ∧
      Synthesis.ofTemplate c.templateOptions scope.bindings template = .error cause := by
  rw [synthesize] at h
  cases hs : Synthesis.ofTemplate c.templateOptions scope.bindings template with
  | ok s => rw [hs] at h; cases h
  | error cause =>
    rw [hs] at h
    cases h
    exact ⟨cause, rfl, rfl⟩

theorem error_of_compareText {template actual : String}
    (h : compareText c path scope template actual = .error err) :
    synthesize c path scope template = .error err := by
  rw [compareText] at h
  split at h
  · next hs =>
    cases h
    exact hs
  · split at h <;> cases h

theorem error_of_compareLeaf {e a : Json.Value} (h : compareLeaf c path scope e a = .error err) :
    ∃ template, e = .string template ∧ synthesize c path scope template = .error err := by
  unfold compareLeaf at h
  split at h
  · cases h
  · split at h
    · exact ⟨_, rfl, error_of_compareText h⟩
    · cases h
  · split at h <;> cases h
  · split at h <;> cases h
  · cases h

theorem error_of_choose {compare : Scope → Json.Value → Result} {fallback : Option FieldOutcome}
    {cs : List Candidate} (h : choose compare scope fallback cs = .error err) :
    ∃ candidate ∈ cs,
      compare (scope.bindAll candidate.captures) candidate.value = .error err := by
  induction cs generalizing fallback with
  | nil => cases h
  | cons candidate cs ih =>
    rw [choose] at h
    split at h
    · next hc =>
      cases h
      exact ⟨candidate, List.mem_cons_self, hc⟩
    · cases h
    · obtain ⟨later, hlater, hc⟩ := ih h
      exact ⟨later, List.mem_cons_of_mem _ hlater, hc⟩

theorem error_of_settle {key : String} {compare : Scope → Json.Value → Result} {slots : List Slot}
    (h : settle c path key compare slots scope = .error err) :
    synthesize c path scope key = .error err ∨
      ∃ later a, scope.Extends later ∧ compare later a = .error err := by
  rw [settle] at h
  split at h
  · next hs =>
    cases h
    exact .inl hs
  · next hs =>
    split at h
    · next hchoose =>
      cases h
      obtain ⟨candidate, hmem, hc⟩ := error_of_choose hchoose
      exact .inr ⟨_, _, (Candidate.fits_of_mem_list hmem).grows hs, hc⟩
    · cases h
    · cases h

theorem error_of_compareItems {index : Nat} {es as : List Json.Value}
    (h : compareItems c path index scope es as = .error err) :
    ∃ x ∈ es.zipIdx index, ∃ later a, scope.Extends later ∧
      compareNode c (path.child (.item x.2)) later x.1 a = .error err := by
  induction es generalizing index scope as with
  | nil => cases h
  | cons e es ih =>
    cases as with
    | nil => cases h
    | cons a as =>
      rw [compareItems] at h
      split at h
      · next hitem =>
        cases h
        exact ⟨(e, index), List.mem_cons_self, scope, a, .refl scope, hitem⟩
      · next mid hitem =>
        split at h
        · next hrest =>
          cases h
          obtain ⟨x, hx, later, a, hlater, hc⟩ := ih hrest
          exact ⟨x, List.mem_cons_of_mem _ hx, later, a,
            (extends_of_compareNode hitem).trans hlater, hc⟩
        · cases h

theorem error_of_compareFields {wanted : String → Bool} {fields : List (String × Json.Value)}
    {slots : List Slot} (h : compareFields c path wanted fields slots scope = .error err) :
    ∃ f ∈ fields, ∃ later slots', scope.Extends later ∧
      settle c (path.child (.field f.1)) f.1 (compareField c path f.1 f.2) slots' later =
        .error err := by
  induction fields generalizing slots scope with
  | nil => cases h
  | cons field fields ih =>
    cases hwanted : wanted field.1 with
    | false =>
      rw [compareFields_skip hwanted] at h
      cases hrest : compareFields c path wanted fields slots scope with
      | ok r => rw [hrest] at h; cases h
      | error cause =>
        rw [hrest] at h
        cases h
        obtain ⟨f, hf, hfails⟩ := ih hrest
        exact ⟨f, List.mem_cons_of_mem _ hf, hfails⟩
    | true =>
      cases hsettle : settle c (path.child (.field field.1)) field.1
          (compareField c path field.1 field.2) slots scope with
      | error cause =>
        rw [compareFields_settle_error hwanted hsettle] at h
        cases h
        exact ⟨field, List.mem_cons_self, scope, slots, .refl scope, hsettle⟩
      | ok outcome =>
        rw [compareFields_settle hwanted hsettle] at h
        cases hrest : compareFields c path wanted fields (Slot.claim slots outcome.claimed)
            outcome.scope with
        | ok r => rw [hrest] at h; cases h
        | error cause =>
          rw [hrest] at h
          cases h
          obtain ⟨f, hf, later, slots', hlater, hfails⟩ := ih hrest
          have hgrown : scope.Extends outcome.scope :=
            (Settled.of_settle hsettle).grows fun _ _ _ _ => extends_of_compareNode
          exact ⟨f, List.mem_cons_of_mem _ hf, later, slots', hgrown.trans hlater, hfails⟩

theorem nodeError_of_compareFields {wanted : String → Bool} {es : List (String × Json.Value)}
    {slots : List Slot} (h : compareFields c path wanted es slots scope = .error err) :
    NodeError c path scope (.object es) err := by
  obtain ⟨f, hf, later, slots', hlater, hfails⟩ := error_of_compareFields h
  have hmem : (Step.field f.1, f.2) ∈ (Json.Value.object es).children :=
    List.mem_map.mpr ⟨f, hf, rfl⟩
  rcases error_of_settle hfails with hkey | ⟨last, a, hlast, hvalue⟩
  · exact .key hmem hlater hkey
  · exact .child hmem (hlater.trans hlast) hvalue

theorem NodeError.of_extends {e : Json.Value} {later : Scope} (h : NodeError c path later e err)
    (hlater : scope.Extends later) : NodeError c path scope e err := by
  cases h with
  | text he hlast htext => exact .text he (hlater.trans hlast) htext
  | key hmem hlast hkey => exact .key hmem (hlater.trans hlast) hkey
  | child hmem hlast hvalue => exact .child hmem (hlater.trans hlast) hvalue

/-- A walk fails only on a template. -/
theorem nodeError_of_compareNode {e a : Json.Value}
    (h : compareNode c path scope e a = .error err) : NodeError c path scope e err := by
  have hnode := h
  unfold compareNode at h
  split at h
  · -- Either pass over the fields may meet the template.
    rw [compareNode_passes] at hnode
    split at hnode
    · next hnamed =>
      cases hnode
      exact nodeError_of_compareFields hnamed
    · next named slots mid hnamed =>
      split at hnode
      · next htemplated =>
        cases hnode
        obtain ⟨claims, hrun⟩ := exists_fieldsRun hnamed
        exact (nodeError_of_compareFields htemplated).of_extends hrun.grows
      · cases hnode
  · split at h
    · next hitems =>
      cases h
      obtain ⟨x, hx, later, a, hlater, hitem⟩ := error_of_compareItems hitems
      exact .child (x := (.item x.2, x.1)) (List.mem_map.mpr ⟨x, hx, rfl⟩) hlater hitem
    · split at h <;> cases h
  · obtain ⟨template, he, hs⟩ := error_of_compareLeaf h
    exact .text he (.refl scope) hs

theorem error_of_compareNode {e a : Json.Value} (h : compareNode c path scope e a = .error err) :
    err.OfTemplate := by
  induction e using Json.Value.induction_children generalizing path scope a with
  | h e ih =>
    cases nodeError_of_compareNode h with
    | text _ _ hs =>
      obtain ⟨cause, rfl, _⟩ := error_of_synthesize hs
      exact ⟨_, cause, rfl⟩
    | key _ _ hs =>
      obtain ⟨cause, rfl, _⟩ := error_of_synthesize hs
      exact ⟨_, cause, rfl⟩
    | child hx _ hchild => exact ih _ hx hchild

end Walk

namespace Comparison

/-- A comparison that cannot be carried out fails on the text of a document or on a template. -/
theorem error_of_ofDocuments {c : Config} {symbols : SymbolTable} {type : ContentType}
    {expected actual : Document} {err : CompareError}
    (h : ofDocuments c symbols type expected actual = .error err) :
    (∃ side cause, err = .malformed side cause) ∨ err.OfTemplate := by
  cases type with
  | text =>
    change (Walk.compareText c .root (.ofTable symbols) expected.wholeText
      actual.wholeText).map Walk.finish = .error err at h
    cases hrun : Walk.compareText c .root (.ofTable symbols) expected.wholeText
        actual.wholeText with
    | ok run => rw [hrun] at h; cases h
    | error cause =>
      rw [hrun] at h
      cases h
      obtain ⟨cause, rfl, _⟩ := Walk.error_of_synthesize (Walk.error_of_compareText hrun)
      exact .inr ⟨_, cause, rfl⟩
  | json =>
    change ofJson c symbols expected actual = .error err at h
    rw [ofJson] at h
    split at h
    · cases h
      exact .inl ⟨_, _, rfl⟩
    · next e _ =>
      split at h
      · cases h
        exact .inl ⟨_, _, rfl⟩
      · next a _ =>
        cases hrun : Walk.compareNode c .root (.ofTable symbols) e a with
        | ok run => rw [hrun] at h; cases h
        | error cause =>
          rw [hrun] at h
          cases h
          exact .inr (Walk.error_of_compareNode hrun)

end Comparison

end TemplateMatch
