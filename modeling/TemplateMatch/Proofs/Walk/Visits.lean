import TemplateMatch.Proofs.Walk.Nodes

/-!
What a comparison that passes has looked at. Every part of the expected tree was compared with some
node of the actual one and passed, and what was captured there is still bound at the end
(`exists_passed_part`). A string that passed has matched the text of a scalar (`exists_matched`).
-/

namespace TemplateMatch

namespace Walk

variable {c : Config} {path : Pointer} {scope out : Scope}

/-- In a pass over items, each one that has a counterpart was compared with it. -/
theorem ItemsRun.passed_at {index : Nat} {es as : List Json.Value} {ms : List Mismatch}
    (h : ItemsRun c path index scope es as ms out) (hpassed : ms = []) {i : Nat}
    {e a : Json.Value} (he : es[i]? = some e) (ha : as[i]? = some a) :
    ∃ place before after, compareNode c place before e a = .ok ([], after) ∧
      after.Extends out := by
  induction h generalizing i with
  | stop hstop =>
    rcases hstop with rfl | rfl
    · cases he
    · cases ha
  | item hitem hrest ih =>
    obtain ⟨rfl, rfl⟩ := List.append_eq_nil_iff.mp hpassed
    cases i with
    | zero =>
      cases he
      cases ha
      exact ⟨_, _, _, hitem, hrest.grows⟩
    | succ i => exact ih rfl he ha

/-- An array that passed was compared with one of as many items, item by item. -/
theorem passed_items {es : List Json.Value} {a : Json.Value}
    (h : compareNode c path scope (.array es) a = .ok ([], out)) :
    ∃ as, a = .array as ∧ ∀ (i : Nat) (e : Json.Value), es[i]? = some e →
      ∃ x place before after, as[i]? = some x ∧ compareNode c place before e x = .ok ([], after) ∧
        after.Extends out := by
  obtain ⟨ms, hms, hrun⟩ : ∃ ms, ms = [] ∧ NodeRun c path scope (.array es) a ms out :=
    ⟨[], rfl, nodeRun_of_compareNode h⟩
  cases hrun with
  | leaf hleaf =>
    subst hms
    cases hleaf
  | @array _ as ms out hrun =>
    split at hms
    · next hlen =>
      refine ⟨as, rfl, fun i e he => ?_⟩
      have hi : i < as.length := hlen ▸ (List.getElem?_eq_some_iff.mp he).1
      have ha : as[i]? = some as[i] := List.getElem?_eq_getElem hi
      obtain ⟨place, before, after, hcompare, hafter⟩ := hrun.passed_at hms he ha
      exact ⟨as[i], place, before, after, ha, hcompare, hafter⟩
    · cases hms

/-- A field with a fitting name answers an expected one: their values were compared and passed. -/
def Answered (c : Config) (path : Pointer) (actual : List (String × Json.Value)) (out : Scope)
    (key : String) (value : Json.Value) : Prop :=
  ∃ slots before template candidate after, Slot.fields slots = actual ∧
    synthesize c path before key = .ok template ∧ Candidate.Fits key template slots candidate ∧
    compareNode c path (before.bindAll candidate.captures) value candidate.value =
      .ok ([], after) ∧ after.Extends out

theorem Answered.extend {actual : List (String × Json.Value)} {key : String} {value : Json.Value}
    {out' : Scope} (h : Answered c path actual out key value) (hout : out.Extends out') :
    Answered c path actual out' key value := by
  obtain ⟨slots, before, template, candidate, after, hslots, hs, hfits, hcompare, hafter⟩ := h
  exact ⟨slots, before, template, candidate, after, hslots, hs, hfits, hcompare, hafter.trans hout⟩

theorem FieldsRun.answered {wanted : String → Bool} {fields : List (String × Json.Value)}
    {slots slots' : List Slot} {claims : List (Option Nat)} {more : List (List Mismatch)}
    (h : FieldsRun c path wanted fields slots scope claims more slots' out)
    (hpassed : ∀ ms ∈ more, ms = []) {key : String} {value : Json.Value}
    (hmem : (key, value) ∈ fields) (hwanted : wanted key = true) :
    Answered c (path.child (.field key)) (Slot.fields slots) out key value := by
  obtain ⟨i, hi⟩ := List.mem_iff_getElem?.mp hmem
  obtain ⟨slots₁, before, outcome, hsettled, hfields, _, hafter, _, hms⟩ := h.settled_at hi hwanted
  obtain ⟨template, candidate, hs, hfits, _, hcompare⟩ :=
    hsettled.passed (hpassed _ (List.mem_of_getElem? hms))
  exact ⟨slots₁, before, template, candidate, outcome.scope, hfields, hs, hfits, hcompare, hafter⟩

/-- An object that passed was compared with one that answers all its fields. -/
theorem passed_fields {es : List (String × Json.Value)} {a : Json.Value}
    (h : compareNode c path scope (.object es) a = .ok ([], out)) :
    ∃ as, a = .object as ∧ ∀ key value, (key, value) ∈ es →
      Answered c (path.child (.field key)) as out key value := by
  obtain ⟨ms, hms, hrun⟩ : ∃ ms, ms = [] ∧ NodeRun c path scope (.object es) a ms out :=
    ⟨[], rfl, nodeRun_of_compareNode h⟩
  cases hrun with
  | leaf hleaf =>
    subst hms
    cases hleaf
  | @object _ as _ _ named templated slots slots' mid out hnamed htemplated =>
    obtain ⟨hpassed, _⟩ := List.append_eq_nil_iff.mp hms
    obtain ⟨hnamedPassed, htemplatedPassed⟩ := passed_of_flatten_eq_nil hnamed htemplated hpassed
    refine ⟨as, rfl, fun key value hmem => ?_⟩
    -- A field is settled by the pass that wants it.
    by_cases hname : hasField as key = true
    · have hanswered := hnamed.answered hnamedPassed hmem hname
      rw [Slot.fields_ofFields] at hanswered
      exact hanswered.extend htemplated.grows
    · have hanswered := htemplated.answered htemplatedPassed hmem (by simpa using hname)
      rwa [hnamed.fields_eq_start] at hanswered

/-- Every part of a tree that passed was compared with some node, and passed. -/
theorem exists_passed_part {e a v : Json.Value}
    (h : compareNode c path scope e a = .ok ([], out)) (hpart : Json.Value.Part v e) :
    ∃ place before x after, compareNode c place before v x = .ok ([], after) ∧
      after.Extends out := by
  induction hpart generalizing path scope a out with
  | self => exact ⟨path, scope, a, out, h, .refl out⟩
  | item hmem _ ih =>
    obtain ⟨as, rfl, hitems⟩ := passed_items h
    obtain ⟨i, hi⟩ := List.mem_iff_getElem?.mp hmem
    obtain ⟨x, place, before, after, _, hcompare, hafter⟩ := hitems i _ hi
    obtain ⟨place', before', x', after', hcompare', hafter'⟩ := ih hcompare
    exact ⟨place', before', x', after', hcompare', hafter'.trans hafter⟩
  | field hmem _ ih =>
    obtain ⟨as, rfl, hfields⟩ := passed_fields h
    obtain ⟨_, before, template, candidate, after, _, _, _, hcompare, hafter⟩ := hfields _ _ hmem
    obtain ⟨place', before', x', after', hcompare', hafter'⟩ := ih hcompare
    exact ⟨place', before', x', after', hcompare', hafter'.trans hafter⟩

/-- A string that passed has matched the text of a scalar. -/
theorem exists_matched {template : String} {a : Json.Value}
    (h : compareNode c path scope (.string template) a = .ok ([], out)) :
    ∃ text s captures, a.scalarText? = some text ∧ synthesize c path scope template = .ok s ∧
      s.captures text = some captures ∧ out = scope.bindAll captures := by
  have hleaf : compareLeaf c path scope (.string template) a = .ok ([], out) := h
  cases htext : a.scalarText? with
  | none =>
    simp only [compareLeaf, htext] at hleaf
    cases hleaf
  | some text =>
    simp only [compareLeaf, htext] at hleaf
    generalize hms : ([] : List Mismatch) = ms at hleaf
    cases textRun_of_compareText hleaf with
    | differs => cases hms
    | matched hs hc => exact ⟨text, _, _, rfl, hs, hc, rfl⟩

end Walk

end TemplateMatch
