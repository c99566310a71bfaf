import Mathlib
import TemplateMatch.Proofs.Walk.Reports

/-!
What the field mode decides. A lenient comparison finds the mismatches of a strict one without the
unexpected fields, and captures the same, as long as no candidate is turned down for unexpected
fields alone (`compareNode_lenient`): where one is, the lenient comparison takes it and goes on with
other captures and other fields, and need not pass (`not_passed_lenient`).
-/

namespace TemplateMatch

namespace Config

/-- The settings with fields that only the actual object has as mismatches. -/
def strict (c : Config) : Config := { c with fieldMode := .strict }

def lenient (c : Config) : Config := { c with fieldMode := .lenient }

end Config

namespace Walk

/-! ## Candidates that are turned down -/

/-- The reports of the candidates that are turned down until one passes, each after those that are
turned down within its value. -/
def turnedDown (compare : Scope → Json.Value → Result)
    (within : Scope → Json.Value → List (List Mismatch)) (scope : Scope) :
    List Candidate → List (List Mismatch)
  | [] => []
  | candidate :: cs =>
    let start := scope.bindAll candidate.captures
    within start candidate.value ++
      match compare start candidate.value with
      | .error _ => []
      | .ok ([], _) => []
      | .ok (ms, _) => ms :: turnedDown compare within scope cs

/-- The reports of the candidates that are turned down for one expected field. -/
def settleTurnedDown (c : Config) (path : Pointer) (key : String)
    (compare : Scope → Json.Value → Result) (within : Scope → Json.Value → List (List Mismatch))
    (slots : List Slot) (scope : Scope) : List (List Mismatch) :=
  match synthesize c path scope key with
  | .error _ => []
  | .ok template => turnedDown compare within scope (Candidate.list key template slots)

mutual

/-- The reports of all candidates that a comparison of two nodes turns down, at any depth. -/
def nodeTurnedDown (c : Config) (path : Pointer) (scope : Scope) :
    Json.Value → Json.Value → List (List Mismatch)
  | .object expected, .object actual =>
    fieldsTurnedDown c path (hasField actual) expected (Slot.ofFields actual) scope ++
      match compareFields c path (hasField actual) expected (Slot.ofFields actual) scope with
      | .error _ => []
      | .ok (_, slots, scope) =>
        fieldsTurnedDown c path (fun key => !hasField actual key) expected slots scope
  | .array expected, .array actual => itemsTurnedDown c path 0 scope expected actual
  | _, _ => []

def itemsTurnedDown (c : Config) (path : Pointer) (index : Nat) (scope : Scope) :
    List Json.Value → List Json.Value → List (List Mismatch)
  | e :: es, a :: as =>
    let at_ := path.child (.item index)
    nodeTurnedDown c at_ scope e a ++
      match compareNode c at_ scope e a with
      | .error _ => []
      | .ok (_, scope) => itemsTurnedDown c path (index + 1) scope es as
  | _, _ => []

def fieldsTurnedDown (c : Config) (path : Pointer) (wanted : String → Bool) :
    List (String × Json.Value) → List Slot → Scope → List (List Mismatch)
  | [], _, _ => []
  | (key, value) :: fields, slots, scope =>
    if wanted key then
      let at_ := path.child (.field key)
      settleTurnedDown c at_ key (compareField c path key value)
          (fun scope actual => nodeTurnedDown c at_ scope value actual) slots scope ++
        match settle c at_ key (compareField c path key value) slots scope with
        | .error _ => []
        | .ok outcome =>
          fieldsTurnedDown c path wanted fields (Slot.claim slots outcome.claimed) outcome.scope
    else fieldsTurnedDown c path wanted fields slots scope

end

end Walk

/-! ## Unexpected fields left out -/

namespace Mismatch

/-- It stands in lenient mode too. -/
def Stands (m : Mismatch) : Prop := m.kind ≠ .unexpectedField

instance (m : Mismatch) : Decidable m.Stands := inferInstanceAs (Decidable (m.kind ≠ _))

/-- A report without the unexpected fields. -/
def standing (ms : List Mismatch) : List Mismatch := ms.filter fun m => m.Stands

variable {ms : List Mismatch}

theorem standing_append (ms more : List Mismatch) :
    standing (ms ++ more) = standing ms ++ standing more := List.filter_append _ _

theorem standing_eq_self (h : ∀ m ∈ ms, m.Stands) : standing ms = ms := by
  rw [standing, List.filter_eq_self]
  exact fun m hm => decide_eq_true (h m hm)

theorem standing_ne_nil (h : ∃ m ∈ ms, m.Stands) : standing ms ≠ [] := by
  obtain ⟨m, hm, hstands⟩ := h
  exact List.ne_nil_of_mem (List.mem_filter.mpr ⟨hm, decide_eq_true hstands⟩)

theorem standing_unexpected (path : Pointer) (slots : List Slot) :
    standing (Walk.unexpected path slots) = [] := by
  rw [standing, List.filter_eq_nil_iff, Walk.unexpected]
  intro m hm hstands
  obtain ⟨slot, _, rfl⟩ := List.mem_map.mp hm
  exact of_decide_eq_true hstands rfl

/-- The reports of two passes, joined field by field. -/
theorem standing_flatten (named templated : List (List Mismatch)) :
    standing (List.zipWith (· ++ ·) named templated).flatten =
      (List.zipWith (· ++ ·) (named.map standing) (templated.map standing)).flatten := by
  induction named generalizing templated with
  | nil => rfl
  | cons ms named ih =>
    cases templated with
    | nil => rfl
    | cons more templated =>
      rw [List.map_cons, List.map_cons, List.zipWith_cons_cons, List.zipWith_cons_cons,
        List.flatten_cons, List.flatten_cons, standing_append, standing_append, ih]

end Mismatch

namespace Walk

open Mismatch

variable {c : Config} {path : Pointer} {scope out : Scope}

/-- Every candidate was turned down for a mismatch that stands in lenient mode. -/
def AllStand (reports : List (List Mismatch)) : Prop := ∀ ms ∈ reports, ∃ m ∈ ms, m.Stands

theorem AllStand.append {reports more : List (List Mismatch)} :
    AllStand (reports ++ more) ↔ AllStand reports ∧ AllStand more := List.forall_mem_append

/-! ## The lenient comparison -/

/-- An outcome in lenient mode. -/
def lenientOutcome (o : FieldOutcome) : FieldOutcome :=
  { o with mismatches := standing o.mismatches }

section

variable {compare compare' : Scope → Json.Value → Result}
  {within : Scope → Json.Value → List (List Mismatch)}

/-- The same candidate passes, or the same one is taken with its mismatches. -/
theorem choose_lenient
    (hcompare : ∀ s a ms out, compare s a = .ok (ms, out) → AllStand (within s a) →
      compare' s a = .ok (standing ms, out))
    {cs : List Candidate} {fallback outcome : Option FieldOutcome}
    (h : choose compare scope fallback cs = .ok outcome)
    (hstand : AllStand (turnedDown compare within scope cs)) :
    choose compare' scope (fallback.map lenientOutcome) cs = .ok (outcome.map lenientOutcome) := by
  induction cs generalizing fallback with
  | nil =>
    cases h
    rfl
  | cons candidate cs ih =>
    rw [turnedDown, AllStand.append] at hstand
    obtain ⟨hwithin, hreports⟩ := hstand
    rw [choose] at h
    cases hc : compare (scope.bindAll candidate.captures) candidate.value with
    | error e =>
      rw [hc] at h
      cases h
    | ok run =>
      obtain ⟨ms, out⟩ := run
      have hlenient := hcompare _ _ _ _ hc hwithin
      rw [hc] at h hreports
      rw [choose, hlenient]
      cases ms with
      | nil =>
        cases h
        rfl
      | cons m ms =>
        -- It is turned down in lenient mode too, for a mismatch that stands.
        obtain ⟨hreport, hrest⟩ := List.forall_mem_cons.mp hreports
        obtain ⟨m', ms', hms⟩ := List.exists_cons_of_ne_nil (standing_ne_nil hreport)
        have hnext := ih h hrest
        rw [hms]
        cases fallback with
        | none => simpa [lenientOutcome, hms] using hnext
        | some first => exact hnext

theorem settle_lenient {key : String}
    (hcompare : ∀ s a ms out, compare s a = .ok (ms, out) → AllStand (within s a) →
      compare' s a = .ok (standing ms, out))
    {slots : List Slot} {outcome : FieldOutcome}
    (h : settle c.strict path key compare slots scope = .ok outcome)
    (hstand : AllStand (settleTurnedDown c.strict path key compare within slots scope)) :
    settle c.lenient path key compare' slots scope = .ok (lenientOutcome outcome) := by
  rw [settle] at h ⊢
  rw [settleTurnedDown] at hstand
  rw [show synthesize c.lenient path scope key = synthesize c.strict path scope key from rfl]
  cases htemplate : synthesize c.strict path scope key with
  | error e =>
    rw [htemplate] at h
    cases h
  | ok template =>
    rw [htemplate] at h hstand
    simp only at h ⊢
    split at h
    · cases h
    · next hchoose =>
      cases h
      have hlenient := choose_lenient hcompare hchoose hstand
      rw [Option.map_none, Option.map_some] at hlenient
      rw [hlenient]
    · next hchoose =>
      cases h
      have hlenient := choose_lenient hcompare hchoose hstand
      rw [Option.map_none] at hlenient
      rw [hlenient]
      rfl

end

/-- A lenient comparison of two nodes follows the strict one. -/
def FollowsStrict (c : Config) (e a : Json.Value) : Prop :=
  ∀ path scope ms out,
    compareNode c.strict path scope e a = .ok (ms, out) →
    AllStand (nodeTurnedDown c.strict path scope e a) →
    compareNode c.lenient path scope e a = .ok (standing ms, out)

theorem compareFields_lenient {wanted : String → Bool} {fields : List (String × Json.Value)}
    (hfields : ∀ f ∈ fields, ∀ a, FollowsStrict c f.2 a) {slots slots' : List Slot}
    {reports : List (List Mismatch)}
    (h : compareFields c.strict path wanted fields slots scope = .ok (reports, slots', out))
    (hstand : AllStand (fieldsTurnedDown c.strict path wanted fields slots scope)) :
    compareFields c.lenient path wanted fields slots scope =
      .ok (reports.map standing, slots', out) := by
  induction fields generalizing slots scope reports with
  | nil =>
    cases h
    rfl
  | cons f fields ih =>
    obtain ⟨key, value⟩ := f
    rw [List.forall_mem_cons] at hfields
    rw [fieldsTurnedDown] at hstand
    cases hwanted : wanted key with
    | false =>
      rw [compareFields_skip hwanted] at h ⊢
      rw [if_neg (by simp [hwanted])] at hstand
      obtain ⟨⟨more, _, _⟩, hrest, hreports⟩ := map_eq_ok.mp h
      cases hreports
      rw [ih hfields.2 hrest hstand]
      rfl
    | true =>
      rw [if_pos hwanted, AllStand.append] at hstand
      obtain ⟨hfirst, hrest⟩ := hstand
      cases hsettle : settle c.strict (path.child (.field key)) key
        (compareField c.strict path key value) slots scope with
      | error e =>
        rw [compareFields_settle_error (f := (key, value)) hwanted hsettle] at h
        cases h
      | ok outcome =>
        have hcompare : ∀ s a ms out, compareField c.strict path key value s a = .ok (ms, out) →
            AllStand (nodeTurnedDown c.strict (path.child (.field key)) s value a) →
            compareField c.lenient path key value s a = .ok (standing ms, out) :=
          fun s a ms out => hfields.1 a _ s ms out
        have hlenient := settle_lenient hcompare hsettle hfirst
        rw [compareFields_settle (f := (key, value)) hwanted hsettle] at h
        rw [compareFields_settle (f := (key, value)) hwanted hlenient]
        rw [hsettle] at hrest
        obtain ⟨⟨more, _, _⟩, hmore, hreports⟩ := map_eq_ok.mp h
        cases hreports
        have hmore' := ih hfields.2 hmore hrest
        change compareFields c.lenient path wanted fields
          (Slot.claim slots (lenientOutcome outcome).claimed) (lenientOutcome outcome).scope = _
          at hmore'
        rw [hmore']
        rfl

theorem compareItems_lenient {index : Nat} {es as : List Json.Value}
    (hitems : ∀ e ∈ es, ∀ a, FollowsStrict c e a) {ms : List Mismatch}
    (h : compareItems c.strict path index scope es as = .ok (ms, out))
    (hstand : AllStand (itemsTurnedDown c.strict path index scope es as)) :
    compareItems c.lenient path index scope es as = .ok (standing ms, out) := by
  induction es generalizing index scope as ms with
  | nil =>
    cases h
    rfl
  | cons e es ih =>
    cases as with
    | nil =>
      cases h
      rfl
    | cons a as =>
      rw [List.forall_mem_cons] at hitems
      rw [compareItems] at h ⊢
      rw [itemsTurnedDown, AllStand.append] at hstand
      obtain ⟨hfirst, hrest⟩ := hstand
      split at h
      · cases h
      · next hitem =>
        rw [hitem] at hrest
        rw [hitems.1 a _ _ _ _ hitem hfirst]
        simp only
        split at h
        · cases h
        · next hmore =>
          cases h
          rw [ih hitems.2 hmore hrest, standing_append]

theorem compareArray_lenient {es as : List Json.Value}
    (hitems : ∀ e ∈ es, ∀ a, FollowsStrict c e a) : FollowsStrict c (.array es) (.array as) := by
  intro path scope ms out h hstand
  rw [compareNode] at h ⊢
  rw [nodeTurnedDown] at hstand
  split at h
  · cases h
  · next hcompare =>
    rw [compareItems_lenient hitems hcompare hstand]
    simp only
    split at h
    · next hlen =>
      cases h
      rw [if_pos hlen]
    · next hlen =>
      cases h
      rw [if_neg hlen]
      rfl

/-- Only here the two modes differ. -/
theorem compareObject_lenient {es as : List (String × Json.Value)}
    (hfields : ∀ f ∈ es, ∀ a, FollowsStrict c f.2 a) :
    FollowsStrict c (.object es) (.object as) := by
  intro path scope ms out h hstand
  rw [compareNode_passes] at h ⊢
  rw [nodeTurnedDown, AllStand.append] at hstand
  obtain ⟨hfirst, hlast⟩ := hstand
  split at h
  · cases h
  · next hnamed =>
    rw [hnamed] at hlast
    rw [compareFields_lenient hfields hnamed hfirst]
    simp only
    split at h
    · cases h
    · next htemplated =>
      cases h
      rw [compareFields_lenient hfields htemplated hlast]
      have hstrict : c.strict.fieldMode = .strict := rfl
      have hlenient : c.lenient.fieldMode ≠ .strict :=
        (by decide : FieldMode.lenient ≠ .strict)
      simp only
      rw [standing_append, standing_flatten, if_pos hstrict, if_neg hlenient, standing_unexpected]

/-- If a strict comparison turns no candidate down for unexpected fields alone, the lenient one
finds the same without the unexpected fields, and captures the same. -/
theorem compareNode_lenient (e a : Json.Value) : FollowsStrict c e a := by
  induction e, a using Json.Value.induction₂ with
  | leaf e a harrays hobjects =>
    intro path scope ms out h _
    rw [compareNode_of_leaf harrays hobjects] at h ⊢
    rw [standing_eq_self fun m hm => ((ownReport_of_compareLeaf h).at_node m hm).2.2]
    exact h
  | array es as ih => exact compareArray_lenient ih
  | object es as ih => exact compareObject_lenient ih

end Walk

/-- What passes in strict mode passes in lenient mode with the same captures, if every candidate
that is turned down in strict mode, at any depth, has a mismatch besides unexpected fields. -/
theorem passed_lenient {c : Config} {symbols captured : SymbolTable} {e a : Json.Value}
    (h : Comparison.ofJson c.strict symbols (.json e) (.json a) = .ok (.passed captured))
    (hstand : ∀ report ∈ Walk.nodeTurnedDown c.strict .root (.ofTable symbols) e a,
      ∃ m ∈ report, m.kind ≠ .unexpectedField) :
    Comparison.ofJson c.lenient symbols (.json e) (.json a) = .ok (.passed captured) := by
  obtain ⟨⟨ms, out⟩, hwalk, hfinish⟩ := map_eq_ok.mp h
  cases ms with
  | cons m ms => cases hfinish
  | nil =>
    cases hfinish
    change (Walk.compareNode c.lenient .root (.ofTable symbols) e a).map Walk.finish = _
    rw [Walk.compareNode_lenient e a _ _ _ _ hwalk hstand]
    rfl

theorem passed_lenient_swapped :
    Comparison.ofJson (Config.lenient ⟨.strict, false, .standard, .literal⟩) .empty
        (.json (.object [("~[a]", .object [("x", .null)]), ("~[b]", .object [("x", .bool true)])]))
        (.json (.object [("p", .object [("x", .bool true)]), ("q", .object [("x", .null)])])) =
      .ok (.passed (.ofPairs [("a", "q"), ("b", "p")])) := by
  refine passed_lenient (by cbv) ?_
  -- Only p is turned down: its field x for ~[a], and so p itself.
  have hreports : Walk.nodeTurnedDown (Config.strict ⟨.strict, false, .standard, .literal⟩) .root
      (.ofTable .empty)
      (.object [("~[a]", .object [("x", .null)]), ("~[b]", .object [("x", .bool true)])])
      (.object [("p", .object [("x", .bool true)]), ("q", .object [("x", .null)])]) =
      [[⟨[.field "~[a]", .field "x"], .type, "null", "boolean"⟩],
        [⟨[.field "~[a]", .field "x"], .type, "null", "boolean"⟩]] := by cbv
  rw [hreports]
  decide

/-- A field that strict mode turns down for its unexpected fields alone is taken in lenient mode,
and is missing for a later field then. -/
theorem not_passed_lenient :
    (∃ captured, Comparison.ofJson ⟨.strict, false, .standard, .literal⟩ .empty
        (.json (.object [("~[a]", .object [("x", .null)]),
          ("~[b]", .object [("x", .null), ("y", .null)])]))
        (.json (.object [("p", .object [("x", .null), ("y", .null)]),
          ("q", .object [("x", .null)])])) = .ok (.passed captured)) ∧
    Comparison.ofJson ⟨.lenient, false, .standard, .literal⟩ .empty
        (.json (.object [("~[a]", .object [("x", .null)]),
          ("~[b]", .object [("x", .null), ("y", .null)])]))
        (.json (.object [("p", .object [("x", .null), ("y", .null)]),
          ("q", .object [("x", .null)])])) =
      .ok (.failed [⟨[.field "~[b]", .field "y"], .missingField, "y", Mismatch.absent⟩]) :=
  ⟨⟨.ofPairs [("a", "q"), ("b", "p")], by cbv⟩, by cbv⟩

end TemplateMatch
