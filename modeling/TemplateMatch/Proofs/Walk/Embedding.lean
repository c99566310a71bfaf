import Mathlib
import TemplateMatch.Proofs.Walk.Nodes

/-!
What a passing comparison means. `Embeds` is the relation between the two trees, without scopes,
slots or an order in which fields are settled; every template in it is read under some environment
between the symbols at the start and those at the end. A comparison that passes embeds the expected
tree in the actual one (`embeds_of_passed`).
-/

namespace TemplateMatch

/-- A template is satisfied by a text under an environment. -/
def Accepts (c : Config) (env : Bindings) (template text : String) : Prop :=
  ∃ s, Synthesis.ofTemplate c.templateOptions env template = .ok s ∧ s.isMatch text = true

/-- A tree lies in another one, each template read under one of the allowed environments. -/
inductive Embeds (c : Config) (allowed : Bindings → Prop) : Json.Value → Json.Value → Prop
  | null : Embeds c allowed .null .null
  | bool (b : Bool) : Embeds c allowed (.bool b) (.bool b)
  | number {m n : Json.Number} : m.eqv n = true → Embeds c allowed (.number m) (.number n)
  | string {template text : String} {actual : Json.Value} {env : Bindings} :
    actual.scalarText? = some text → allowed env → Accepts c env template text →
      Embeds c allowed (.string template) actual
  | array {es as : List Json.Value} :
    es.length = as.length →
      (∀ (i : Nat) (e a : Json.Value), es[i]? = some e → as[i]? = some a → Embeds c allowed e a) →
      Embeds c allowed (.array es) (.array as)
  /-- Each field has one of its own in the actual object, and in strict mode none is left there. -/
  | object {es as : List (String × Json.Value)} (assign : Fin es.length → Fin as.length) :
    Function.Injective assign →
      (∀ i, as[assign i].1 = es[i].1 ∨ ∃ env, allowed env ∧ Accepts c env es[i].1 as[assign i].1) →
      (∀ i, Embeds c allowed es[i].2 as[assign i].2) →
      (c.fieldMode = .strict → Function.Surjective assign) →
      Embeds c allowed (.object es) (.object as)

/-- An environment that has all symbols of a table, and otherwise only what was captured. -/
def Between (symbols captured : SymbolTable) (env : Bindings) : Prop :=
  (∀ name value, symbols.get? name = some value → env name = some value) ∧
    ∀ name value, env name = some value →
      symbols.get? name = some value ∨ captured.get? name = some value

namespace Walk

variable {c : Config} {path : Pointer}

theorem accepts_of_captures {scope : Scope} {template text : String} {s : Synthesis}
    {captures : List (String × String)} (hs : synthesize c path scope template = .ok s)
    (hc : s.captures text = some captures) : Accepts c scope.bindings template text := by
  refine ⟨s, synthesize_eq_ok hs, ?_⟩
  rw [Synthesis.isMatch_eq_isSome_captures, hc]
  rfl

variable {allowed : Bindings → Prop} {start finish : Scope}

/-- An expected value is embedded wherever a comparison on the way between two scopes passes. -/
def EmbedsIfPassed (c : Config) (allowed : Bindings → Prop) (start finish : Scope)
    (e : Json.Value) : Prop :=
  ∀ path scope a out, compareNode c path scope e a = .ok ([], out) → start.Extends scope →
    out.Extends finish → Embeds c allowed e a

theorem embeds_of_compareLeaf {scope out : Scope} {e a : Json.Value}
    (hallowed : ∀ s, start.Extends s → s.Extends finish → allowed s.bindings)
    (h : compareLeaf c path scope e a = .ok ([], out)) (hstart : start.Extends scope)
    (hfinish : out.Extends finish) : Embeds c allowed e a := by
  have hgrown := kept_of_compareLeaf (extends_keptByCaptures c) (fun _ _ => trivial) h
  unfold compareLeaf at h
  split at h
  · exact .null
  · split at h
    · next text htext =>
      generalize hms : ([] : List Mismatch) = ms at h
      cases textRun_of_compareText h with
      | matched hs hc =>
        -- The template was read under the scope before its own captures.
        exact .string htext (hallowed scope hstart (hgrown.trans hfinish))
          (accepts_of_captures hs hc)
      | differs => cases hms
    · cases h
  · next m n =>
    split at h
    · next heqv => exact .number heqv
    · cases h
  · next b b' =>
    split at h
    · next heq =>
      subst heq
      exact .bool b
    · cases h
  · cases h

theorem embeds_of_itemsRun {index : Nat} {scope out : Scope} {es as : List Json.Value}
    {ms : List Mismatch} (h : ItemsRun c path index scope es as ms out) (hpassed : ms = [])
    (hstart : start.Extends scope) (hfinish : out.Extends finish)
    (hitems : ∀ e ∈ es, EmbedsIfPassed c allowed start finish e) :
    ∀ (i : Nat) (e a : Json.Value), es[i]? = some e → as[i]? = some a →
      Embeds c allowed e a := by
  induction h with
  | stop hstop =>
    -- One of the arrays has no items left, so there is no further pair.
    intro i e a he ha
    rcases hstop with rfl | rfl
    · cases he
    · cases ha
  | item hitem hrest ih =>
    obtain ⟨rfl, rfl⟩ := List.append_eq_nil_iff.mp hpassed
    have hgrown := hrest.grows
    intro i e a he ha
    cases i with
    | zero =>
      cases he
      cases ha
      exact hitems _ List.mem_cons_self _ _ _ _ hitem hstart (hgrown.trans hfinish)
    | succ i =>
      exact ih rfl (hstart.trans (extends_of_compareNode hitem)) hfinish
        (fun e he => hitems e (List.mem_cons_of_mem _ he)) i e a he ha

/-- A field of a pass without mismatches claims one with a fitting name and value. -/
theorem embeds_of_fieldsRun {wanted : String → Bool} {fields : List (String × Json.Value)}
    {slots slots' : List Slot} {scope scope' : Scope} {claims : List (Option Nat)}
    {more : List (List Mismatch)}
    (hallowed : ∀ s, start.Extends s → s.Extends finish → allowed s.bindings)
    (h : FieldsRun c path wanted fields slots scope claims more slots' scope')
    (hpassed : ∀ ms ∈ more, ms = []) (hstart : start.Extends scope)
    (hfinish : scope'.Extends finish)
    (hfields : ∀ f ∈ fields, EmbedsIfPassed c allowed start finish f.2)
    {i : Nat} {key : String} {value : Json.Value} (hi : fields[i]? = some (key, value))
    (hwanted : wanted key = true) :
    ∃ j name actual, claims[i]? = some (some j) ∧ (Slot.fields slots)[j]? = some (name, actual) ∧
      (name = key ∨ ∃ env, allowed env ∧ Accepts c env key name) ∧
      Embeds c allowed value actual := by
  obtain ⟨slots₁, scope₁, outcome, hsettled, hslots, hbefore, hafter, hclaim, hms⟩ :=
    h.settled_at hi hwanted
  obtain ⟨template, candidate, htemplate, hfits, hclaimed, hcompare⟩ :=
    hsettled.passed (hpassed _ (List.mem_of_getElem? hms))
  have hstart₁ : start.Extends scope₁ := hstart.trans hbefore
  -- The candidate is compared in a scope of its own, between those before and after.
  have htried : scope₁.Extends (scope₁.bindAll candidate.captures) := hfits.grows htemplate
  have hfinish₁ : outcome.scope.Extends finish := hafter.trans hfinish
  have hgrown : (scope₁.bindAll candidate.captures).Extends outcome.scope :=
    extends_of_compareNode hcompare
  obtain ⟨slot, hslot, _, hvalue, hname⟩ := hfits
  refine ⟨candidate.index, slot.name, slot.value, by rw [hclaim, hclaimed], ?_, ?_, ?_⟩
  · rw [← hslots, Slot.fields, List.getElem?_map, hslot]
    rfl
  · refine hname.imp (fun h => h.1) fun hcaptures => ?_
    exact ⟨scope₁.bindings, hallowed scope₁ hstart₁ (htried.trans (hgrown.trans hfinish₁)),
      accepts_of_captures htemplate hcaptures⟩
  · rw [hvalue]
    exact hfields _ (List.mem_of_getElem? hi) _ _ _ _ hcompare (hstart₁.trans htried) hfinish₁

/-- The two passes over an object give its fields slots of their own. -/
theorem embeds_of_objectRun {es as : List (String × Json.Value)} {scope mid out : Scope}
    {claims claims' : List (Option Nat)} {named templated : List (List Mismatch)}
    {slots slots' : List Slot}
    (hallowed : ∀ s, start.Extends s → s.Extends finish → allowed s.bindings)
    (hnamed : FieldsRun c path (hasField as) es (Slot.ofFields as) scope claims named slots mid)
    (htemplated : FieldsRun c path (fun key => !hasField as key) es slots mid claims' templated
      slots' out)
    (hpassed : ∀ ms ∈ named, ms = []) (hpassed' : ∀ ms ∈ templated, ms = [])
    (hextra : c.fieldMode = .strict → unexpected path slots' = [])
    (hstart : start.Extends scope) (hfinish : out.Extends finish)
    (hfields : ∀ f ∈ es, EmbedsIfPassed c allowed start finish f.2) :
    Embeds c allowed (.object es) (.object as) := by
  have hgrown : scope.Extends mid := hnamed.grows
  have hgrown' : mid.Extends out := htemplated.grows
  have hslots : Slot.fields slots = as := hnamed.fields_eq_start
  -- A field is answered in the pass that wants it, under the scopes of that pass.
  have hfield (i : Fin es.length) : ∃ j : Fin as.length, ClaimsAt claims claims' i j ∧
      (as[j].1 = es[i].1 ∨ ∃ env, allowed env ∧ Accepts c env es[i].1 as[j].1) ∧
      Embeds c allowed es[i].2 as[j].2 := by
    have hi : es[i.1]? = some (es[i].1, es[i].2) := List.getElem?_eq_getElem i.2
    by_cases hname : hasField as es[i].1 = true
    · obtain ⟨j, name, actual, hclaim, hj, hfits, hvalue⟩ := embeds_of_fieldsRun hallowed hnamed
        hpassed hstart (hgrown'.trans hfinish) hfields hi hname
      rw [Slot.fields_ofFields] at hj
      obtain ⟨hlt, hj⟩ := List.getElem?_eq_some_iff.mp hj
      refine ⟨⟨j, hlt⟩, .inl hclaim, ?_⟩
      rw [Fin.getElem_fin, hj]
      exact ⟨hfits, hvalue⟩
    · have hname' : (!hasField as es[i].1) = true := by simpa using hname
      obtain ⟨j, name, actual, hclaim, hj, hfits, hvalue⟩ := embeds_of_fieldsRun hallowed
        htemplated hpassed' (hstart.trans hgrown) hfinish hfields hi hname'
      rw [hslots] at hj
      obtain ⟨hlt, hj⟩ := List.getElem?_eq_some_iff.mp hj
      refine ⟨⟨j, hlt⟩, .inr hclaim, ?_⟩
      rw [Fin.getElem_fin, hj]
      exact ⟨hfits, hvalue⟩
  choose assign hclaims hfits hvalues using hfield
  refine .object assign ?_ hfits hvalues ?_
  · intro i i' heq
    have hi' := hclaims i'
    rw [← heq] at hi'
    exact Fin.ext (claimsAt_injective hnamed htemplated (hclaims i) hi')
  · intro hstrict j
    -- No slot is free in the end, so one of the passes has claimed this one.
    obtain ⟨i, hi, hclaim⟩ := exists_claimsAt hnamed htemplated (Slot.freeAt_ofFields j.2)
      (Slot.not_freeAt_of_unexpected (hextra hstrict) j)
    exact ⟨⟨i, hi⟩, Fin.ext (claimsAt_unique hnamed htemplated (hclaims ⟨i, hi⟩) hclaim)⟩

theorem embedsIfPassed (hallowed : ∀ s, start.Extends s → s.Extends finish → allowed s.bindings)
    (e : Json.Value) : EmbedsIfPassed c allowed start finish e := by
  induction e using Json.Value.induction with
  | leaf e hitems hfields =>
    intro path scope a out h hstart hfinish
    generalize hms : ([] : List Mismatch) = ms at h
    cases nodeRun_of_compareNode h with
    | object => exact absurd rfl (hfields _)
    | array => exact absurd rfl (hitems _)
    | leaf hleaf =>
      subst hms
      exact embeds_of_compareLeaf hallowed hleaf hstart hfinish
  | array items ih =>
    intro path scope a out h hstart hfinish
    generalize hms : ([] : List Mismatch) = ms at h
    cases nodeRun_of_compareNode h with
    | array hrun =>
      split at hms
      · next hlen =>
        exact .array hlen (embeds_of_itemsRun hrun hms.symm hstart hfinish ih)
      · cases hms
    | leaf hleaf =>
      subst hms
      exact embeds_of_compareLeaf hallowed hleaf hstart hfinish
  | object fields ih =>
    intro path scope a out h hstart hfinish
    generalize hms : ([] : List Mismatch) = ms at h
    cases nodeRun_of_compareNode h with
    | object hnamed htemplated =>
      -- Without a mismatch in the end, there is none in either pass, and no slot is left over.
      obtain ⟨hflat, hextra⟩ := List.append_eq_nil_iff.mp hms.symm
      obtain ⟨hpassed, hpassed'⟩ := passed_of_flatten_eq_nil hnamed htemplated hflat
      refine embeds_of_objectRun hallowed hnamed htemplated hpassed hpassed' ?_ hstart hfinish ih
      intro hstrict
      rwa [if_pos hstrict] at hextra
    | leaf hleaf =>
      subst hms
      exact embeds_of_compareLeaf hallowed hleaf hstart hfinish

end Walk

theorem finish_eq_passed {ms : List Mismatch} {scope : Scope} {r : Comparison}
    (h : Walk.finish (ms, scope) = r) (hr : r.isMatch = true) :
    ms = [] ∧ r.captured = scope.pending := by
  subst h
  cases ms with
  | nil => exact ⟨rfl, rfl⟩
  | cons m ms => cases hr

/-- Scopes between the start of a comparison and its end have only environments in between. -/
theorem between_of_extends {symbols : SymbolTable} {scope out : Scope}
    (h : (Scope.ofTable symbols).Extends scope) (h' : scope.Extends out) :
    Between symbols out.pending scope.bindings := by
  constructor
  · intro name value hvalue
    exact h.bindings_eq ((congrFun (Scope.bindings_ofTable symbols) name).trans hvalue)
  · intro name value hvalue
    have hout := h'.bindings_eq hvalue
    rw [Scope.bindings, (h.trans h').base, Option.orElse_eq_orElse, Option.orElse_eq_or,
      Option.or_eq_some_iff] at hout
    exact hout.symm.imp (fun h => h.2) id

/-- If a comparison of trees passes, the expected tree is embedded in the actual one, with every
template read under symbols between those at the start and those with what was captured. -/
theorem embeds_of_passed {c : Config} {symbols : SymbolTable} {expected actual : Document}
    {r : Comparison} (h : Comparison.ofJson c symbols expected actual = .ok r)
    (hr : r.isMatch = true) :
    ∃ e a, expected.tree = .ok e ∧ actual.tree = .ok a ∧
      Embeds c (Between symbols r.captured) e a := by
  obtain ⟨e, a, ⟨ms, out⟩, he, ha, hwalk, hfinish⟩ := exists_walk_of_ofJson h
  obtain ⟨rfl, hcaptured⟩ := finish_eq_passed hfinish hr
  have hallowed (s : Scope) (hs : (Scope.ofTable symbols).Extends s) (hs' : s.Extends out) :
      Between symbols out.pending s.bindings := between_of_extends hs hs'
  rw [hcaptured]
  exact ⟨e, a, he, ha, Walk.embedsIfPassed hallowed e _ _ _ _ hwalk (.refl _) (.refl out)⟩

theorem embeds_of_passed_strict :
    ∃ r, Comparison.ofJson ⟨.strict, false, .standard, .literal⟩ .empty
        (.json (.object [("id", .string "~[x]"), ("~[k]y", .array [.string "~[x]", .null])]))
        (.json (.object [("by", .array [.string "7", .null]), ("id", .string "7")])) = .ok r ∧
      r.captured.entries = [("x", "7"), ("k", "b")] ∧
      Embeds ⟨.strict, false, .standard, .literal⟩ (Between .empty r.captured)
        (.object [("id", .string "~[x]"), ("~[k]y", .array [.string "~[x]", .null])])
        (.object [("by", .array [.string "7", .null]), ("id", .string "7")]) := by
  have hr : ∃ t, Comparison.ofJson ⟨.strict, false, .standard, .literal⟩ .empty
        (.json (.object [("id", .string "~[x]"), ("~[k]y", .array [.string "~[x]", .null])]))
        (.json (.object [("by", .array [.string "7", .null]), ("id", .string "7")])) =
          .ok (.passed t) ∧
      t.entries = [("x", "7"), ("k", "b")] := ⟨⟨[("x", "7"), ("k", "b")], by decide⟩, by cbv, rfl⟩
  obtain ⟨t, hr, ht⟩ := hr
  obtain ⟨e, a, he, ha, hembeds⟩ := embeds_of_passed hr rfl
  cases he
  cases ha
  exact ⟨_, hr, ht, hembeds⟩

end TemplateMatch
