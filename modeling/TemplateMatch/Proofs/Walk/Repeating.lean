import TemplateMatch.Proofs.Json.Parts
import TemplateMatch.Proofs.Template.Rebinding
import TemplateMatch.Proofs.Walk.Candidates
import TemplateMatch.Proofs.Walk.Embedding

/-!
Comparing again what has passed, with everything bound that was captured. Parts of the expected tree
without unbound placeholders are compared alike under any further bindings, whatever comes of it.
The other parts pass again if their templates keep what they match and no second field can answer
their keys (`compareNode_again`).
-/

namespace TemplateMatch

theorem Scope.Extends.sub {s t : Scope} (h : s.Extends t) : s.bindings.Sub t.bindings :=
  fun _ _ hvalue => h.bindings_eq hvalue

theorem Scope.Extends.captured_sub {s t : Scope} {captures : List (String × String)}
    (h : (s.bindAll captures).Extends t) : Bindings.Sub (.ofPairs captures) t.bindings := by
  intro name value hvalue
  apply h.bindings_eq
  rw [Scope.bindings_bindAll, hvalue]
  rfl

namespace Walk

variable {c : Config} {path : Pointer} {first : Bindings} {scope out again : Scope}

/-- The placeholders of a node's own templates are bound. -/
def IsGround (c : Config) (bound : Bindings) : Json.Value → Prop
  | .string template => Template.AllBound c.delimiters bound template
  | .object fields => ∀ f ∈ fields, Template.AllBound c.delimiters bound f.1
  | _ => True

/-- The whole field is without unbound placeholders. -/
def IsGroundField (c : Config) (bound : Bindings) (f : String × Json.Value) : Prop :=
  Template.AllBound c.delimiters bound f.1 ∧ f.2.Everywhere (IsGround c bound)

/-- A name that may answer a key. -/
def Fits (c : Config) (bound : Bindings) (key name : String) : Prop :=
  name = key ∨ Accepts c bound key name

/-- No two of the fields have names that may answer the key. -/
def IsUnique (c : Config) (bound : Bindings) (fields : List (String × Json.Value)) (key : String) :
    Prop :=
  ∀ f ∈ fields, ∀ g ∈ fields, Fits c bound key f.1 → Fits c bound key g.1 → f.1 = g.1

/-- The templates of a node are repeatable where it is compared with another one. A field with
unbound placeholders cannot be answered by two names, nor a key with such by itself. -/
def NodeRepeats (c : Config) (first last : Bindings) : Json.Value → Json.Value → Prop
  | .string template, _ => Template.Repeatable c.templateOptions first last template
  | .object fields, .object actual => ∀ f ∈ fields, IsGroundField c first f ∨
      Template.Repeatable c.templateOptions first last f.1 ∧ IsUnique c last actual f.1 ∧
        (Template.AllBound c.delimiters first f.1 ∨ hasField actual f.1 = false)
  | _, _ => True

/-- The nodes `v` and `w` are across from each other in two trees: they are items with the same
index, or values of two fields of which one may answer the other, at every step down to them. -/
inductive Across (c : Config) (bound : Bindings) (v w : Json.Value) :
    Json.Value → Json.Value → Prop
  | here : Across c bound v w v w
  | item {es as : List Json.Value} {i : Nat} {e a : Json.Value} :
    es[i]? = some e → as[i]? = some a → Across c bound v w e a →
      Across c bound v w (.array es) (.array as)
  | field {es as : List (String × Json.Value)} {f g : String × Json.Value} :
    f ∈ es → g ∈ as → Fits c bound f.1 g.1 → Across c bound v w f.2 g.2 →
      Across c bound v w (.object es) (.object as)

/-- All nodes of a tree are repeatable against those across from them. -/
def Repeats (c : Config) (first last : Bindings) (e a : Json.Value) : Prop :=
  ∀ v w, Across c last v w e a → NodeRepeats c first last v w

namespace Repeats

variable {last : Bindings}

theorem self {e a : Json.Value} (h : Repeats c first last e a) : NodeRepeats c first last e a :=
  h e a .here

theorem item {es as : List Json.Value} (h : Repeats c first last (.array es) (.array as)) {i : Nat}
    {e a : Json.Value} (he : es[i]? = some e) (ha : as[i]? = some a) : Repeats c first last e a :=
  fun v w hacross => h v w (.item he ha hacross)

theorem field {es as : List (String × Json.Value)}
    (h : Repeats c first last (.object es) (.object as)) {f g : String × Json.Value} (hf : f ∈ es)
    (hg : g ∈ as) (hfits : Fits c last f.1 g.1) : Repeats c first last f.2 g.2 :=
  fun v w hacross => h v w (.field hf hg hfits hacross)

theorem text {template : String} {a : Json.Value}
    (h : Template.Repeatable c.templateOptions first last template) :
    Repeats c first last (.string template) a := by
  intro v w hacross
  cases hacross
  exact h

end Repeats

/-! ## Leaves -/

theorem synthesize_of_allBound {template : String} {s : Synthesis}
    (h : Template.AllBound c.delimiters first template) (hscope : first.Sub scope.bindings)
    (hagain : first.Sub again.bindings) (hs : synthesize c path scope template = .ok s) :
    synthesize c path again template = .ok s := by
  apply synthesize_of_eq_ok
  rw [Synthesis.ofTemplate_eq_of_allBound (o := c.templateOptions) hagain h,
    ← Synthesis.ofTemplate_eq_of_allBound (o := c.templateOptions) hscope h]
  exact synthesize_eq_ok hs

theorem captures_of_allBound {template text : String} {s : Synthesis}
    {captures : List (String × String)} (h : Template.AllBound c.delimiters first template)
    (hscope : first.Sub scope.bindings) (hs : synthesize c path scope template = .ok s)
    (hc : s.captures text = some captures) : captures = [] :=
  Synthesis.captures_of_allBound (o := c.templateOptions) (h.of_sub hscope) (synthesize_eq_ok hs) hc

theorem compareText_of_allBound {template text : String} {ms : List Mismatch}
    (h : compareText c path scope template text = .ok (ms, out))
    (hground : Template.AllBound c.delimiters first template)
    (hscope : first.Sub scope.bindings) (hagain : first.Sub again.bindings) :
    compareText c path again template text = .ok (ms, again) := by
  cases textRun_of_compareText h with
  | @matched s captures hs hc =>
    cases captures_of_allBound hground hscope hs hc
    simp only [compareText, synthesize_of_allBound hground hscope hagain hs, hc,
      Scope.bindAll_nil]
  | @differs s hs hc =>
    simp only [compareText, synthesize_of_allBound hground hscope hagain hs, hc]
    rfl

theorem compareText_of_keeps {template text : String}
    (h : compareText c path scope template text = .ok ([], out))
    (hkeeps : Synthesis.Keeps c.templateOptions first again.bindings template)
    (hscope : first.Sub scope.bindings) (hout : out.bindings.Sub again.bindings) :
    compareText c path again template text = .ok ([], again) := by
  generalize hms : ([] : List Mismatch) = ms at h
  cases textRun_of_compareText h with
  | @matched s captures hs hc =>
    have hgrown := extends_captures hs hc
    have hcaptured : Bindings.Sub (.ofPairs captures) again.bindings :=
      (Scope.Extends.refl _).captured_sub.trans hout
    obtain ⟨s', hs', hc'⟩ := hkeeps _ s text captures hscope (hgrown.sub.trans hout)
      (synthesize_eq_ok hs) hc hcaptured
    simp only [compareText, synthesize_of_eq_ok path hs', hc', Scope.bindAll_nil]
  | differs => cases hms

/-- What comes of a comparison comes of it again: of any that is without unbound placeholders, and
of one that passed if its nodes repeat. -/
def Carries (c : Config) (first : Bindings) (again out : Scope) (e a : Json.Value)
    (ms : List Mismatch) : Prop :=
  e.Everywhere (IsGround c first) ∨
    ms = [] ∧ out.bindings.Sub again.bindings ∧ Repeats c first again.bindings e a

theorem compareLeaf_again {e a : Json.Value} {ms : List Mismatch}
    (h : compareLeaf c path scope e a = .ok (ms, out))
    (hcarries : Carries c first again out e a ms) (hscope : first.Sub scope.bindings)
    (hagain : first.Sub again.bindings) :
    compareLeaf c path again e a = .ok (ms, again) := by
  unfold compareLeaf at h ⊢
  split at h
  · cases h
    rfl
  · split at h
    · next text htext =>
      rcases hcarries with hground | ⟨rfl, hout, hrepeats⟩
      · exact compareText_of_allBound h hground.self hscope hagain
      · exact compareText_of_keeps h (Synthesis.keeps_of_repeatable hrepeats.self) hscope hout
    · next htext =>
      cases h
      rfl
  · split at h
    · next heqv =>
      cases h
      simp only [if_pos heqv]
    · next heqv =>
      cases h
      simp only [if_neg heqv]
      rfl
  · split at h
    · next heq =>
      cases h
      simp only [if_pos heq]
    · next heq =>
      cases h
      simp only [if_neg heq]
      rfl
  · cases h
    rfl

/-! ## Fields -/

section

variable {key : String} {compare : Scope → Json.Value → Result} {slots : List Slot}
  {outcome : FieldOutcome}

theorem captures_of_mem_list {template : Synthesis}
    (hkey : Template.AllBound c.delimiters first key) (hscope : first.Sub scope.bindings)
    (htemplate : synthesize c path scope key = .ok template) {candidate : Candidate}
    (h : candidate ∈ Candidate.list key template slots) : candidate.captures = [] := by
  obtain ⟨slot, _, _, _, ⟨_, hcaptures⟩ | hcaptures⟩ := Candidate.fits_of_mem_list h
  · rw [hcaptures]
    cases hown : template.captures key with
    | none => rfl
    | some captures => exact captures_of_allBound hkey hscope htemplate hown
  · exact captures_of_allBound hkey hscope htemplate hcaptures

/-- Candidates that are judged alike are chosen from alike. -/
theorem choose_again {cs : List Candidate} (h : Chosen compare scope cs (some outcome))
    (hjudge : ∀ candidate ∈ cs, ∀ ms out,
      compare (scope.bindAll candidate.captures) candidate.value = .ok (ms, out) →
      compare (again.bindAll candidate.captures) candidate.value = .ok (ms, again)) :
    choose compare again none cs = .ok (some ⟨outcome.claimed, outcome.mismatches, again⟩) := by
  have hreject (candidate : Candidate) (hmem : candidate ∈ cs) (ms : List Mismatch)
      (hrejected : Rejected compare scope candidate ms) : Rejected compare again candidate ms := by
    obtain ⟨hne, out, hc⟩ := hrejected
    exact ⟨hne, again, hjudge candidate hmem ms out hc⟩
  cases h with
  | passed hbefore hc =>
    refine choose_of_passed (fun b hb => ?_) (hjudge _ (by simp) _ _ hc)
    obtain ⟨ms, hrejected⟩ := hbefore b hb
    exact ⟨ms, hreject b (List.mem_append_left _ hb) ms hrejected⟩
  | failed hrejected hrest =>
    refine choose_of_failed (hreject _ List.mem_cons_self _ hrejected) fun b hb => ?_
    obtain ⟨ms, hrejected⟩ := hrest b hb
    exact ⟨ms, hreject b (List.mem_cons_of_mem _ hb) ms hrejected⟩

/-- A key without unbound placeholders has the same candidates again, and each is judged alike. -/
theorem settle_of_ground (h : Settled c path key compare slots scope outcome)
    (hkey : Template.AllBound c.delimiters first key) (hscope : first.Sub scope.bindings)
    (hagain : first.Sub again.bindings)
    (hcompare : ∀ s ∈ slots, ∀ ms out, compare scope s.value = .ok (ms, out) →
      compare again s.value = .ok (ms, again)) :
    settle c path key compare slots again = .ok ⟨outcome.claimed, outcome.mismatches, again⟩ := by
  cases h with
  | missing htemplate hlist =>
    exact settle_of_absent (synthesize_of_allBound hkey hscope hagain htemplate) hlist
  | @chosen template cs _ htemplate hlist hchosen =>
    have hjudge (candidate : Candidate) (hmem : candidate ∈ cs) (ms : List Mismatch) (out : Scope)
        (hc : compare (scope.bindAll candidate.captures) candidate.value = .ok (ms, out)) :
        compare (again.bindAll candidate.captures) candidate.value = .ok (ms, again) := by
      rw [← hlist] at hmem
      rw [captures_of_mem_list hkey hscope htemplate hmem] at hc ⊢
      obtain ⟨slot, hslot, _, hvalue, _⟩ := Candidate.fits_of_mem_list hmem
      rw [← hvalue] at hc ⊢
      exact hcompare slot (List.mem_of_getElem? hslot) ms out hc
    have hchoose := choose_again hchosen hjudge
    simp only [settle, synthesize_of_allBound hkey hscope hagain htemplate, hlist, hchoose]

/-- A key as it is read again: the name that answered it does so still, and captures nothing. -/
theorem exists_read_again {template : Synthesis} {name : String}
    {captured : List (String × String)}
    (hkeeps : Synthesis.Keeps c.templateOptions first again.bindings key)
    (hopen : Template.AllBound c.delimiters first key ∨ name ≠ key)
    (hscope : first.Sub scope.bindings) (hsub : scope.bindings.Sub again.bindings)
    (htemplate : synthesize c path scope key = .ok template)
    (hname : name = key ∨ template.captures name = some captured)
    (hcaptured : Bindings.Sub (.ofPairs captured) again.bindings) :
    ∃ template', synthesize c path again key = .ok template' ∧
      (name = key ∨ template'.captures name = some []) ∧
      (∀ captures, template'.captures name = some captures → captures = []) ∧
      (name = key → (template'.captures key).getD [] = []) := by
  rcases hopen with hkey | hne
  · have htemplate' := synthesize_of_allBound hkey hscope (hscope.trans hsub) htemplate
    have hnothing {text : String} {captures : List (String × String)}
        (hc : template.captures text = some captures) : captures = [] :=
      captures_of_allBound hkey hscope htemplate hc
    refine ⟨template, htemplate', ?_, fun _ => hnothing, fun _ => ?_⟩
    · refine hname.imp id fun hcaptures => ?_
      rw [hcaptures, hnothing hcaptures]
    · cases hc : template.captures key with
      | none => rfl
      | some captures => exact hnothing hc
  · obtain ⟨template', htemplate', hc'⟩ := hkeeps _ template name captured hscope hsub
      (synthesize_eq_ok htemplate) (hname.resolve_left hne) hcaptured
    refine ⟨template', synthesize_of_eq_ok path htemplate', .inr hc', fun captures hc => ?_,
      fun h => absurd h hne⟩
    rw [hc', Option.some.injEq] at hc
    exact hc.symm

/-- Where no second name may answer the key, and nothing is captured, there is one candidate. -/
theorem eq_of_mem_list {template : Synthesis} {slot : Slot} {index : Nat} {candidate : Candidate}
    (hn : (slots.map Slot.name).Nodup)
    (hunique : ∀ s ∈ slots, ∀ t ∈ slots, Fits c again.bindings key s.name →
      Fits c again.bindings key t.name → s.name = t.name)
    (htemplate : synthesize c path again key = .ok template) (hslot : slots[index]? = some slot)
    (hfits : Fits c again.bindings key slot.name)
    (hnothing : ∀ captures, template.captures slot.name = some captures → captures = [])
    (hown : slot.name = key → (template.captures key).getD [] = [])
    (h : candidate ∈ Candidate.list key template slots) :
    candidate = ⟨index, slot.value, []⟩ := by
  obtain ⟨slot', hslot', _, hvalue, hname⟩ := Candidate.fits_of_mem_list h
  have hfits' : Fits c again.bindings key slot'.name :=
    hname.imp (fun h => h.1) fun hc => accepts_of_captures htemplate hc
  have hsame := hunique slot' (List.mem_of_getElem? hslot') slot (List.mem_of_getElem? hslot)
    hfits' hfits
  have hindex : candidate.index = index := index_eq_of_nodup hn hslot' hslot hsame
  rw [hindex, hslot] at hslot'
  cases hslot'
  have hcaptures : candidate.captures = [] := by
    rcases hname with ⟨hname, hcaptures⟩ | hcaptures
    · rw [hcaptures, hown hname]
    · exact hnothing _ hcaptures
  obtain ⟨index', value, captures⟩ := candidate
  simp only at hindex hvalue hcaptures
  rw [hindex, hvalue, hcaptures]

/-- A key that one field only can answer, and keeps its name, is answered by it again. -/
theorem settle_of_unique (h : Settled c path key compare slots scope outcome)
    (hpassed : outcome.mismatches = []) (hn : (slots.map Slot.name).Nodup)
    (hkeeps : Synthesis.Keeps c.templateOptions first again.bindings key)
    (hunique : ∀ s ∈ slots, ∀ t ∈ slots, Fits c again.bindings key s.name →
      Fits c again.bindings key t.name → s.name = t.name)
    (hopen : Template.AllBound c.delimiters first key ∨ ∀ s ∈ slots, s.name ≠ key)
    (hscope : first.Sub scope.bindings) (hout : outcome.scope.bindings.Sub again.bindings)
    (hgrows : ∀ s a ms out, compare s a = .ok (ms, out) → s.Extends out)
    (hcompare : ∀ t ∈ slots, Fits c again.bindings key t.name → ∀ s out, first.Sub s.bindings →
      out.bindings.Sub again.bindings → compare s t.value = .ok ([], out) →
      compare again t.value = .ok ([], again)) :
    settle c path key compare slots again = .ok ⟨outcome.claimed, [], again⟩ := by
  obtain ⟨template, candidate, htemplate, hfits, hclaimed, hc⟩ := h.passed hpassed
  have hgrown := hfits.grows htemplate
  have hafter := hgrows _ _ _ _ hc
  have hcaptured : Bindings.Sub (.ofPairs candidate.captures) again.bindings :=
    (Scope.Extends.refl _).captured_sub.trans (hafter.sub.trans hout)
  obtain ⟨slot, hslot, hfree, hvalue, hname⟩ := hfits
  have hmem : slot ∈ slots := List.mem_of_getElem? hslot
  obtain ⟨template', htemplate', hfits', hnothing, hown⟩ :=
    exists_read_again hkeeps (hopen.imp id fun h => h slot hmem) hscope
      (hgrown.sub.trans (hafter.sub.trans hout)) htemplate (hname.imp (fun h => h.1) id) hcaptured
  have hfitsName : Fits c again.bindings key slot.name :=
    hfits'.imp id fun hc => accepts_of_captures htemplate' hc
  have hnonempty : Candidate.list key template' slots ≠ [] := by
    by_cases hname : slot.name = key
    · obtain ⟨others, hlist, _⟩ := Candidate.list_of_free hn template' hslot hname hfree
      rw [hlist]
      exact List.cons_ne_nil _ _
    · exact List.ne_nil_of_mem
        (Candidate.mem_list_of_captures hslot hfree hname (hfits'.resolve_left hname))
  obtain ⟨d, rest, hlist⟩ := List.exists_cons_of_ne_nil hnonempty
  -- The first candidate is the field that answered before, so it is compared and passes.
  have hd := eq_of_mem_list hn hunique htemplate' hslot hfitsName hnothing hown
    (hlist ▸ List.mem_cons_self : d ∈ _)
  rw [← hvalue] at hc
  have hpasses := hcompare slot hmem hfitsName _ _ (hscope.trans hgrown.sub) hout hc
  simp only [settle, htemplate', hlist, hd, choose, Scope.bindAll_nil, hpasses, hclaimed]

end

variable {fields as : List (String × Json.Value)}

/-- Comparisons with the value are carried over to the scope at the end. -/
def IsCarried (c : Config) (first : Bindings) (again : Scope) (e : Json.Value) : Prop :=
  ∀ path scope a ms out, compareNode c path scope e a = .ok (ms, out) → a.DistinctKeys →
    first.Sub scope.bindings → Carries c first again out e a ms →
    compareNode c path again e a = .ok (ms, again)

/-- What fields that are compared with those of an actual object, and their reports, ask for to be
carried over. -/
def FieldsCarry (c : Config) (first : Bindings) (again out : Scope)
    (fields as : List (String × Json.Value)) (more : List (List Mismatch)) : Prop :=
  (∀ f ∈ fields, IsGroundField c first f) ∨
    (∀ ms ∈ more, ms = []) ∧ out.bindings.Sub again.bindings ∧
      NodeRepeats c first again.bindings (.object fields) (.object as) ∧
      ∀ f ∈ fields, ∀ g ∈ as, Fits c again.bindings f.1 g.1 →
        Repeats c first again.bindings f.2 g.2

theorem FieldsCarry.tail {f : String × Json.Value} {ms : List Mismatch}
    {more : List (List Mismatch)}
    (h : FieldsCarry c first again out (f :: fields) as (ms :: more)) :
    FieldsCarry c first again out fields as more := by
  rcases h with hall | ⟨hpassed, hout, hkeys, hvalues⟩
  · exact .inl fun g hg => hall g (List.mem_cons_of_mem f hg)
  · exact .inr ⟨fun ms hms => hpassed ms (List.mem_cons_of_mem _ hms), hout,
      fun g hg => hkeys g (List.mem_cons_of_mem f hg),
      fun g hg => hvalues g (List.mem_cons_of_mem f hg)⟩

theorem FieldsCarry.head {f : String × Json.Value} {ms : List Mismatch}
    {more : List (List Mismatch)} {mid : Scope}
    (h : FieldsCarry c first again out (f :: fields) as (ms :: more))
    (hafter : mid.Extends out) :
    FieldsCarry c first again mid [f] as [ms] := by
  rcases h with hall | ⟨hpassed, hout, hkeys, hvalues⟩
  · exact .inl (List.forall_mem_singleton.mpr (hall f List.mem_cons_self))
  · exact .inr ⟨List.forall_mem_singleton.mpr (hpassed ms List.mem_cons_self),
      hafter.sub.trans hout, List.forall_mem_singleton.mpr (hkeys f List.mem_cons_self),
      List.forall_mem_singleton.mpr (hvalues f List.mem_cons_self)⟩

/-- One field, whether it is without unbound placeholders or has passed and repeats. -/
theorem settle_again {key : String} {value : Json.Value} {slots : List Slot}
    {outcome : FieldOutcome}
    (h : Settled c (path.child (.field key)) key (compareField c path key value) slots scope
      outcome)
    (hactual : Json.Value.DistinctKeys (.object (Slot.fields slots)))
    (hscope : first.Sub scope.bindings) (hagain : first.Sub again.bindings)
    (hvalue : IsCarried c first again value)
    (hcarry : FieldsCarry c first again outcome.scope [(key, value)] (Slot.fields slots)
      [outcome.mismatches]) :
    settle c (path.child (.field key)) key (compareField c path key value) slots again =
      .ok ⟨outcome.claimed, outcome.mismatches, again⟩ := by
  have hslot (s : Slot) (hs : s ∈ slots) : s.value.DistinctKeys :=
    hactual.field (Slot.mem_fields hs)
  have hground (hfield : IsGroundField c first (key, value)) :=
    settle_of_ground h hfield.1 hscope hagain fun s hs ms out hc =>
      hvalue _ _ _ _ _ hc (hslot s hs) hscope (.inl hfield.2)
  rcases hcarry with hall | ⟨hpassed, hout, hkeys, hvalues⟩
  · exact hground (hall _ List.mem_cons_self)
  · rcases hkeys _ List.mem_cons_self with hfield | ⟨hrepeatable, hunique, hopen⟩
    · exact hground hfield
    · have hreport : outcome.mismatches = [] := hpassed _ List.mem_cons_self
      have hn : (slots.map Slot.name).Nodup := by
        rw [Slot.map_name_eq]
        exact hactual.self
      rw [hreport]
      refine settle_of_unique h hreport hn (Synthesis.keeps_of_repeatable hrepeatable) ?_
        (hopen.imp id ?_) hscope hout (fun s a ms out hc => extends_of_compareNode hc) ?_
      · exact fun s hs t ht => hunique _ (Slot.mem_fields hs) _ (Slot.mem_fields ht)
      · rintro hnone s hs rfl
        have hfield := hasField_of_mem (Slot.mem_fields hs)
        rw [hnone] at hfield
        cases hfield
      · intro t ht hfits s out' hs hout' hc
        exact hvalue _ _ _ _ _ hc (hslot t ht) hs
          (.inr ⟨rfl, hout', hvalues _ List.mem_cons_self _ (Slot.mem_fields ht) hfits⟩)

theorem compareFields_again {wanted : String → Bool} {slots slots' : List Slot}
    {claims : List (Option Nat)} {more : List (List Mismatch)}
    (h : FieldsRun c path wanted fields slots scope claims more slots' out)
    (hactual : Json.Value.DistinctKeys (.object (Slot.fields slots)))
    (hscope : first.Sub scope.bindings) (hagain : first.Sub again.bindings)
    (hfields : ∀ f ∈ fields, IsCarried c first again f.2)
    (hcarry : FieldsCarry c first again out fields (Slot.fields slots) more) :
    compareFields c path wanted fields slots again = .ok (more, slots', again) := by
  induction h with
  | nil => rfl
  | @skip key value fields _ _ _ _ _ _ hskip _ ih =>
    have hrest := ih hactual hscope (fun f hf => hfields f (List.mem_cons_of_mem _ hf)) hcarry.tail
    rw [compareFields_skip (f := (key, value)) hskip, hrest]
    rfl
  | @settle key value fields slots _ scope out claims more outcome hwanted hsettled hrest ih =>
    have hgrown := hsettled.grows fun s a ms out hc => extends_of_compareNode hc
    have hafter := hrest.grows
    have hsettle := settle_again hsettled hactual hscope hagain
      (hfields _ List.mem_cons_self) (hcarry.head hafter)
    rw [Slot.fields_claim] at ih
    have hrest' := ih hactual (hscope.trans hgrown.sub)
      (fun f hf => hfields f (List.mem_cons_of_mem _ hf)) hcarry.tail
    rw [compareFields_settle (f := (key, value)) hwanted hsettle, hrest']
    rfl

/-! ## Trees -/

theorem compareItems_again {index : Nat} {es as : List Json.Value} {ms : List Mismatch}
    (h : ItemsRun c path index scope es as ms out)
    (hactual : ∀ a ∈ as, a.DistinctKeys) (hscope : first.Sub scope.bindings)
    (hitems : ∀ e ∈ es, IsCarried c first again e)
    (hcarries : (∀ e ∈ es, e.Everywhere (IsGround c first)) ∨
      ms = [] ∧ out.bindings.Sub again.bindings ∧
        ∀ (i : Nat) (e a : Json.Value), es[i]? = some e → as[i]? = some a →
          Repeats c first again.bindings e a) :
    compareItems c path index again es as = .ok (ms, again) := by
  induction h with
  | @stop _ _ es as hstop =>
    rcases hstop with rfl | rfl
    · cases as <;> rfl
    · cases es <;> rfl
  | @item index scope mid out e a es as ms more hitem hrest ih =>
    have hgrown := extends_of_compareNode hitem
    have hafter := hrest.grows
    have hfirst : compareNode c (path.child (.item index)) again e a = .ok (ms, again) := by
      refine hitems e List.mem_cons_self _ _ _ _ _ hitem (hactual a List.mem_cons_self) hscope ?_
      rcases hcarries with hground | ⟨hms, hout, hrepeats⟩
      · exact .inl (hground e List.mem_cons_self)
      · exact .inr ⟨(List.append_eq_nil_iff.mp hms).1, hafter.sub.trans hout,
          hrepeats 0 e a rfl rfl⟩
    have hmore := ih (fun a ha => hactual a (List.mem_cons_of_mem _ ha)) (hscope.trans hgrown.sub)
      (fun e he => hitems e (List.mem_cons_of_mem _ he)) (by
        rcases hcarries with hground | ⟨hms, hout, hrepeats⟩
        · exact .inl fun e he => hground e (List.mem_cons_of_mem _ he)
        · exact .inr ⟨(List.append_eq_nil_iff.mp hms).2, hout,
            fun i e a he ha => hrepeats (i + 1) e a he ha⟩)
    rw [compareItems, hfirst]
    simp only [hmore]

theorem compareObject_again {ms : List Mismatch}
    (h : compareNode c path scope (.object fields) (.object as) = .ok (ms, out))
    (hactual : Json.Value.DistinctKeys (.object as))
    (hscope : first.Sub scope.bindings) (hagain : first.Sub again.bindings)
    (hfields : ∀ f ∈ fields, IsCarried c first again f.2)
    (hcarries : Carries c first again out (.object fields) (.object as) ms) :
    compareNode c path again (.object fields) (.object as) = .ok (ms, again) := by
  obtain ⟨claims, claims', named, templated, slots, slots', mid, hnamed, htemplated, rfl⟩ :=
    exists_passes h
  have hgrown := hnamed.grows
  have hgrown' := htemplated.grows
  have hslots : Slot.fields slots = as := hnamed.fields_eq_start
  obtain ⟨hcarry, hcarry'⟩ : FieldsCarry c first again mid fields as named ∧
      FieldsCarry c first again out fields as templated := by
    rcases hcarries with hground | ⟨hms, hout, hrepeats⟩
    · have hall (f : String × Json.Value) (hf : f ∈ fields) : IsGroundField c first f :=
        ⟨hground.self f hf, hground.field hf⟩
      exact ⟨.inl hall, .inl hall⟩
    · obtain ⟨hflat, _⟩ := List.append_eq_nil_iff.mp hms
      obtain ⟨hpassed, hpassed'⟩ := passed_of_flatten_eq_nil hnamed htemplated hflat
      have hvalues (f : String × Json.Value) (hf : f ∈ fields) (g : String × Json.Value)
          (hg : g ∈ as) := hrepeats.field hf hg
      exact ⟨.inr ⟨hpassed, hgrown'.sub.trans hout, hrepeats.self, hvalues⟩,
        .inr ⟨hpassed', hout, hrepeats.self, hvalues⟩⟩
  refine compareNode_object (compareFields_again hnamed ?_ hscope hagain hfields ?_)
    (compareFields_again htemplated ?_ (hscope.trans hgrown.sub) hagain hfields ?_)
  · rwa [Slot.fields_ofFields]
  · rwa [Slot.fields_ofFields]
  · rwa [hslots]
  · rwa [hslots]

theorem compareArray_again {items as : List Json.Value} {ms : List Mismatch}
    (h : compareNode c path scope (.array items) (.array as) = .ok (ms, out))
    (hactual : Json.Value.DistinctKeys (.array as)) (hscope : first.Sub scope.bindings)
    (hitems : ∀ e ∈ items, IsCarried c first again e)
    (hcarries : Carries c first again out (.array items) (.array as) ms) :
    compareNode c path again (.array items) (.array as) = .ok (ms, again) := by
  rw [compareNode] at h ⊢
  split at h
  · cases h
  · next found out' hrun =>
    have hagain : compareItems c path 0 again items as = .ok (found, again) := by
      refine compareItems_again (itemsRun_of_compareItems hrun) (fun a ha => hactual.item ha)
        hscope hitems ?_
      rcases hcarries with hground | ⟨rfl, hout, hrepeats⟩
      · exact .inl fun e he => hground.item he
      · split at h
        · cases h
          exact .inr ⟨rfl, hout, fun i e a he ha => hrepeats.item he ha⟩
        · cases h
    simp only [hagain]
    split at h
    · next hlen =>
      cases h
      rw [if_pos hlen]
    · next hlen =>
      cases h
      rw [if_neg hlen]

/-- Every comparison of which something is to be carried over comes out alike in the scope at the
end. -/
theorem compareNode_again (e : Json.Value) (hagain : first.Sub again.bindings) :
    IsCarried c first again e := by
  intro path scope a ms out h hactual hscope hcarries
  induction e, a using Json.Value.induction₂ generalizing path scope ms out with
  | leaf e a harrays hobjects =>
    rw [compareNode_of_leaf harrays hobjects] at h ⊢
    exact compareLeaf_again h hcarries hscope hagain
  | array es as ih =>
    exact compareArray_again h hactual hscope
      (fun e he path scope a ms out => ih e he a path scope ms out) hcarries
  | object es as ih =>
    exact compareObject_again h hactual hscope hagain
      (fun f hf path scope a ms out => ih f hf a path scope ms out) hcarries

end Walk

end TemplateMatch
