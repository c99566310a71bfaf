import TemplateMatch.Proofs.Scope
import TemplateMatch.Proofs.Template.Compiled
import TemplateMatch.Walk

/-!
How one expected field is settled. A candidate is a free field with a fitting name
(`Candidate.Fits`), and settling does one of three things with the candidates (`Settled`): the first
one without a mismatch is taken with its scope, the first of all is taken with its mismatches in the
old scope, or there is none.
-/

namespace TemplateMatch

/-! ## Templates under a scope -/

namespace Walk

theorem synthesize_eq_ok {c : Config} {path : Pointer} {scope : Scope} {template : String}
    {s : Synthesis} (h : synthesize c path scope template = .ok s) :
    Synthesis.ofTemplate c.templateOptions scope.bindings template = .ok s :=
  mapError_eq_ok.mp h

theorem synthesize_of_eq_ok {c : Config} (path : Pointer) {scope : Scope} {template : String}
    {s : Synthesis}
    (h : Synthesis.ofTemplate c.templateOptions scope.bindings template = .ok s) :
    synthesize c path scope template = .ok s :=
  mapError_eq_ok.mpr h

/-- What a template captures extends the scope it is read under. -/
theorem extends_captures {c : Config} {path : Pointer} {scope : Scope} {template text : String}
    {s : Synthesis} {captures : List (String × String)}
    (h : synthesize c path scope template = .ok s) (hc : s.captures text = some captures) :
    scope.Extends (scope.bindAll captures) :=
  .bindAll (Synthesis.captures_unbound (synthesize_eq_ok h) hc)

/-- A relation of scopes that is kept where templates of some sort capture, so that it is kept by
every run over such templates. -/
structure KeptByCaptures (c : Config) (P : String → Prop) (R : Scope → Scope → Prop) : Prop where
  refl (s : Scope) : R s s
  trans {s t u : Scope} : R s t → R t u → R s u
  captures {path : Pointer} {scope : Scope} {template text : String} {s : Synthesis}
    {captures : List (String × String)} :
    P template → synthesize c path scope template = .ok s → s.captures text = some captures →
      R scope (scope.bindAll captures)

theorem extends_keptByCaptures (c : Config) : KeptByCaptures c (fun _ => True) Scope.Extends :=
  ⟨.refl, .trans, fun _ => extends_captures⟩

/-- A template against a text: it captures in the scope, or it differs and leaves the scope. -/
inductive TextRun (c : Config) (path : Pointer) (scope : Scope) (template actual : String) :
    List Mismatch → Scope → Prop
  | matched {s : Synthesis} {captures : List (String × String)} :
    synthesize c path scope template = .ok s → s.captures actual = some captures →
      TextRun c path scope template actual [] (scope.bindAll captures)
  | differs {s : Synthesis} :
    synthesize c path scope template = .ok s → s.captures actual = none →
      TextRun c path scope template actual [⟨path, .value, template, actual⟩] scope

theorem textRun_of_compareText {c : Config} {path : Pointer} {scope out : Scope}
    {template actual : String} {ms : List Mismatch}
    (h : compareText c path scope template actual = .ok (ms, out)) :
    TextRun c path scope template actual ms out := by
  rw [compareText] at h
  split at h
  · cases h
  · next s hs =>
    split at h
    · next captures hc =>
      cases h
      exact .matched hs hc
    · next hc =>
      cases h
      exact .differs hs hc

theorem TextRun.kept {c : Config} {path : Pointer} {scope out : Scope}
    {template actual : String} {ms : List Mismatch}
    (h : TextRun c path scope template actual ms out) {P : String → Prop}
    {R : Scope → Scope → Prop} (hR : KeptByCaptures c P R) (hP : P template) : R scope out := by
  cases h with
  | matched hs hc => exact hR.captures hP hs hc
  | differs => exact hR.refl scope

theorem TextRun.grows {c : Config} {path : Pointer} {scope out : Scope}
    {template actual : String} {ms : List Mismatch}
    (h : TextRun c path scope template actual ms out) : scope.Extends out :=
  h.kept (extends_keptByCaptures c) trivial

end Walk

/-! ## Candidates -/

/-- The slot at a place is there and nothing has claimed it. -/
def Slot.FreeAt (slots : List Slot) (index : Nat) : Prop :=
  ∃ slot, slots[index]? = some slot ∧ slot.taken = false

namespace Candidate

/-- A candidate for a key under its template: a free field whose name is the key or satisfies the
template. -/
def Fits (key : String) (template : Synthesis) (slots : List Slot) (c : Candidate) : Prop :=
  ∃ slot, slots[c.index]? = some slot ∧ slot.taken = false ∧ slot.value = c.value ∧
    (slot.name = key ∧ c.captures = (template.captures key).getD [] ∨
      template.captures slot.name = some c.captures)

theorem own?_eq_some {key : String} {slots : List Slot} {slot : Slot} {index : Nat}
    (h : own? key slots = some (slot, index)) :
    slots[index]? = some slot ∧ slot.taken = false ∧ slot.name = key := by
  rw [own?, Option.filter_eq_some_iff] at h
  obtain ⟨hfind, htaken⟩ := h
  refine ⟨?_, by simpa using htaken, by simpa using List.find?_some hfind⟩
  have hmem := List.mem_of_find?_eq_some hfind
  rwa [List.mem_zipIdx_iff_getElem?] at hmem

theorem fits_of_mem_list {key : String} {template : Synthesis} {slots : List Slot} {c : Candidate}
    (h : c ∈ list key template slots) : Fits key template slots c := by
  rw [list, List.mem_append] at h
  rcases h with h | h
  · obtain ⟨⟨slot, index⟩, hown, rfl⟩ := List.mem_map.mp h
    obtain ⟨hslot, htaken, hname⟩ := own?_eq_some (Option.mem_toList.mp hown)
    exact ⟨slot, hslot, htaken, rfl, .inl ⟨hname, rfl⟩⟩
  · obtain ⟨⟨slot, index⟩, hmem, hc⟩ := List.mem_filterMap.mp h
    split at hc
    · cases hc
    · next hfree =>
      obtain ⟨captures, hcaptures, rfl⟩ := Option.map_eq_some_iff.mp hc
      simp only [Bool.or_eq_true, not_or, Bool.not_eq_true] at hfree
      rw [List.mem_zipIdx_iff_getElem?] at hmem
      exact ⟨slot, hmem, hfree.1, rfl, .inr hcaptures⟩

theorem Fits.kept {c : Config} {path : Pointer} {scope : Scope} {key : String}
    {template : Synthesis} {slots : List Slot} {candidate : Candidate}
    (hs : Walk.synthesize c path scope key = .ok template)
    (h : Fits key template slots candidate) {P : String → Prop} {R : Scope → Scope → Prop}
    (hR : Walk.KeptByCaptures c P R) (hP : P key) :
    R scope (scope.bindAll candidate.captures) := by
  obtain ⟨slot, _, _, _, hcaptures⟩ := h
  rcases hcaptures with ⟨_, hown⟩ | hother
  · rw [hown]
    cases hc : template.captures key with
    | none => exact hR.refl scope
    | some captures => exact hR.captures hP hs hc
  · exact hR.captures hP hs hother

theorem Fits.grows {c : Config} {path : Pointer} {scope : Scope} {key : String}
    {template : Synthesis} {slots : List Slot} {candidate : Candidate}
    (hs : Walk.synthesize c path scope key = .ok template)
    (h : Fits key template slots candidate) :
    scope.Extends (scope.bindAll candidate.captures) :=
  h.kept hs (Walk.extends_keptByCaptures c) trivial

end Candidate

/-! ## Settling -/

namespace Walk

variable (compare : Scope → Json.Value → Result) (scope : Scope)

/-- A candidate whose value differs; the scope it leaves is dropped. -/
def Rejected (c : Candidate) (ms : List Mismatch) : Prop :=
  ms ≠ [] ∧ ∃ out, compare (scope.bindAll c.captures) c.value = .ok (ms, out)

/-- What becomes of candidates, tried in order. -/
inductive Chosen : List Candidate → Option FieldOutcome → Prop
  | passed {before after : List Candidate} {c : Candidate} {out : Scope} :
    (∀ b ∈ before, ∃ ms, Rejected compare scope b ms) →
      compare (scope.bindAll c.captures) c.value = .ok ([], out) →
      Chosen (before ++ c :: after) (some ⟨some c.index, [], out⟩)
  | failed {c : Candidate} {rest : List Candidate} {ms : List Mismatch} :
    Rejected compare scope c ms → (∀ b ∈ rest, ∃ ms, Rejected compare scope b ms) →
      Chosen (c :: rest) (some ⟨some c.index, ms, scope⟩)
  | none : Chosen [] none

variable {compare scope}

/-- With an outcome to fall back to, a later candidate passes or nothing changes. -/
theorem choose_eq_ok {fallback : FieldOutcome} {outcome : Option FieldOutcome}
    {cs : List Candidate} (h : choose compare scope (some fallback) cs = .ok outcome) :
    (∃ before c after out, cs = before ++ c :: after ∧
      (∀ b ∈ before, ∃ ms, Rejected compare scope b ms) ∧
      compare (scope.bindAll c.captures) c.value = .ok ([], out) ∧
      outcome = some ⟨some c.index, [], out⟩) ∨
    (outcome = some fallback ∧ ∀ b ∈ cs, ∃ ms, Rejected compare scope b ms) := by
  induction cs with
  | nil =>
    cases h
    exact .inr ⟨rfl, nofun⟩
  | cons c cs ih =>
    rw [choose] at h
    split at h
    · cases h
    · next out hc =>
      cases h
      exact .inl ⟨[], c, cs, out, rfl, nofun, hc, rfl⟩
    · next ms out hne hc =>
      -- What this candidate left behind is dropped; there is a fallback already.
      have hrejected : Rejected compare scope c ms := ⟨hne, out, hc⟩
      rcases ih h with ⟨before, d, after, out', rfl, hbefore, hd, rfl⟩ | ⟨rfl, hcs⟩
      · refine .inl ⟨c :: before, d, after, out', rfl, ?_, hd, rfl⟩
        exact List.forall_mem_cons.mpr ⟨⟨ms, hrejected⟩, hbefore⟩
      · exact .inr ⟨rfl, List.forall_mem_cons.mpr ⟨⟨ms, hrejected⟩, hcs⟩⟩

theorem chosen_of_choose {cs : List Candidate} {outcome : Option FieldOutcome}
    (h : choose compare scope none cs = .ok outcome) : Chosen compare scope cs outcome := by
  cases cs with
  | nil =>
    rw [choose] at h
    cases h
    exact .none
  | cons c cs =>
    rw [choose] at h
    split at h
    · cases h
    · next out hc =>
      cases h
      have hnone : ∀ b ∈ ([] : List Candidate), ∃ ms, Rejected compare scope b ms := nofun
      exact .passed hnone hc
    · next ms out hne hc =>
      -- The first candidate of all becomes the fallback.
      have hrejected : Rejected compare scope c ms := ⟨hne, out, hc⟩
      rcases choose_eq_ok h with ⟨before, d, after, out', rfl, hbefore, hd, rfl⟩ | ⟨rfl, hcs⟩
      · rw [← List.cons_append]
        exact .passed (List.forall_mem_cons.mpr ⟨⟨ms, hrejected⟩, hbefore⟩) hd
      · exact .failed hrejected hcs

/-- Candidates that are rejected are passed over; the first of all stays to fall back to. -/
theorem choose_of_rejected {before : List Candidate}
    (h : ∀ b ∈ before, ∃ ms, Rejected compare scope b ms) (fallback : Option FieldOutcome)
    (rest : List Candidate) :
    ∃ fallback', choose compare scope fallback (before ++ rest) =
        choose compare scope fallback' rest ∧ (fallback.isSome = true → fallback' = fallback) := by
  induction before generalizing fallback with
  | nil => exact ⟨fallback, rfl, fun _ => rfl⟩
  | cons b before ih =>
    rw [List.forall_mem_cons] at h
    obtain ⟨⟨ms, hne, out, hb⟩, hbefore⟩ := h
    obtain ⟨m, ms, rfl⟩ := List.exists_cons_of_ne_nil hne
    obtain ⟨fallback', hrest, hkept⟩ :=
      ih hbefore (fallback <|> some ⟨some b.index, m :: ms, scope⟩)
    refine ⟨fallback', ?_, fun hsome => ?_⟩
    · rw [List.cons_append, choose, hb]
      exact hrest
    · cases fallback with
      | none => cases hsome
      | some outcome => exact hkept rfl

theorem choose_of_passed {before after : List Candidate} {c : Candidate} {out : Scope}
    (hbefore : ∀ b ∈ before, ∃ ms, Rejected compare scope b ms)
    (hc : compare (scope.bindAll c.captures) c.value = .ok ([], out)) :
    choose compare scope none (before ++ c :: after) = .ok (some ⟨some c.index, [], out⟩) := by
  obtain ⟨fallback, hchoose, _⟩ := choose_of_rejected hbefore none (c :: after)
  rw [hchoose, choose, hc]

theorem choose_of_failed {c : Candidate} {rest : List Candidate} {ms : List Mismatch}
    (hc : Rejected compare scope c ms) (hrest : ∀ b ∈ rest, ∃ ms, Rejected compare scope b ms) :
    choose compare scope none (c :: rest) = .ok (some ⟨some c.index, ms, scope⟩) := by
  obtain ⟨hne, out, hc⟩ := hc
  obtain ⟨m, ms, rfl⟩ := List.exists_cons_of_ne_nil hne
  obtain ⟨fallback, hchoose, hkept⟩ :=
    choose_of_rejected hrest (some ⟨some c.index, m :: ms, scope⟩) []
  rw [List.append_nil, hkept rfl] at hchoose
  rw [choose, hc]
  exact hchoose

/-- What settling a field does, by its candidates. -/
inductive Settled (c : Config) (path : Pointer) (key : String)
    (compare : Scope → Json.Value → Result) (slots : List Slot) (scope : Scope) :
    FieldOutcome → Prop
  | chosen {template : Synthesis} {cs : List Candidate} {outcome : FieldOutcome} :
    synthesize c path scope key = .ok template → Candidate.list key template slots = cs →
      Chosen compare scope cs (some outcome) → Settled c path key compare slots scope outcome
  | missing {template : Synthesis} :
    synthesize c path scope key = .ok template → Candidate.list key template slots = [] →
      Settled c path key compare slots scope
        ⟨none, [⟨path, .missingField, key, Mismatch.absent⟩], scope⟩

namespace Settled

variable {c : Config} {path : Pointer} {key : String} {slots : List Slot} {outcome : FieldOutcome}

theorem of_settle (h : settle c path key compare slots scope = .ok outcome) :
    Settled c path key compare slots scope outcome := by
  rw [settle] at h
  split at h
  · cases h
  · next template htemplate =>
    split at h
    · cases h
    · next hchoose =>
      cases h
      exact .chosen htemplate rfl (chosen_of_choose hchoose)
    · next hchoose =>
      cases h
      generalize hcs : Candidate.list key template slots = cs at hchoose
      cases chosen_of_choose hchoose
      exact .missing htemplate hcs

theorem settle_eq (h : Settled c path key compare slots scope outcome) :
    settle c path key compare slots scope = .ok outcome := by
  cases h with
  | missing htemplate hlist => simp only [settle, htemplate, hlist, choose]
  | @chosen template cs _ htemplate hlist hchosen =>
    have hchoose : choose compare scope none cs = .ok (some outcome) := by
      cases hchosen with
      | passed hbefore hc => exact choose_of_passed hbefore hc
      | failed hrejected hrest => exact choose_of_failed hrejected hrest
    simp only [settle, htemplate, hlist, hchoose]

/-- A settled field claims one of its candidates. -/
theorem exists_candidate (h : Settled c path key compare slots scope outcome) {index : Nat}
    (hi : outcome.claimed = some index) :
    ∃ template, synthesize c path scope key = .ok template ∧
      ∃ candidate ∈ Candidate.list key template slots, candidate.index = index := by
  cases h with
  | missing => cases hi
  | chosen htemplate hcs hchosen =>
    refine ⟨_, htemplate, ?_⟩
    rw [hcs]
    cases hchosen with
    | passed => exact ⟨_, List.mem_append_right _ List.mem_cons_self, Option.some.inj hi⟩
    | failed => exact ⟨_, List.mem_cons_self, Option.some.inj hi⟩

/-- A settled field claims a free field of the actual object. -/
theorem claimed_free (h : Settled c path key compare slots scope outcome) {index : Nat}
    (hi : outcome.claimed = some index) : Slot.FreeAt slots index := by
  obtain ⟨template, _, candidate, hmem, rfl⟩ := h.exists_candidate hi
  obtain ⟨slot, hslot, htaken, _⟩ := Candidate.fits_of_mem_list hmem
  exact ⟨slot, hslot, htaken⟩

/-- A field that is settled without a mismatch is answered by a candidate that passes. -/
theorem passed (h : Settled c path key compare slots scope outcome)
    (hpassed : outcome.mismatches = []) :
    ∃ (template : Synthesis) (candidate : Candidate),
      synthesize c path scope key = .ok template ∧ candidate.Fits key template slots ∧
      outcome.claimed = some candidate.index ∧
      compare (scope.bindAll candidate.captures) candidate.value = .ok ([], outcome.scope) := by
  cases h with
  | missing => cases hpassed
  | chosen htemplate hcs hchosen =>
    cases hchosen with
    | passed _ hc =>
      refine ⟨_, _, htemplate, Candidate.fits_of_mem_list ?_, rfl, hc⟩
      rw [hcs]
      exact List.mem_append_right _ List.mem_cons_self
    | failed hrejected => exact absurd hpassed hrejected.1

/-- With a mismatch the scope is left as it was. -/
theorem scope_eq (h : Settled c path key compare slots scope outcome)
    (hfailed : outcome.mismatches ≠ []) : outcome.scope = scope := by
  cases h with
  | missing => rfl
  | chosen _ _ hchosen =>
    cases hchosen with
    | passed => exact absurd rfl hfailed
    | failed => rfl

/-- If comparing a value keeps a relation, settling its field does. -/
theorem kept (h : Settled c path key compare slots scope outcome) {P : String → Prop}
    {R : Scope → Scope → Prop} (hR : KeptByCaptures c P R) (hP : P key)
    (hcompare : ∀ s a ms out, compare s a = .ok (ms, out) → R s out) : R scope outcome.scope := by
  by_cases hpassed : outcome.mismatches = []
  · obtain ⟨template, candidate, htemplate, hfits, _, hc⟩ := h.passed hpassed
    exact hR.trans (hfits.kept htemplate hR hP) (hcompare _ _ _ _ hc)
  · rw [h.scope_eq hpassed]
    exact hR.refl scope

theorem grows (h : Settled c path key compare slots scope outcome)
    (hcompare : ∀ s a ms out, compare s a = .ok (ms, out) → s.Extends out) :
    scope.Extends outcome.scope :=
  h.kept (extends_keptByCaptures c) trivial hcompare

end Settled

end Walk

end TemplateMatch
