import TemplateMatch.Proofs.Walk.Nodes

/-!
Where the symbols lie does not matter. Two scopes may have the same symbols in sight in the same
order, one of them as captured and the other in its table. A comparison then comes out alike in
both, under whatever path it is reported, and leaves scopes of which the same holds
(`isAlike`).
-/

namespace TemplateMatch

namespace Scope

/-- All symbols in sight, those of the table first. -/
def entries (s : Scope) : List (String × String) := s.base.entries ++ s.pending.entries

theorem bindings_eq_lookup {s : Scope} (hn : (s.entries.map Prod.fst).Nodup) (name : String) :
    s.bindings name = s.entries.lookup name := by
  rw [entries, List.map_append, List.nodup_append] at hn
  obtain ⟨_, _, hapart⟩ := hn
  rw [bindings, SymbolTable.get?_eq_lookup, SymbolTable.get?_eq_lookup, entries,
    List.lookup_append]
  cases hpending : s.pending.entries.lookup name with
  | none => cases s.base.entries.lookup name <;> rfl
  | some value =>
    -- A captured name is not in the table.
    have hbase : s.base.entries.lookup name = none := by
      rw [lookup_eq_none]
      intro hmem
      exact hapart _ hmem _ (List.mem_map_of_mem (f := Prod.fst) (mem_of_lookup hpending)) rfl
    rw [hbase]
    rfl

theorem entries_bindAll {s : Scope} {captures : List (String × String)}
    (h : ∀ c ∈ captures, s.bindings c.1 = none) :
    (s.bindAll captures).entries = s.entries ++ lastWriteWins captures := by
  rw [entries, entries, pending_bindAll h, base_bindAll, List.append_assoc]

/-- The same symbols are in sight in the same order, and no name twice. -/
structure SameSymbols (s t : Scope) : Prop where
  entries_eq : s.entries = t.entries
  nodup : (s.entries.map Prod.fst).Nodup

namespace SameSymbols

variable {s t : Scope}

theorem ofTable (table : SymbolTable) : (Scope.ofTable table).SameSymbols (.ofTable table) := by
  refine ⟨rfl, ?_⟩
  change ((table.entries ++ []).map Prod.fst).Nodup
  rw [List.append_nil]
  exact table.nodup

theorem symm (h : s.SameSymbols t) : t.SameSymbols s := ⟨h.entries_eq.symm, h.entries_eq ▸ h.nodup⟩

theorem refl_left (h : s.SameSymbols t) : s.SameSymbols s := ⟨rfl, h.nodup⟩

theorem bindings_eq (h : s.SameSymbols t) : s.bindings = t.bindings := by
  funext name
  have hn := h.nodup
  rw [bindings_eq_lookup hn, h.entries_eq, ← bindings_eq_lookup (h.entries_eq ▸ hn)]

/-- New symbols are added at the end, in whichever layer they come to lie. -/
theorem bindAll (h : s.SameSymbols t) {captures : List (String × String)}
    (hnew : ∀ c ∈ captures, s.bindings c.1 = none) :
    (s.bindAll captures).SameSymbols (t.bindAll captures) := by
  refine ⟨?_, ?_⟩
  · rw [entries_bindAll hnew, entries_bindAll (h.bindings_eq ▸ hnew), h.entries_eq]
  · rw [entries_bindAll hnew, List.map_append, List.nodup_append]
    refine ⟨h.nodup, ?_, ?_⟩
    · rw [← SymbolTable.entries_ofPairs]
      exact (SymbolTable.ofPairs captures).nodup
    · rintro name hname _ hcaptured rfl
      obtain ⟨c, hc, rfl⟩ := List.mem_map.mp (mem_map_fst_lastWriteWins.mp hcaptured)
      have hfree := hnew c hc
      rw [bindings_eq_lookup h.nodup, lookup_eq_none] at hfree
      exact hfree hname

end SameSymbols

end Scope

/-- What a candidate's name captures is new. -/
theorem Candidate.unbound_of_mem_list {c : Config} {path : Pointer} {scope : Scope} {key : String}
    {template : Synthesis} {slots : List Slot} {candidate : Candidate}
    (hs : Walk.synthesize c path scope key = .ok template)
    (h : candidate ∈ list key template slots) :
    ∀ e ∈ candidate.captures, scope.bindings e.1 = none := by
  obtain ⟨slot, _, _, _, ⟨_, hown⟩ | hcaptures⟩ := fits_of_mem_list h
  · rw [hown]
    cases hc : template.captures key with
    | none => exact fun e he => absurd he List.not_mem_nil
    | some captures => exact Synthesis.captures_unbound (Walk.synthesize_eq_ok hs) hc
  · exact Synthesis.captures_unbound (Walk.synthesize_eq_ok hs) hcaptures

namespace Walk

/-- Both fail, or both succeed with results that are related. -/
inductive Both {α : Type} (related : α → α → Prop) :
    Except CompareError α → Except CompareError α → Prop
  | error {e e' : CompareError} : Both related (.error e) (.error e')
  | ok {x y : α} : related x y → Both related (.ok x) (.ok y)

/-- Both reports are empty or neither is. -/
def SameVerdict (ms ms' : List Mismatch) : Prop := ms = [] ↔ ms' = []

/-- What two comparisons of the same nodes give: the same verdict and the same symbols. -/
def SameRun (r r' : List Mismatch × Scope) : Prop :=
  SameVerdict r.1 r'.1 ∧ r.2.SameSymbols r'.2

/-- What two searches for the same field give. -/
structure SameOutcome (o o' : FieldOutcome) : Prop where
  claimed : o.claimed = o'.claimed
  verdict : SameVerdict o.mismatches o'.mismatches
  symbols : o.scope.SameSymbols o'.scope

/-- What two passes over the same fields give. -/
structure SamePass (p p' : List (List Mismatch) × List Slot × Scope) : Prop where
  verdicts : List.Forall₂ SameVerdict p.1 p'.1
  slots : p.2.1 = p'.2.1
  symbols : p.2.2.SameSymbols p'.2.2

namespace SameVerdict

theorem append {ms ms' ns ns' : List Mismatch} (h : SameVerdict ms ms') (h' : SameVerdict ns ns') :
    SameVerdict (ms ++ ns) (ms' ++ ns') := by
  rw [SameVerdict, List.append_eq_nil_iff, List.append_eq_nil_iff]
  exact and_congr h h'

theorem cons (m m' : Mismatch) (ms ms' : List Mismatch) : SameVerdict (m :: ms) (m' :: ms') :=
  ⟨nofun, nofun⟩

theorem unexpected (path path' : Pointer) (slots : List Slot) :
    SameVerdict (unexpected path slots) (Walk.unexpected path' slots) := by
  rw [SameVerdict, Walk.unexpected, Walk.unexpected, List.map_eq_nil_iff, List.map_eq_nil_iff]

end SameVerdict

variable {c : Config} {s t : Scope} (path path' : Pointer)

theorem Both.cases_eq {α : Type} {related : α → α → Prop} {r r' : Except CompareError α}
    (h : Both related r r') :
    (∃ e e', r = .error e ∧ r' = .error e') ∨
      ∃ x y, r = .ok x ∧ r' = .ok y ∧ related x y := by
  cases h with
  | error => exact .inl ⟨_, _, rfl, rfl⟩
  | ok h => exact .inr ⟨_, _, rfl, rfl, h⟩

theorem Both.map {α β : Type} {related : α → α → Prop} {related' : β → β → Prop}
    {r r' : Except CompareError α} {f g : α → β} (h : Both related r r')
    (hmap : ∀ x y, related x y → related' (f x) (g y)) : Both related' (r.map f) (r'.map g) := by
  cases h with
  | error => exact .error
  | ok h => exact .ok (hmap _ _ h)

theorem Both.symm {r r' : Result} (h : Both SameRun r r') : Both SameRun r' r := by
  cases h with
  | error => exact .error
  | ok h => exact .ok ⟨h.1.symm, h.2.symm⟩

theorem Both.exists_passed {r r' : Result} {out : Scope} (h : Both SameRun r r')
    (hr : r = .ok ([], out)) : ∃ out', r' = .ok ([], out') ∧ out.SameSymbols out' := by
  subst hr
  obtain ⟨_, _, hr, _, _⟩ | ⟨_, ⟨ms', out'⟩, hr, rfl, hverdict, hsymbols⟩ := h.cases_eq
  · cases hr
  · cases hr
    obtain rfl : ms' = [] := hverdict.mp rfl
    exact ⟨out', rfl, hsymbols⟩

/-! ## Leaves -/

theorem both_synthesize (h : s.SameSymbols t) (template : String) :
    Both (· = ·) (synthesize c path s template) (synthesize c path' t template) := by
  rw [synthesize, synthesize, h.bindings_eq]
  cases Synthesis.ofTemplate c.templateOptions t.bindings template with
  | error e => exact .error
  | ok x => exact .ok rfl

theorem both_compareText (h : s.SameSymbols t) (template text : String) :
    Both SameRun (compareText c path s template text) (compareText c path' t template text) := by
  rw [compareText, compareText]
  rcases (both_synthesize (c := c) path path' h template).cases_eq with
    ⟨_, _, hs, ht⟩ | ⟨x, _, hs, ht, rfl⟩
  · rw [hs, ht]
    exact .error
  · rw [hs, ht]
    simp only
    cases hc : x.captures text with
    | none => exact .ok ⟨.cons _ _ _ _, h⟩
    | some captures =>
      exact .ok ⟨Iff.rfl, h.bindAll (Synthesis.captures_unbound (synthesize_eq_ok hs) hc)⟩

theorem both_compareLeaf (h : s.SameSymbols t) (e a : Json.Value) :
    Both SameRun (compareLeaf c path s e a) (compareLeaf c path' t e a) := by
  unfold compareLeaf
  split
  · exact .ok ⟨Iff.rfl, h⟩
  · split
    · exact both_compareText path path' h _ _
    · exact .ok ⟨.cons _ _ _ _, h⟩
  · split
    · exact .ok ⟨Iff.rfl, h⟩
    · exact .ok ⟨.cons _ _ _ _, h⟩
  · split
    · exact .ok ⟨Iff.rfl, h⟩
    · exact .ok ⟨.cons _ _ _ _, h⟩
  · exact .ok ⟨.cons _ _ _ _, h⟩

/-! ## Fields -/

/-- Values are compared alike in scopes with the same symbols. -/
def AlikeUnder (compare compare' : Scope → Json.Value → Result) : Prop :=
  ∀ s t a, s.SameSymbols t → Both SameRun (compare s a) (compare' t a)

theorem both_choose {compare compare' : Scope → Json.Value → Result}
    (hcompare : AlikeUnder compare compare') (h : s.SameSymbols t) {cs : List Candidate}
    (hnew : ∀ candidate ∈ cs, ∀ e ∈ candidate.captures, s.bindings e.1 = none)
    {fallback fallback' : Option FieldOutcome}
    (hfallback : Option.Rel SameOutcome fallback fallback') :
    Both (Option.Rel SameOutcome) (choose compare s fallback cs)
      (choose compare' t fallback' cs) := by
  induction cs generalizing fallback fallback' with
  | nil => exact .ok hfallback
  | cons candidate cs ih =>
    rw [List.forall_mem_cons] at hnew
    rw [choose, choose]
    rcases (hcompare _ _ candidate.value (h.bindAll hnew.1)).cases_eq with
      ⟨_, _, hs, ht⟩ | ⟨⟨ms, out⟩, ⟨ms', out'⟩, hs, ht, hverdict, hsymbols⟩
    · rw [hs, ht]
      exact .error
    · rw [hs, ht]
      cases ms with
      | nil =>
        obtain rfl : ms' = [] := hverdict.mp rfl
        exact .ok (.some ⟨rfl, Iff.rfl, hsymbols⟩)
      | cons m ms =>
        cases ms' with
        | nil => exact absurd (hverdict.mpr rfl) (List.cons_ne_nil m ms)
        | cons m' ms' =>
          -- What the candidate left behind is dropped in both.
          refine ih hnew.2 ?_
          cases hfallback with
          | none => exact .some ⟨rfl, .cons _ _ _ _, h⟩
          | some hsame => exact .some hsame

theorem both_settle (key : String) {compare compare' : Scope → Json.Value → Result}
    (hcompare : AlikeUnder compare compare') (h : s.SameSymbols t) (slots : List Slot) :
    Both SameOutcome (settle c path key compare slots s)
      (settle c path' key compare' slots t) := by
  rw [settle, settle]
  rcases (both_synthesize (c := c) path path' h key).cases_eq with
    ⟨_, _, hs, ht⟩ | ⟨template, _, hs, ht, rfl⟩
  · rw [hs, ht]
    exact .error
  · rw [hs, ht]
    have hnew (candidate : Candidate) (hmem : candidate ∈ Candidate.list key template slots) :=
      Candidate.unbound_of_mem_list hs hmem
    rcases (both_choose hcompare h hnew .none).cases_eq with
      ⟨_, _, hchoose, hchoose'⟩ | ⟨_, _, hchoose, hchoose', hsame⟩
    · simp only [hchoose, hchoose']
      exact .error
    · simp only [hchoose, hchoose']
      cases hsame with
      | none => exact .ok ⟨rfl, .cons _ _ _ _, h⟩
      | some hsame => exact .ok hsame

/-- The comparison of a node comes out alike in scopes with the same symbols. -/
def IsAlike (c : Config) (e a : Json.Value) : Prop :=
  ∀ path path' s t, s.SameSymbols t →
    Both SameRun (compareNode c path s e a) (compareNode c path' t e a)

theorem both_compareFields (wanted : String → Bool) {fields : List (String × Json.Value)}
    (hfields : ∀ f ∈ fields, ∀ a, IsAlike c f.2 a) (h : s.SameSymbols t) (slots : List Slot) :
    Both SamePass (compareFields c path wanted fields slots s)
      (compareFields c path' wanted fields slots t) := by
  induction fields generalizing s t slots with
  | nil => exact .ok ⟨.nil, rfl, h⟩
  | cons f fields ih =>
    rw [List.forall_mem_cons] at hfields
    cases hwanted : wanted f.1 with
    | false =>
      rw [compareFields_skip hwanted, compareFields_skip hwanted]
      exact (ih hfields.2 h slots).map
        fun p p' h => ⟨.cons Iff.rfl h.verdicts, h.slots, h.symbols⟩
    | true =>
      have hcompare : AlikeUnder (compareField c path f.1 f.2) (compareField c path' f.1 f.2) :=
        fun s t a hst => hfields.1 a _ _ s t hst
      rcases (both_settle (c := c) (path.child (.field f.1)) (path'.child (.field f.1)) f.1
        hcompare h slots).cases_eq with ⟨_, _, hs, ht⟩ | ⟨outcome, outcome', hs, ht, hsame⟩
      · rw [compareFields_settle_error hwanted hs, compareFields_settle_error hwanted ht]
        exact .error
      · rw [compareFields_settle hwanted hs, compareFields_settle hwanted ht, ← hsame.claimed]
        exact (ih hfields.2 hsame.symbols (Slot.claim slots outcome.claimed)).map
          fun p p' h => ⟨.cons hsame.verdict h.verdicts, h.slots, h.symbols⟩

/-! ## Trees -/

theorem both_compareItems (index index' : Nat) {es : List Json.Value} (as : List Json.Value)
    (hitems : ∀ e ∈ es, ∀ a, IsAlike c e a) (h : s.SameSymbols t) :
    Both SameRun (compareItems c path index s es as) (compareItems c path' index' t es as) := by
  induction es generalizing index index' s t as with
  | nil => exact .ok ⟨Iff.rfl, h⟩
  | cons e es ih =>
    cases as with
    | nil => exact .ok ⟨Iff.rfl, h⟩
    | cons a as =>
      rw [List.forall_mem_cons] at hitems
      rw [compareItems, compareItems]
      rcases (hitems.1 a (path.child (.item index)) (path'.child (.item index')) s t h).cases_eq
        with ⟨_, _, hs, ht⟩ | ⟨_, _, hs, ht, hverdict, hsymbols⟩
      · rw [hs, ht]
        exact .error
      · rw [hs, ht]
        simp only
        rcases (ih (index + 1) (index' + 1) as hitems.2 hsymbols).cases_eq with
          ⟨_, _, hs, ht⟩ | ⟨_, _, hs, ht, hverdict', hsymbols'⟩
        · rw [hs, ht]
          exact .error
        · rw [hs, ht]
          exact .ok ⟨hverdict.append hverdict', hsymbols'⟩

theorem both_compareArray {es as : List Json.Value} (hitems : ∀ e ∈ es, ∀ a, IsAlike c e a) :
    IsAlike c (.array es) (.array as) := by
  intro path path' s t h
  rw [compareNode, compareNode]
  rcases (both_compareItems path path' 0 0 as hitems h).cases_eq with
    ⟨_, _, hs, ht⟩ | ⟨_, _, hs, ht, hverdict, hsymbols⟩
  · rw [hs, ht]
    exact .error
  · rw [hs, ht]
    simp only
    split
    · exact .ok ⟨hverdict, hsymbols⟩
    · exact .ok ⟨.cons _ _ _ _, hsymbols⟩

/-- The second pass goes on with the same claims and the same symbols. -/
theorem both_compareObject {es as : List (String × Json.Value)}
    (hfields : ∀ f ∈ es, ∀ a, IsAlike c f.2 a) : IsAlike c (.object es) (.object as) := by
  intro path path' s t h
  rw [compareNode_passes, compareNode_passes]
  rcases (both_compareFields path path' (hasField as) hfields h (Slot.ofFields as)).cases_eq with
    ⟨_, _, hs, ht⟩ | ⟨⟨named, slots, mid⟩, ⟨named', _, mid'⟩, hs, ht, hnamed, rfl, hmid⟩
  · rw [hs, ht]
    exact .error
  rw [hs, ht]
  simp only
  rcases (both_compareFields path path' (fun key => !hasField as key) hfields hmid slots).cases_eq
    with ⟨_, _, hs, ht⟩ | ⟨⟨templated, slots', out⟩, ⟨templated', _, out'⟩, hs, ht, htemplated, rfl,
      hout⟩
  · rw [hs, ht]
    exact .error
  rw [hs, ht]
  refine .ok ⟨(flatten_related Iff.rfl (fun _ _ _ _ => .append) hnamed htemplated).append ?_, hout⟩
  split
  · exact .unexpected path path' slots'
  · exact Iff.rfl

/-- A comparison comes out alike under any path and in any scope with the same symbols. -/
theorem isAlike (e a : Json.Value) : IsAlike c e a := by
  induction e, a using Json.Value.induction₂ with
  | leaf e a harrays hobjects =>
    intro path path' s t h
    rw [compareNode_of_leaf harrays hobjects, compareNode_of_leaf harrays hobjects]
    exact both_compareLeaf path path' h e a
  | array es as ih => exact both_compareArray ih
  | object es as ih => exact both_compareObject ih

end Walk

end TemplateMatch
