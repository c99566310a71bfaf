import TemplateMatch.Proofs.Walk.Differences

/-!
The order of the fields of the actual tree. Where the keys have no placeholder, are taken verbatim
and with case observed, each is answered by the field of its own name wherever that stands, so two
actual trees that differ in the order of fields alone compare alike (`ofJson_reordered`): only the
unexpected fields of an object are reported in the order in which they stand.
-/

namespace TemplateMatch

/-- Two trees that differ at most in the order of fields within their objects, at any depth. -/
inductive Json.Value.Reordered : Json.Value → Json.Value → Prop
  | refl (v : Json.Value) : Reordered v v
  | array {as bs : List Json.Value} :
    List.Forall₂ Reordered as bs → Reordered (.array as) (.array bs)
  | object {as bs : List (String × Json.Value)} :
    (as.map Prod.fst).Perm (bs.map Prod.fst) →
      (∀ f ∈ as, ∀ g ∈ bs, f.1 = g.1 → Reordered f.2 g.2) → Reordered (.object as) (.object bs)

theorem Json.Value.Reordered.of_perm {as bs : List (String × Json.Value)}
    (hn : (as.map Prod.fst).Nodup) (h : as.Perm bs) : Reordered (.object as) (.object bs) := by
  refine .object (h.map _) fun f hf g hg hname => ?_
  -- Fields of one name are the same field.
  obtain rfl : f = g := List.inj_on_of_nodup_map hn hf (h.mem_iff.mpr hg) hname
  exact .refl _

namespace Mismatch

/-- A field of an object that only the actual side has. -/
def extraField (path : Pointer) (name : String) : Mismatch :=
  ⟨path.child (.field name), .unexpectedField, absent, name⟩

/-- Two reports that differ at most in the order of the unexpected fields of one object. -/
inductive SameReport : List Mismatch → List Mismatch → Prop
  | nil : SameReport [] []
  | cons {ms ms' : List Mismatch} (m : Mismatch) :
    SameReport ms ms' → SameReport (m :: ms) (m :: ms')
  | extra {ms ms' : List Mismatch} {names names' : List String} (path : Pointer) :
    names.Perm names' → SameReport ms ms' →
      SameReport (names.map (extraField path) ++ ms) (names'.map (extraField path) ++ ms')

namespace SameReport

variable {ms ms' more more' : List Mismatch}

theorem refl (ms : List Mismatch) : SameReport ms ms := by
  induction ms with
  | nil => exact .nil
  | cons m _ ih => exact .cons m ih

theorem append (h : SameReport ms ms') (h' : SameReport more more') :
    SameReport (ms ++ more) (ms' ++ more') := by
  induction h with
  | nil => exact h'
  | cons m _ ih => exact .cons m ih
  | extra path hnames _ ih =>
    rw [List.append_assoc, List.append_assoc]
    exact .extra path hnames ih

/-- The unexpected fields of one object, in two orders. -/
theorem of_perm (path : Pointer) {names names' : List String} (h : names.Perm names') :
    SameReport (names.map (extraField path)) (names'.map (extraField path)) := by
  simpa using extra path h .nil

theorem perm (h : SameReport ms ms') : ms.Perm ms' := by
  induction h with
  | nil => exact .nil
  | cons m _ ih => exact ih.cons m
  | extra path hnames _ ih => exact (hnames.map _).append ih

theorem eq_nil_iff (h : SameReport ms ms') : ms = [] ↔ ms' = [] :=
  ⟨fun hnil => (hnil ▸ h.perm).nil_eq.symm, fun hnil => (hnil ▸ h.perm).eq_nil⟩

end SameReport

end Mismatch

namespace Walk

open Mismatch

/-- Both fail with the same error, or both succeed with results that are related. -/
inductive Agree {α : Type} (related : α → α → Prop) :
    Except CompareError α → Except CompareError α → Prop
  | error (e : CompareError) : Agree related (.error e) (.error e)
  | ok {x y : α} : related x y → Agree related (.ok x) (.ok y)

namespace Agree

variable {α β : Type} {related : α → α → Prop} {related' : β → β → Prop}
  {r r' : Except CompareError α}

theorem cases_eq (h : Agree related r r') :
    (∃ e, r = .error e ∧ r' = .error e) ∨ ∃ x y, r = .ok x ∧ r' = .ok y ∧ related x y := by
  cases h with
  | error e => exact .inl ⟨e, rfl, rfl⟩
  | ok h => exact .inr ⟨_, _, rfl, rfl, h⟩

theorem map {f g : α → β} (h : Agree related r r')
    (hmap : ∀ x y, related x y → related' (f x) (g y)) : Agree related' (r.map f) (r'.map g) := by
  cases h with
  | error e => exact .error e
  | ok h => exact .ok (hmap _ _ h)

end Agree

/-- What two comparisons of the same node find. -/
structure SameFinding (r r' : List Mismatch × Scope) : Prop where
  report : SameReport r.1 r'.1
  scope : r.2 = r'.2

/-- What settling the same field among the fields of two objects gives, where the same names are
claimed. -/
structure SameSettling (as bs : List (String × Json.Value)) (taken : String → Bool)
    (o o' : FieldOutcome) : Prop where
  report : SameReport o.mismatches o'.mismatches
  scope : o.scope = o'.scope
  claim : ∃ taken', Slot.claim (Slot.marked taken as) o.claimed = Slot.marked taken' as ∧
    Slot.claim (Slot.marked taken bs) o'.claimed = Slot.marked taken' bs

/-- What a pass over the same fields gives. -/
structure SameFieldPass (as bs : List (String × Json.Value))
    (p p' : List (List Mismatch) × List Slot × Scope) : Prop where
  reports : List.Forall₂ SameReport p.1 p'.1
  slots : ∃ taken, p.2.1 = Slot.marked taken as ∧ p'.2.1 = Slot.marked taken bs
  scope : p.2.2 = p'.2.2

theorem SameFinding.refl (r : List Mismatch × Scope) : SameFinding r r := ⟨.refl r.1, rfl⟩

theorem Agree.refl (r : Result) : Agree SameFinding r r := by
  cases r with
  | error e => exact .error e
  | ok r => exact .ok (.refl r)

/-- The keys of an object are templates without placeholders, or no templates at all. -/
def KeysPlain (c : Config) : Json.Value → Prop
  | .object fields =>
    ∀ f ∈ fields, ∀ names, Template.names c.delimiters f.1 = .ok names → names = []
  | _ => True

variable {c : Config} {scope : Scope} (path : Pointer)

/-! ## Fields -/

/-- A key that only its own name satisfies is settled with the field of that name. -/
theorem settle_of_isFixed {key : String} {compare : Scope → Json.Value → Result} {slots : List Slot}
    {template : Synthesis} (hn : (slots.map Slot.name).Nodup)
    (hs : synthesize c path scope key = .ok template) (hfixed : template.IsFixed key) :
    settle c path key compare slots scope =
      match Candidate.own? key slots with
      | none => .ok ⟨none, [⟨path, .missingField, key, absent⟩], scope⟩
      | some (slot, index) =>
        (compare scope slot.value).map fun r =>
          ⟨some index, r.1, if r.1 = [] then r.2 else scope⟩ := by
  have hlist := Candidate.list_of_isFixed hn hfixed
  cases hown : Candidate.own? key slots with
  | none =>
    rw [hown] at hlist
    exact settle_of_absent hs hlist
  | some found =>
    obtain ⟨slot, index⟩ := found
    rw [hown] at hlist
    simp only [settle, hs, hlist, Option.toList_some, List.map_singleton, choose, Scope.bindAll_nil]
    cases hcompare : compare scope slot.value with
    | error e => rfl
    | ok r =>
      obtain ⟨ms, out⟩ := r
      cases ms <;> rfl

/-- A template without placeholders is satisfied by itself alone. -/
theorem isFixed_of_synthesize (hmode : c.templateMode = .literal) (hcase : c.ignoreCase = false)
    {path : Pointer} {key : String} {template : Synthesis}
    (hkey : ∀ names, Template.names c.delimiters key = .ok names → names = [])
    (hs : synthesize c path scope key = .ok template) : template.IsFixed key := by
  obtain ⟨tokens, hlex, _⟩ := Synthesis.of_ofTemplate (synthesize_eq_ok hs)
  have hnames := Template.names_eq_ok hlex
  rw [hkey _ hnames] at hnames
  obtain ⟨s, hs', hfixed⟩ := Synthesis.exists_isFixed_self (o := c.templateOptions) scope.bindings
    hmode hcase hnames
  rw [synthesize_of_eq_ok path hs'] at hs
  cases hs
  exact hfixed

/-- The field of a key that is claimed is not found. -/
theorem own?_marked_of_taken {key : String} {taken : String → Bool}
    {fields : List (String × Json.Value)} (h : taken key = true) :
    Candidate.own? key (Slot.marked taken fields) = none := by
  rw [Option.eq_none_iff_forall_ne_some]
  rintro ⟨slot, index⟩ hown
  obtain ⟨hslot, hfree, hname⟩ := Candidate.own?_eq_some hown
  obtain ⟨f, _, rfl⟩ := Slot.getElem?_marked.mp hslot
  simp only at hfree hname
  rw [hname, h] at hfree
  cases hfree

section

variable {as bs : List (String × Json.Value)}

/-- Two objects have the same names, each once. -/
structure SameNames (as bs : List (String × Json.Value)) : Prop where
  nodup : (as.map Prod.fst).Nodup
  perm : (as.map Prod.fst).Perm (bs.map Prod.fst)

namespace SameNames

theorem nodup_right (h : SameNames as bs) : (bs.map Prod.fst).Nodup := h.perm.nodup_iff.mp h.nodup

theorem lookup_eq_none_iff (h : SameNames as bs) (key : String) :
    as.lookup key = none ↔ bs.lookup key = none := by
  rw [lookup_eq_none, lookup_eq_none, h.perm.mem_iff]

theorem hasField_eq (h : SameNames as bs) : hasField as = hasField bs := by
  funext key
  rw [Bool.eq_iff_iff, hasField, hasField, List.any_eq_true, List.any_eq_true]
  have hmem := h.perm.mem_iff (a := key)
  simpa using hmem

/-- The fields left over have the same names too. -/
theorem unexpected (h : SameNames as bs) (path : Pointer) (taken : String → Bool) :
    SameReport (unexpected path (Slot.marked taken as))
      (Walk.unexpected path (Slot.marked taken bs)) := by
  have hleft (fields : List (String × Json.Value)) :
      Walk.unexpected path (Slot.marked taken fields) =
        ((fields.map Prod.fst).filter fun name => !taken name).map (extraField path) := by
    rw [Walk.unexpected, Slot.marked, List.filter_map, List.filter_map, List.map_map, List.map_map]
    rfl
  rw [hleft, hleft]
  exact .of_perm path (h.perm.filter _)

end SameNames

variable (hmode : c.templateMode = .literal) (hcase : c.ignoreCase = false)

include hmode hcase

/-- A key is settled with the fields of its own name, which have the same place in both accounts. -/
theorem agree_settle (hnames : SameNames as bs) {key : String} (taken : String → Bool)
    {compare : Scope → Json.Value → Result}
    (hkey : ∀ names, Template.names c.delimiters key = .ok names → names = [])
    (hcompare : ∀ a b, (key, a) ∈ as → (key, b) ∈ bs →
      Agree SameFinding (compare scope a) (compare scope b)) :
    Agree (SameSettling as bs taken)
      (settle c path key compare (Slot.marked taken as) scope)
      (settle c path key compare (Slot.marked taken bs) scope) := by
  cases hs : synthesize c path scope key with
  | error e =>
    simp only [settle, hs]
    exact .error e
  | ok template =>
    have hfixed := isFixed_of_synthesize hmode hcase hkey hs
    have hn : ((Slot.marked taken as).map Slot.name).Nodup := by
      rw [Slot.map_name_marked]
      exact hnames.nodup
    have hn' : ((Slot.marked taken bs).map Slot.name).Nodup := by
      rw [Slot.map_name_marked]
      exact hnames.nodup_right
    rw [settle_of_isFixed path hn hs hfixed, settle_of_isFixed path hn' hs hfixed]
    by_cases hfree : taken key = true
    · rw [own?_marked_of_taken hfree, own?_marked_of_taken hfree]
      exact .ok ⟨.refl _, rfl, taken, rfl, rfl⟩
    · rw [Bool.not_eq_true] at hfree
      cases ha : as.lookup key with
      | none =>
        have hb := (hnames.lookup_eq_none_iff key).mp ha
        rw [Slot.own?_marked_of_absent ha, Slot.own?_marked_of_absent hb]
        exact .ok ⟨.refl _, rfl, taken, rfl, rfl⟩
      | some a =>
        obtain ⟨b, hb⟩ : ∃ b, bs.lookup key = some b := by
          rw [← Option.ne_none_iff_exists']
          intro hb
          rw [(hnames.lookup_eq_none_iff key).mpr hb] at ha
          cases ha
        obtain ⟨i, howna, htakea⟩ := Slot.own?_marked hnames.nodup ha hfree
        obtain ⟨j, hownb, htakeb⟩ := Slot.own?_marked hnames.nodup_right hb hfree
        rw [howna, hownb]
        refine (hcompare a b (mem_of_lookup ha) (mem_of_lookup hb)).map fun r r' h => ?_
        refine ⟨h.report, ?_, _, htakea, htakeb⟩
        simp only [h.report.eq_nil_iff, h.scope]

theorem agree_compareFields (hnames : SameNames as bs) (wanted : String → Bool)
    {es : List (String × Json.Value)} (taken : String → Bool)
    (hkeys : ∀ f ∈ es, ∀ names, Template.names c.delimiters f.1 = .ok names → names = [])
    (hvalues : ∀ f ∈ es, ∀ g ∈ as, ∀ g' ∈ bs, g.1 = g'.1 → ∀ path scope,
      Agree SameFinding (compareNode c path scope f.2 g.2) (compareNode c path scope f.2 g'.2)) :
    Agree (SameFieldPass as bs)
      (compareFields c path wanted es (Slot.marked taken as) scope)
      (compareFields c path wanted es (Slot.marked taken bs) scope) := by
  induction es generalizing taken scope with
  | nil => exact .ok ⟨.nil, ⟨taken, rfl, rfl⟩, rfl⟩
  | cons f es ih =>
    rw [List.forall_mem_cons] at hkeys hvalues
    cases hwanted : wanted f.1 with
    | false =>
      rw [compareFields_skip hwanted, compareFields_skip hwanted]
      exact (ih taken hkeys.2 hvalues.2).map fun p p' h => ⟨.cons .nil h.reports, h.slots, h.scope⟩
    | true =>
      have hcompare : ∀ a b, (f.1, a) ∈ as → (f.1, b) ∈ bs →
          Agree SameFinding (compareField c path f.1 f.2 scope a)
            (compareField c path f.1 f.2 scope b) :=
        fun a b ha hb => hvalues.1 _ ha _ hb rfl _ _
      rcases (agree_settle (path.child (.field f.1)) hmode hcase hnames taken hkeys.1
        hcompare).cases_eq with
        ⟨e, ha, hb⟩ | ⟨o, o', ha, hb, hreport, hscope, taken', hclaim, hclaim'⟩
      · rw [compareFields_settle_error hwanted ha, compareFields_settle_error hwanted hb]
        exact .error e
      · rw [compareFields_settle hwanted ha, compareFields_settle hwanted hb, hclaim, hclaim',
          hscope]
        exact (ih taken' hkeys.2 hvalues.2).map
          fun p p' h => ⟨.cons hreport h.reports, h.slots, h.scope⟩

end

/-! ## Trees -/

theorem agree_compareItems (index : Nat) {es as bs : List Json.Value}
    (hitems : ∀ e ∈ es, ∀ a b, a ∈ as → b ∈ bs → a.Reordered b → ∀ path scope,
      Agree SameFinding (compareNode c path scope e a) (compareNode c path scope e b))
    (h : List.Forall₂ Json.Value.Reordered as bs) :
    Agree SameFinding (compareItems c path index scope es as)
      (compareItems c path index scope es bs) := by
  induction h generalizing index scope es with
  | nil => exact .refl _
  | @cons a b as bs hab _ ih =>
    cases es with
    | nil => exact .refl _
    | cons e es =>
      rw [List.forall_mem_cons] at hitems
      rw [compareItems, compareItems]
      rcases (hitems.1 a b List.mem_cons_self List.mem_cons_self hab (path.child (.item index))
        scope).cases_eq with ⟨err, ha, hb⟩ | ⟨r, r', ha, hb, hreport, hscope⟩
      · rw [ha, hb]
        exact .error err
      · have hrest := @ih r.2 (index + 1) es fun e he a b ha hb =>
          hitems.2 e he a b (List.mem_cons_of_mem _ ha) (List.mem_cons_of_mem _ hb)
        rw [ha, hb]
        simp only [← hscope]
        rcases hrest.cases_eq with ⟨err, ha, hb⟩ | ⟨q, q', ha, hb, hmore, hout⟩
        · rw [ha, hb]
          exact .error err
        · rw [ha, hb]
          exact .ok ⟨hreport.append hmore, hout⟩

/-- A leaf does not look into arrays or objects. -/
theorem compareLeaf_reordered {e a b : Json.Value} (h : a.Reordered b) :
    compareLeaf c path scope e a = compareLeaf c path scope e b := by
  cases h with
  | refl => rfl
  | array => cases e <;> rfl
  | object => cases e <;> rfl

theorem agree_compareArray {es as bs : List Json.Value}
    (hitems : ∀ e ∈ es, ∀ a b, a ∈ as → b ∈ bs → a.Reordered b → ∀ path scope,
      Agree SameFinding (compareNode c path scope e a) (compareNode c path scope e b))
    (h : List.Forall₂ Json.Value.Reordered as bs) :
    Agree SameFinding (compareNode c path scope (.array es) (.array as))
      (compareNode c path scope (.array es) (.array bs)) := by
  have hcompare : Agree SameFinding (compareItems c path 0 scope es as)
      (compareItems c path 0 scope es bs) := agree_compareItems path 0 hitems h
  rw [compareNode, compareNode, h.length_eq]
  rcases hcompare.cases_eq with ⟨err, ha, hb⟩ | ⟨r, r', ha, hb, hreport, hscope⟩
  · rw [ha, hb]
    exact .error err
  · rw [ha, hb]
    simp only
    split
    · exact .ok ⟨hreport, hscope⟩
    · exact .ok ⟨.cons _ hreport, hscope⟩

/-- Both passes agree, the second from where the first left off. -/
theorem agree_compareObject (hmode : c.templateMode = .literal) (hcase : c.ignoreCase = false)
    {es as bs : List (String × Json.Value)} (hnames : SameNames as bs)
    (hkeys : ∀ f ∈ es, ∀ names, Template.names c.delimiters f.1 = .ok names → names = [])
    (hvalues : ∀ f ∈ es, ∀ g ∈ as, ∀ g' ∈ bs, g.1 = g'.1 → ∀ path scope,
      Agree SameFinding (compareNode c path scope f.2 g.2) (compareNode c path scope f.2 g'.2)) :
    Agree SameFinding (compareNode c path scope (.object es) (.object as))
      (compareNode c path scope (.object es) (.object bs)) := by
  have hpass (wanted taken : String → Bool) (scope : Scope) :
      Agree (SameFieldPass as bs)
        (compareFields c path wanted es (Slot.marked taken as) scope)
        (compareFields c path wanted es (Slot.marked taken bs) scope) :=
    agree_compareFields path hmode hcase hnames wanted taken hkeys hvalues
  rw [compareNode_passes, compareNode_passes, ← hnames.hasField_eq, Slot.ofFields_eq_marked,
    Slot.ofFields_eq_marked]
  rcases (hpass (hasField as) (fun _ => false) scope).cases_eq with
    ⟨err, ha, hb⟩ | ⟨⟨named, slots, mid⟩, ⟨named', slots', mid'⟩, ha, hb, hnamed, hslots, hmid⟩
  · rw [ha, hb]
    exact .error err
  obtain ⟨taken, rfl, rfl⟩ := hslots
  obtain rfl : mid = mid' := hmid
  rw [ha, hb]
  simp only
  rcases (hpass (fun key => !hasField as key) taken mid).cases_eq with
    ⟨err, ha, hb⟩ | ⟨⟨templated, slots, out⟩, ⟨templated', slots', out'⟩, ha, hb, htemplated,
      hslots, hout⟩
  · rw [ha, hb]
    exact .error err
  obtain ⟨taken', rfl, rfl⟩ := hslots
  rw [ha, hb]
  refine .ok ⟨(flatten_related .nil (fun _ _ _ _ => .append) hnamed htemplated).append ?_, hout⟩
  split
  · exact hnames.unexpected path taken'
  · exact .nil

/-- Where the keys have no placeholder, the order of the fields of the actual tree decides about
the order of unexpected fields and nothing else. -/
theorem agree_compareNode (hmode : c.templateMode = .literal) (hcase : c.ignoreCase = false)
    {e a b : Json.Value} (hkeys : e.Everywhere (KeysPlain c)) (ha : a.DistinctKeys)
    (h : a.Reordered b) :
    Agree SameFinding (compareNode c path scope e a) (compareNode c path scope e b) := by
  induction e using Json.Value.induction generalizing path scope a b with
  | leaf e hitems hfields =>
    rw [compareNode_of_leaf (fun es _ he => absurd he (hitems es))
        (fun es _ he => absurd he (hfields es)),
      compareNode_of_leaf (fun es _ he => absurd he (hitems es))
        (fun es _ he => absurd he (hfields es)), compareLeaf_reordered path h]
    exact .refl _
  | array es ih =>
    cases h with
    | refl => exact .refl _
    | object hperm hvalues =>
      rw [compareNode_of_leaf (by simp) (by simp), compareNode_of_leaf (by simp) (by simp)]
      exact .refl _
    | array hab =>
      exact agree_compareArray path (fun e he a b hmem _ hreordered path scope =>
        ih e he path (hkeys.item he) (ha.item hmem) hreordered) hab
  | object es ih =>
    cases h with
    | refl => exact .refl _
    | array =>
      rw [compareNode_of_leaf (by simp) (by simp), compareNode_of_leaf (by simp) (by simp)]
      exact .refl _
    | object hperm hvalues =>
      exact agree_compareObject path hmode hcase ⟨ha.self, hperm⟩ hkeys.self
        fun f hf g hg g' hg' hname path scope =>
          ih f hf path (hkeys.field hf) (ha.field hg) (hvalues g hg g' hg' hname)

end Walk

/-- What two comparisons with the same expected document come to. -/
structure SameComparison (r r' : Comparison) : Prop where
  verdict : r.isMatch = r'.isMatch
  captured : r.captured = r'.captured
  report : Mismatch.SameReport r.mismatches r'.mismatches

theorem Walk.SameFinding.finish {r r' : List Mismatch × Scope} (h : Walk.SameFinding r r') :
    SameComparison (Walk.finish r) (Walk.finish r') := by
  obtain ⟨ms, out⟩ := r
  obtain ⟨ms', out'⟩ := r'
  obtain ⟨hreport, hscope⟩ := h
  simp only at hreport hscope
  subst hscope
  cases ms with
  | nil =>
    obtain rfl : ms' = [] := hreport.eq_nil_iff.mp rfl
    exact ⟨rfl, rfl, hreport⟩
  | cons m ms =>
    cases ms' with
    | nil => exact absurd (hreport.eq_nil_iff.mpr rfl) (List.cons_ne_nil m ms)
    | cons m' ms' => exact ⟨rfl, rfl, hreport⟩

/-- Verbatim and with case observed, where the keys of the expected tree have no placeholder, the
order of the fields of the actual tree decides about the order of the unexpected fields of each
object and about nothing else. -/
theorem ofJson_reordered {c : Config} {symbols : SymbolTable}
    {expected actual reordered : Document} {e a b : Json.Value} (hmode : c.templateMode = .literal)
    (hcase : c.ignoreCase = false) (he : expected.tree = .ok e) (ha : actual.tree = .ok a)
    (hb : reordered.tree = .ok b) (hmaps : actual.IsMaps)
    (hkeys : e.Everywhere (Walk.KeysPlain c)) (h : a.Reordered b) :
    Walk.Agree SameComparison (Comparison.ofJson c symbols expected actual)
      (Comparison.ofJson c symbols expected reordered) := by
  rw [Comparison.ofJson_eq he ha, Comparison.ofJson_eq he hb]
  have hactual := Document.distinctKeys_of_tree hmaps ha
  exact (Walk.agree_compareNode .root hmode hcase hkeys hactual h).map
    fun _ _ => Walk.SameFinding.finish

/-- Two fields that are not expected, and between them one that captures. -/
theorem ofJson_reordered_strict :
    Walk.Agree SameComparison
      (Comparison.ofJson ⟨.strict, false, .standard, .literal⟩ .empty
        (.json (.object [("k", .string "~[v]")]))
        (.json (.object [("x", .null), ("k", .string "1"), ("y", .null)])))
      (Comparison.ofJson ⟨.strict, false, .standard, .literal⟩ .empty
        (.json (.object [("k", .string "~[v]")]))
        (.json (.object [("y", .null), ("k", .string "1"), ("x", .null)]))) := by
  have hkey : Template.names .standard "k" = .ok [] := by cbv
  refine ofJson_reordered rfl rfl rfl rfl rfl ?_ ?_ (.of_perm ?_ ?_)
  · simp [Document.IsMaps, Json.Value.IsMap]
  · simp [Walk.KeysPlain, hkey]
  · decide
  · exact (List.reverse_perm _).symm

end TemplateMatch
