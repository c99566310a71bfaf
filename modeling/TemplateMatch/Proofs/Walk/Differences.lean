import TemplateMatch.Proofs.Json.Parts
import TemplateMatch.Proofs.Walk.Candidates
import TemplateMatch.Proofs.Walk.Nodes

/-!
Comparing trees without free placeholders. `Walk.differences` goes through both trees in lock-step,
by key and by index, with no scopes, slots or candidates. Where no key has a placeholder and those
of the strings are bound, the comparison reports exactly these differences
(`compareNode_eq_differences`).
-/

namespace TemplateMatch

namespace Walk

/-- How two nodes differ that are not both arrays and not both objects. -/
def leafDifference (c : Config) (bound : Bindings) (path : Pointer) (expected actual : Json.Value) :
    List Mismatch :=
  match expected, actual with
  | .null, .null => []
  | .bool a, .bool b =>
    if a = b then []
    else [⟨path, .value, if a then "true" else "false", if b then "true" else "false"⟩]
  | .number m, .number n => if m.eqv n then [] else [⟨path, .value, m.text, n.text⟩]
  | .string template, actual =>
    match actual.scalarText? with
    | some text =>
      if Template.resolve c.delimiters bound .plain template = .ok text then []
      else [⟨path, .value, template, text⟩]
    | none => [⟨path, .type, expected.typeLabel, actual.typeLabel⟩]
  | expected, actual => [⟨path, .type, expected.typeLabel, actual.typeLabel⟩]

/-- The fields of an object that another one does not have. -/
def unexpectedFields (path : Pointer) (expected actual : List (String × Json.Value)) :
    List Mismatch :=
  (actual.filter fun f => !hasField expected f.1).map fun f =>
    ⟨path.child (.field f.1), .unexpectedField, Mismatch.absent, f.1⟩

mutual

/-- How two trees differ, by key and by index. -/
def differences (c : Config) (bound : Bindings) (path : Pointer) :
    Json.Value → Json.Value → List Mismatch
  | .object expected, .object actual =>
    fieldDifferences c bound path actual expected ++
      if c.fieldMode = .strict then unexpectedFields path expected actual else []
  | .array expected, .array actual =>
    let items := itemDifferences c bound path 0 expected actual
    if expected.length = actual.length then items
    else ⟨path, .length, toString expected.length, toString actual.length⟩ :: items
  | expected, actual => leafDifference c bound path expected actual

def itemDifferences (c : Config) (bound : Bindings) (path : Pointer) (index : Nat) :
    List Json.Value → List Json.Value → List Mismatch
  | e :: es, a :: as =>
    differences c bound (path.child (.item index)) e a ++
      itemDifferences c bound path (index + 1) es as
  | _, _ => []

/-- Each field is compared with the one of the same name in the actual object. -/
def fieldDifferences (c : Config) (bound : Bindings) (path : Pointer)
    (actual : List (String × Json.Value)) : List (String × Json.Value) → List Mismatch
  | [] => []
  | (key, value) :: fields =>
    (match actual.lookup key with
      | some a => differences c bound (path.child (.field key)) value a
      | none => [⟨path.child (.field key), .missingField, key, Mismatch.absent⟩]) ++
      fieldDifferences c bound path actual fields

end

/-- The keys of an object are templates without placeholders, and the placeholders of a string are
bound. -/
def IsPlain (c : Config) (bound : Bindings) : Json.Value → Prop
  | .object fields => ∀ f ∈ fields, Template.names c.delimiters f.1 = .ok []
  | .string template => ∃ names, Template.names c.delimiters template = .ok names ∧
      ∀ name ∈ names, (bound name).isSome = true
  | _ => True

end Walk

/-! ## Slots by name -/

namespace Slot

/-- The fields of an object, of which those with certain names are claimed. -/
def marked (taken : String → Bool) (fields : List (String × Json.Value)) : List Slot :=
  fields.map fun f => ⟨f.1, f.2, taken f.1⟩

variable {taken : String → Bool} {fields : List (String × Json.Value)}

theorem ofFields_eq_marked (fields : List (String × Json.Value)) :
    ofFields fields = marked (fun _ => false) fields :=
  rfl

theorem map_name_marked (taken : String → Bool) (fields : List (String × Json.Value)) :
    (marked taken fields).map Slot.name = fields.map Prod.fst := by
  rw [marked, List.map_map]
  rfl

theorem getElem?_marked {index : Nat} {slot : Slot} :
    (marked taken fields)[index]? = some slot ↔
      ∃ f, fields[index]? = some f ∧ slot = ⟨f.1, f.2, taken f.1⟩ := by
  rw [marked, List.getElem?_map, Option.map_eq_some_iff]
  simp only [eq_comm]

theorem take_marked (hn : (fields.map Prod.fst).Nodup) {index : Nat} {f : String × Json.Value}
    (hf : fields[index]? = some f) :
    take (marked taken fields) index = marked (fun n => n == f.1 || taken n) fields := by
  apply List.ext_getElem?
  intro j
  rw [take, List.getElem?_modify, marked, marked, List.getElem?_map, List.getElem?_map]
  cases hj : fields[j]? with
  | none => rfl
  | some g =>
    by_cases hij : index = j
    · subst hij
      rw [hf] at hj
      cases hj
      simp
    · -- Another field has another name.
      have hname : g.1 ≠ f.1 := by
        intro hname
        have hn' : ((marked taken fields).map Slot.name).Nodup := by rwa [map_name_marked]
        exact hij (index_eq_of_nodup hn' (getElem?_marked.mpr ⟨f, hf, rfl⟩)
          (getElem?_marked.mpr ⟨g, hj, rfl⟩) hname.symm)
      simp [hij, hname]

/-- The field of a key that is not claimed. -/
theorem own?_marked (hn : (fields.map Prod.fst).Nodup) {key : String} {value : Json.Value}
    (h : fields.lookup key = some value) (htaken : taken key = false) :
    ∃ index, Candidate.own? key (marked taken fields) = some (⟨key, value, false⟩, index) ∧
      take (marked taken fields) index = marked (fun n => n == key || taken n) fields := by
  obtain ⟨index, hindex⟩ := List.mem_iff_getElem?.mp (mem_of_lookup h)
  refine ⟨index, ?_, take_marked hn hindex⟩
  rw [Candidate.own?_eq_some_iff (by rwa [map_name_marked]), getElem?_marked]
  exact ⟨⟨_, hindex, by simp [htaken]⟩, rfl, rfl⟩

theorem marked_congr {taken' : String → Bool} (h : ∀ f ∈ fields, taken f.1 = taken' f.1) :
    marked taken fields = marked taken' fields :=
  List.map_congr_left fun f hf => by rw [h f hf]

theorem own?_marked_of_absent {key : String} (h : fields.lookup key = none) :
    Candidate.own? key (marked taken fields) = none := by
  rw [Option.eq_none_iff_forall_ne_some]
  rintro ⟨slot, index⟩ hown
  obtain ⟨hslot, _, hname⟩ := Candidate.own?_eq_some hown
  obtain ⟨f, hf, rfl⟩ := getElem?_marked.mp hslot
  rw [lookup_eq_none] at h
  exact h (hname ▸ List.mem_map_of_mem (List.mem_of_getElem? hf))

end Slot

namespace Walk

variable {c : Config} {path : Pointer} {scope : Scope}

/-! ## Leaves -/

section

variable (hmode : c.templateMode = .literal) (hcase : c.ignoreCase = false)

include hmode hcase

theorem compareText_eq {template text : String} {names : List String}
    (hnames : Template.names c.delimiters template = .ok names)
    (hbound : ∀ name ∈ names, (scope.bindings name).isSome = true) :
    compareText c path scope template text =
      .ok (if Template.resolve c.delimiters scope.bindings .plain template = .ok text then []
        else [⟨path, .value, template, text⟩], scope) := by
  obtain ⟨s, resolved, hs, hresolved, hfixed⟩ :=
    Synthesis.exists_isFixed_of_names (o := c.templateOptions) hmode hcase hnames hbound
  have hresolved : Template.resolve c.delimiters scope.bindings .plain template =
      .ok resolved := hresolved
  rw [compareText, synthesize_of_eq_ok path hs]
  simp only [hfixed text, hresolved, Except.ok.injEq]
  by_cases htext : text = resolved
  · simp only [if_pos htext, if_pos htext.symm, Scope.bindAll_nil]
  · rw [if_neg htext, if_neg (Ne.symm htext)]
    rfl

theorem compareLeaf_eq (path : Pointer) {e a : Json.Value} (hplain : IsPlain c scope.bindings e) :
    compareLeaf c path scope e a = .ok (leafDifference c scope.bindings path e a, scope) := by
  cases e with
  | string template =>
    obtain ⟨names, hnames, hbound⟩ := hplain
    cases htext : a.scalarText? with
    | some text =>
      simp only [compareLeaf, leafDifference, htext]
      exact compareText_eq hmode hcase hnames hbound
    | none =>
      simp only [compareLeaf, leafDifference, htext]
      rfl
  | null => cases a <;> rfl
  | bool b =>
    cases a with
    | bool b' =>
      simp only [compareLeaf, leafDifference]
      split <;> rfl
    | _ => rfl
  | number n =>
    cases a with
    | number n' =>
      simp only [compareLeaf, leafDifference]
      split <;> rfl
    | _ => rfl
  | array items => cases a <;> rfl
  | object fields => cases a <;> rfl

/-! ## Fields -/

/-- The part of a field in the differences of its object. -/
def fieldDifference (c : Config) (bound : Bindings) (path : Pointer)
    (actual : List (String × Json.Value)) (f : String × Json.Value) : List Mismatch :=
  match actual.lookup f.1 with
  | some a => differences c bound (path.child (.field f.1)) f.2 a
  | none => [⟨path.child (.field f.1), .missingField, f.1, Mismatch.absent⟩]

/-- A field is settled with the one of its own name, if that is there. -/
theorem settle_eq {key : String} {value : Json.Value} {as : List (String × Json.Value)}
    {taken : String → Bool} (has : (as.map Prod.fst).Nodup) (htaken : taken key = false)
    (hkey : Template.names c.delimiters key = .ok [])
    (hvalue : ∀ f ∈ as, compareNode c (path.child (.field key)) scope value f.2 =
      .ok (differences c scope.bindings (path.child (.field key)) value f.2, scope)) :
    ∃ claimed, settle c (path.child (.field key)) key (compareField c path key value)
        (Slot.marked taken as) scope =
          .ok ⟨claimed, fieldDifference c scope.bindings path as (key, value), scope⟩ ∧
      Slot.claim (Slot.marked taken as) claimed =
        Slot.marked (fun n => n == key || taken n) as := by
  obtain ⟨template, hs, hfixed⟩ := Synthesis.exists_isFixed_self (o := c.templateOptions)
    scope.bindings hmode hcase hkey
  have hs := synthesize_of_eq_ok (path.child (.field key)) hs
  have hslots : ((Slot.marked taken as).map Slot.name).Nodup := by rwa [Slot.map_name_marked]
  have hlist := Candidate.list_of_isFixed hslots hfixed
  cases hlookup : as.lookup key with
  | some a =>
    obtain ⟨index, hown, htake⟩ := Slot.own?_marked has hlookup htaken
    rw [hown] at hlist
    refine ⟨some index, ?_, htake⟩
    simp only [fieldDifference, hlookup]
    exact settle_of_single hs hlist (hvalue _ (mem_of_lookup hlookup))
  | none =>
    rw [Slot.own?_marked_of_absent hlookup] at hlist
    refine ⟨none, ?_, ?_⟩
    · simp only [fieldDifference, hlookup]
      exact settle_of_absent hs hlist
    · apply Slot.marked_congr
      intro f hf
      have hne : f.1 ≠ key := by
        rintro rfl
        exact lookup_eq_none.mp hlookup (List.mem_map_of_mem hf)
      rw [beq_false_of_ne hne, Bool.false_or]

omit hmode hcase in
/-- The marks after a pass over one more field, which was wanted. -/
theorem marked_of_wanted {wanted taken : String → Bool} {f : String × Json.Value}
    {es as : List (String × Json.Value)} (h : wanted f.1 = true) :
    Slot.marked (fun n => (wanted n && hasField es n) || (n == f.1 || taken n)) as =
      Slot.marked (fun n => (wanted n && hasField (f :: es) n) || taken n) as := by
  refine Slot.marked_congr fun g _ => ?_
  have hcons : hasField (f :: es) g.1 = (f.1 == g.1 || hasField es g.1) := rfl
  rw [hcons]
  by_cases hg : g.1 = f.1
  · simp [hg, h]
  · rw [beq_false_of_ne hg, beq_false_of_ne (Ne.symm hg), Bool.false_or, Bool.false_or]

omit hmode hcase in
theorem marked_of_not_wanted {wanted taken : String → Bool} {f : String × Json.Value}
    {es as : List (String × Json.Value)} (h : ¬ wanted f.1 = true) :
    Slot.marked (fun n => (wanted n && hasField es n) || taken n) as =
      Slot.marked (fun n => (wanted n && hasField (f :: es) n) || taken n) as := by
  refine Slot.marked_congr fun g _ => ?_
  have hcons : hasField (f :: es) g.1 = (f.1 == g.1 || hasField es g.1) := rfl
  rw [hcons]
  by_cases hg : g.1 = f.1
  · simp [hg, h]
  · rw [beq_false_of_ne (Ne.symm hg), Bool.false_or]

theorem compareFields_eq (path : Pointer) (wanted taken : String → Bool)
    {es as : List (String × Json.Value)} (hes : (es.map Prod.fst).Nodup)
    (has : (as.map Prod.fst).Nodup) (hfree : ∀ f ∈ es, wanted f.1 = true → taken f.1 = false)
    (hkeys : ∀ f ∈ es, Template.names c.delimiters f.1 = .ok [])
    (hvalues : ∀ f ∈ es, ∀ path, ∀ g ∈ as, compareNode c path scope f.2 g.2 =
      .ok (differences c scope.bindings path f.2 g.2, scope)) :
    compareFields c path wanted es (Slot.marked taken as) scope =
      .ok (es.map fun f => if wanted f.1 then fieldDifference c scope.bindings path as f else [],
        Slot.marked (fun n => (wanted n && hasField es n) || taken n) as, scope) := by
  induction es generalizing taken with
  | nil => simp [compareFields, hasField]
  | cons f es ih =>
    rw [List.map_cons, List.nodup_cons] at hes
    have hkeys' : ∀ g ∈ es, Template.names c.delimiters g.1 = .ok [] :=
      fun g hg => hkeys g (List.mem_cons_of_mem f hg)
    have hvalues' : ∀ g ∈ es, ∀ path, ∀ h ∈ as, compareNode c path scope g.2 h.2 =
        .ok (differences c scope.bindings path g.2 h.2, scope) :=
      fun g hg => hvalues g (List.mem_cons_of_mem f hg)
    rw [List.map_cons]
    by_cases hwanted : wanted f.1 = true
    · obtain ⟨claimed, hsettle, hclaim⟩ := settle_eq hmode hcase has
        (hfree f List.mem_cons_self hwanted) (hkeys f List.mem_cons_self)
        (hvalues f List.mem_cons_self _)
      -- The fields behind have other names, so what the first one takes is not theirs.
      have hfree' : ∀ g ∈ es, wanted g.1 = true → (g.1 == f.1 || taken g.1) = false := by
        intro g hg hw
        have hne : g.1 ≠ f.1 := fun h => hes.1 (h ▸ List.mem_map_of_mem hg)
        rw [beq_false_of_ne hne, Bool.false_or]
        exact hfree g (List.mem_cons_of_mem f hg) hw
      have hrest := ih (fun n => n == f.1 || taken n) hes.2 hfree' hkeys' hvalues'
      rw [← hclaim] at hrest
      rw [compareFields_settle hwanted hsettle, if_pos hwanted, hrest, marked_of_wanted hwanted]
      rfl
    · have hrest := ih taken hes.2 (fun g hg => hfree g (List.mem_cons_of_mem f hg)) hkeys' hvalues'
      rw [compareFields_skip (by simpa using hwanted), if_neg hwanted, hrest,
        marked_of_not_wanted hwanted]
      rfl

/-! ## Trees -/

omit hmode hcase in
theorem fieldDifferences_eq (bound : Bindings) (as es : List (String × Json.Value)) :
    fieldDifferences c bound path as es = (es.map (fieldDifference c bound path as)).flatten := by
  induction es with
  | nil => rfl
  | cons f es ih =>
    rw [fieldDifferences, ih]
    rfl

omit hmode hcase in
theorem compareItems_eq (path : Pointer) (index : Nat) {es as : List Json.Value}
    (hitems : ∀ e ∈ es, ∀ path, ∀ a ∈ as, compareNode c path scope e a =
      .ok (differences c scope.bindings path e a, scope)) :
    compareItems c path index scope es as =
      .ok (itemDifferences c scope.bindings path index es as, scope) := by
  induction es generalizing index as with
  | nil => cases as <;> rfl
  | cons e es ih =>
    cases as with
    | nil => rfl
    | cons a as =>
      have hrest := ih (index + 1) fun e he path a ha =>
        hitems e (List.mem_cons_of_mem _ he) path a (List.mem_cons_of_mem _ ha)
      rw [compareItems, hitems e List.mem_cons_self _ a List.mem_cons_self]
      simp only [hrest]
      rfl

omit hmode hcase in
theorem unexpected_marked (path : Pointer) (es as : List (String × Json.Value)) :
    unexpected path (Slot.marked (hasField es) as) = unexpectedFields path es as := by
  rw [unexpected, unexpectedFields, Slot.marked, List.filter_map, List.map_map]
  rfl

theorem compareNode_object_eq {es as : List (String × Json.Value)}
    (hes : (es.map Prod.fst).Nodup) (has : (as.map Prod.fst).Nodup)
    (hkeys : ∀ f ∈ es, Template.names c.delimiters f.1 = .ok [])
    (hvalues : ∀ f ∈ es, ∀ path, ∀ g ∈ as, compareNode c path scope f.2 g.2 =
      .ok (differences c scope.bindings path f.2 g.2, scope)) :
    compareNode c path scope (.object es) (.object as) =
      .ok (differences c scope.bindings path (.object es) (.object as), scope) := by
  let first (n : String) : Bool := (hasField as n && hasField es n) || false
  have hnamed := compareFields_eq hmode hcase path (hasField as) (fun _ => false) hes has
    (fun _ _ _ => rfl) hkeys hvalues
  -- What the first pass claims are names that the second one does not want.
  have hfree (f : String × Json.Value) (_ : f ∈ es) (hw : (!hasField as f.1) = true) :
      first f.1 = false := by
    rw [Bool.not_eq_true'] at hw
    simp only [first, hw, Bool.false_and, Bool.or_false]
  have htemplated := compareFields_eq hmode hcase path (fun key => !hasField as key) first hes has
    hfree hkeys hvalues
  have hmarks : Slot.marked (fun n => (!hasField as n && hasField es n) || first n) as =
      Slot.marked (hasField es) as := by
    apply Slot.marked_congr
    intro f _
    simp only [first]
    cases hasField as f.1 <;> simp
  have hjoin : List.zipWith (· ++ ·)
      (es.map fun f => if hasField as f.1 then fieldDifference c scope.bindings path as f else [])
      (es.map fun f => if !hasField as f.1 then fieldDifference c scope.bindings path as f else [])
        = es.map (fieldDifference c scope.bindings path as) := by
    rw [List.zipWith_map, List.zipWith_self]
    apply List.map_congr_left
    intro f _
    cases hasField as f.1 <;> simp
  rw [hmarks] at htemplated
  rw [differences, fieldDifferences_eq, ← unexpected_marked, ← hjoin]
  exact compareNode_object hnamed htemplated

/-- Where no key has a placeholder and those of the strings are bound, comparing two trees never
fails, leaves the scope and reports just the differences. -/
theorem compareNode_eq_differences (path : Pointer) {e a : Json.Value} (he : e.DistinctKeys)
    (ha : a.DistinctKeys) (hplain : e.Everywhere (IsPlain c scope.bindings)) :
    compareNode c path scope e a = .ok (differences c scope.bindings path e a, scope) := by
  induction e, a using Json.Value.induction₂ generalizing path with
  | leaf e a harrays hobjects =>
    have hdifferences : differences c scope.bindings path e a =
        leafDifference c scope.bindings path e a := by
      unfold differences
      split
      · exact absurd rfl (hobjects _ _ rfl)
      · exact absurd rfl (harrays _ _ rfl)
      · rfl
    rw [compareNode_of_leaf harrays hobjects, hdifferences]
    exact compareLeaf_eq hmode hcase path hplain.self
  | array es as ih =>
    have hitems := compareItems_eq path 0 fun e he' path a ha' =>
      ih e he' a path (he.item he') (ha.item ha') (hplain.item he')
    rw [compareNode, differences, hitems]
    simp only
    split <;> rfl
  | object es as ih =>
    exact compareNode_object_eq hmode hcase he.self ha.self hplain.self fun f hf path g hg =>
      ih f hf g.2 path (he.field hf) (ha.field hg) (hplain.field hf)

end

end Walk

/-- Comparing documents without free placeholders, verbatim and with case observed: the comparison
can be carried out, captures nothing, and reports one mismatch for each place where the trees
differ, and no others. -/
theorem ofJson_plain {c : Config} {symbols : SymbolTable} {expected actual : Document}
    {e a : Json.Value} (hmode : c.templateMode = .literal) (hcase : c.ignoreCase = false)
    (he : expected.tree = .ok e) (ha : actual.tree = .ok a) (hexpected : expected.IsMaps)
    (hactual : actual.IsMaps) (hplain : e.Everywhere (Walk.IsPlain c symbols.bindings)) :
    ∃ r, Comparison.ofJson c symbols expected actual = .ok r ∧ r.captured = .empty ∧
      r.mismatches = Walk.differences c symbols.bindings .root e a := by
  have hbindings := Scope.bindings_ofTable symbols
  have hplain : e.Everywhere (Walk.IsPlain c (Scope.ofTable symbols).bindings) := by
    rwa [hbindings]
  have hwalk := Walk.compareNode_eq_differences hmode hcase .root
    (Document.distinctKeys_of_tree hexpected he) (Document.distinctKeys_of_tree hactual ha) hplain
  rw [hbindings] at hwalk
  simp only [Comparison.ofJson, he, ha, hwalk]
  refine ⟨_, rfl, ?_⟩
  cases Walk.differences c symbols.bindings .root e a with
  | nil => exact ⟨rfl, rfl⟩
  | cons m ms => exact ⟨rfl, rfl⟩

theorem ofJson_plain_strict :
    ∃ r, Comparison.ofJson ⟨.strict, false, .standard, .literal⟩ (.ofPairs [("u", "7")])
        (.json (.object [("id", .string "~[u]-1"), ("xs", .array [.bool true, .null])]))
        (.json (.object [("xs", .array [.bool false]), ("id", .string "7-1"), ("more", .null)])) =
          .ok r ∧
      r.captured = .empty ∧
      r.mismatches = [⟨[.field "xs"], .length, "2", "1"⟩,
        ⟨[.field "xs", .item 0], .value, "true", "false"⟩,
        ⟨[.field "more"], .unexpectedField, "<absent>", "more"⟩] := by
  have hplain : Json.Value.Everywhere (Walk.IsPlain ⟨.strict, false, .standard, .literal⟩
      (SymbolTable.ofPairs [("u", "7")]).bindings)
      (.object [("id", .string "~[u]-1"), ("xs", .array [.bool true, .null])]) := by
    have hid : Template.names .standard "id" = .ok [] := by cbv
    have hxs : Template.names .standard "xs" = .ok [] := by cbv
    have hu : Template.names .standard "~[u]-1" = .ok ["u"] := by cbv
    have hbound : ((SymbolTable.ofPairs [("u", "7")]).bindings "u").isSome = true := by cbv
    simp [Walk.IsPlain, hid, hxs, hu, hbound]
  obtain ⟨r, hr, hcaptured, hms⟩ := @ofJson_plain ⟨.strict, false, .standard, .literal⟩
    (.ofPairs [("u", "7")])
    (.json (.object [("id", .string "~[u]-1"), ("xs", .array [.bool true, .null])]))
    (.json (.object [("xs", .array [.bool false]), ("id", .string "7-1"), ("more", .null)])) _ _
    rfl rfl rfl rfl (by simp [Document.IsMaps, Json.Value.IsMap])
    (by simp [Document.IsMaps, Json.Value.IsMap]) hplain
  refine ⟨r, hr, hcaptured, hms.trans ?_⟩
  cbv

/-- A type mismatch is a difference, too. -/
theorem ofJson_plain_type :
    Comparison.ofJson ⟨.lenient, false, .standard, .literal⟩ .empty (.json .null)
        (.json (.string "x")) = .ok (.failed [⟨.root, .type, "null", "string"⟩]) := by
  cbv

end TemplateMatch
