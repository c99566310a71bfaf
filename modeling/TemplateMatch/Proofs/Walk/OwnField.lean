import TemplateMatch.Proofs.Walk.Candidates
import TemplateMatch.Proofs.Walk.Paths

/-!
Fields that both objects have under one name. If the namesake of a key is free when the walk comes to
the key (`reached`), it is tried first, and answers the key with whatever comparing the two values
reports; only where this is not nothing and another field is accepted, that one does (`OwnFirst`).
-/

namespace TemplateMatch

namespace Walk

variable {c : Config} {path : Pointer} {start scope out : Scope} {key : String}
  {value own : Json.Value} {slots : List Slot} {place : Nat}

/-- The field at a place is free, its name satisfies the key, and its value is accepted in the scope
in which all fields are tried. -/
def AcceptedAt (c : Config) (path : Pointer) (key : String) (value : Json.Value)
    (slots : List Slot) (scope : Scope) (template : Synthesis) (place : Nat) : Prop :=
  ∃ slot captures out, slots[place]? = some slot ∧ slot.taken = false ∧
    template.captures slot.name = some captures ∧
    compareField c path key value (scope.bindAll captures) slot.value = .ok ([], out)

/-- How a key is answered whose namesake, the field `own` at a place, is free: by what the key claims
and what is reported under it. -/
inductive OwnFirst (c : Config) (path : Pointer) (key : String) (value own : Json.Value)
    (place : Nat) (slots : List Slot) (scope : Scope) : Option Nat → List Mismatch → Prop
  /-- The namesake is claimed, with all that comparing the values reports. -/
  | own {template : Synthesis} {report : List Mismatch} {out : Scope} :
    synthesize c (path.child (.field key)) scope key = .ok template →
      compareField c path key value (scope.bindAll ((template.captures key).getD [])) own =
        .ok (report, out) →
      (report ≠ [] → ∀ other ≠ place, ¬AcceptedAt c path key value slots scope template other) →
      OwnFirst c path key value own place slots scope (some place) report
  /-- The namesake is rejected, and another field is accepted and claimed. All that can be reported
  then is that the namesake is unexpected. -/
  | other {template : Synthesis} {report ms : List Mismatch} {out : Scope} {other : Nat} :
    synthesize c (path.child (.field key)) scope key = .ok template →
      compareField c path key value (scope.bindAll ((template.captures key).getD [])) own =
        .ok (report, out) →
      report ≠ [] → other ≠ place → AcceptedAt c path key value slots scope template other →
      (∀ m ∈ ms, m.kind = .unexpectedField) →
      OwnFirst c path key value own place slots scope (some other) ms

/-- Another field that is accepted is a candidate behind the namesake. -/
theorem AcceptedAt.exists_candidate {template : Synthesis} {slot : Slot} {first : Candidate}
    {others : List Candidate} {other : Nat}
    (h : AcceptedAt c path key value slots scope template other)
    (hn : (slots.map Slot.name).Nodup) (hslot : slots[place]? = some slot)
    (hname : slot.name = key) (hlist : Candidate.list key template slots = first :: others)
    (hfirst : first.index = place) (hne : other ≠ place) :
    ∃ candidate ∈ others, ∃ out,
      compareField c path key value (scope.bindAll candidate.captures) candidate.value =
        .ok ([], out) := by
  obtain ⟨slot', captures, out, hslot', hfree, hcaptures, haccepted⟩ := h
  have hother : slot'.name ≠ key := fun h =>
    hne (index_eq_of_nodup hn hslot' hslot (h.trans hname.symm))
  have hmem := Candidate.mem_list_of_captures hslot' hfree hother hcaptures
  rw [hlist, List.mem_cons] at hmem
  rcases hmem with rfl | hmem
  · exact absurd hfirst hne
  · exact ⟨_, hmem, out, haccepted⟩

/-- The namesake is the first candidate. It is claimed unless it is rejected and a candidate behind
it passes; fields are unexpected only if it is not claimed. -/
theorem Settled.ownFirst {outcome : FieldOutcome} {slot : Slot} {extra : List Mismatch}
    (h : Settled c (path.child (.field key)) key (compareField c path key value) slots scope
      outcome)
    (hn : (slots.map Slot.name).Nodup) (hslot : slots[place]? = some slot)
    (hname : slot.name = key) (hfree : slot.taken = false)
    (hextra : ∀ m ∈ extra, m.kind = .unexpectedField ∧ outcome.claimed ≠ some place) :
    OwnFirst c path key value slot.value place slots scope outcome.claimed
      (outcome.mismatches ++ extra) := by
  have hnone (hclaimed : outcome.claimed = some place) : extra = [] :=
    List.eq_nil_iff_forall_not_mem.mpr fun m hm => (hextra m hm).2 hclaimed
  cases h with
  | @missing template htemplate hlist =>
    obtain ⟨others, hown, _⟩ := Candidate.list_of_free hn template hslot hname hfree
    rw [hown] at hlist
    cases hlist
  | @chosen template cs _ htemplate hlist hchosen =>
    obtain ⟨others, hown, hothers⟩ := Candidate.list_of_free hn template hslot hname hfree
    rw [hown] at hlist
    cases hchosen with
    | @failed _ rest report hrejected hrest =>
      cases hlist
      obtain ⟨_, out, hcompare⟩ := hrejected
      rw [hnone rfl, List.append_nil]
      refine .own htemplate hcompare fun _ other hne haccepted => ?_
      -- All candidates behind the namesake are rejected, the accepted one among them.
      obtain ⟨candidate, hmem, out', hpasses⟩ :=
        haccepted.exists_candidate hn hslot hname hown rfl hne
      obtain ⟨ms, hms, out'', hrejected⟩ := hrest _ hmem
      rw [hpasses] at hrejected
      cases hrejected
      exact hms rfl
    | @passed before after candidate out hbefore hcompare =>
      cases before with
      | nil =>
        cases hlist
        rw [hnone rfl, List.append_nil]
        exact .own htemplate hcompare fun h => absurd rfl h
      | cons first before =>
        -- The candidate that passes is a later one, so the namesake was rejected.
        obtain ⟨rfl, rfl⟩ := List.cons.inj hlist
        obtain ⟨report, hne, out', hown'⟩ := hbefore _ List.mem_cons_self
        have hmem : candidate ∈ before ++ candidate :: after :=
          List.mem_append_right _ List.mem_cons_self
        obtain ⟨hindex, slot', hslot', hfree', hvalue, hcaptures⟩ := hothers candidate hmem
        rw [← hvalue] at hcompare
        exact .other htemplate hown' hne hindex
          ⟨slot', candidate.captures, out, hslot', hfree', hcaptures, hcompare⟩
          fun m hm => (hextra m hm).1

/-- A namesake that answers its key reports no field at the key itself. -/
theorem OwnFirst.at_key {claimed : Option Nat} {ms : List Mismatch}
    (h : OwnFirst c path key value own place slots scope claimed ms) :
    ∀ m ∈ ms, m.path = path.child (.field key) →
      m.kind ≠ .missingField ∧ (m.kind = .unexpectedField → claimed ≠ some place) := by
  intro m hm hpath
  cases h with
  | own _ hcompare _ =>
    have hwithin := (within_of_compareNode value _ _ _ _ _ hcompare m hm).2
    exact ⟨fun hkind => hwithin (.inl hkind) hpath,
      fun hkind => absurd hpath (hwithin (.inr hkind))⟩
  | other _ _ _ hne _ hms =>
    rw [hms m hm]
    exact ⟨nofun, fun _ hclaimed => hne (Option.some.inj hclaimed)⟩

variable {es as : List (String × Json.Value)} {i : Nat}

/-- Under a key that both objects have stands what is reported when the key is settled, and then its
namesake if that is unexpected, as it can be only if the key has not claimed it. -/
theorem exists_report {ms : List Mismatch}
    (h : compareNode c path start (.object es) (.object as) = .ok (ms, out))
    (hes : (es.map Prod.fst).Nodup) (has : (as.map Prod.fst).Nodup)
    (hi : es[i]? = some (key, value)) (hplace : as[place]? = some (key, own)) :
    ∃ slots scope outcome extra, reached c path start es as i key = .ok (slots, scope) ∧
      Settled c (path.child (.field key)) key (compareField c path key value) slots scope
        outcome ∧
      ms.filter (fun m => m.Under (path.child (.field key))) = outcome.mismatches ++ extra ∧
      ∀ m ∈ extra, m.kind = .unexpectedField ∧ outcome.claimed ≠ some place := by
  obtain ⟨claims, claims', named, templated, slots, slots', mid, hnamed, htemplated, rfl⟩ :=
    exists_passes h
  obtain ⟨slots₁, scope₁, outcome, hreached, hsettled, hclaims, hreport⟩ :=
    settled_of_passes hnamed htemplated hi
  refine ⟨slots₁, scope₁, outcome, (if c.fieldMode = .strict then unexpected path slots'
    else []).filter fun m => m.Under (path.child (.field key)), hreached, hsettled, ?_, ?_⟩
  · rw [List.filter_append, filter_of_passes hnamed htemplated hes hi hreport]
  · intro m hm
    obtain ⟨hm, hunder⟩ := List.mem_filter.mp hm
    split at hm
    · obtain ⟨hkind, hfree⟩ := freeAt_of_unexpected (fields_of_passes hnamed htemplated) has hplace
        hm (of_decide_eq_true hunder)
      exact ⟨hkind, fun hclaimed =>
        not_claimsAt_of_freeAt hnamed htemplated hfree ((hclaims place).mpr hclaimed)⟩
    · cases hm

/-- What two objects report for a key that both have, if its namesake is free by then. -/
theorem own_field_of_compareNode {ms : List Mismatch}
    (h : compareNode c path start (.object es) (.object as) = .ok (ms, out))
    (hes : (es.map Prod.fst).Nodup) (has : (as.map Prod.fst).Nodup)
    (hi : es[i]? = some (key, value)) (hplace : as[place]? = some (key, own)) :
    ∃ slots scope outcome, reached c path start es as i key = .ok (slots, scope) ∧
      settle c (path.child (.field key)) key (compareField c path key value) slots scope =
        .ok outcome ∧
      (Slot.FreeAt slots place →
        OwnFirst c path key value own place slots scope outcome.claimed
          (ms.filter fun m => m.Under (path.child (.field key))) ∧
        ∀ m ∈ ms, m.path = path.child (.field key) →
          m.kind ≠ .missingField ∧ (m.kind = .unexpectedField → outcome.claimed ≠ some place)) := by
  obtain ⟨slots, scope, outcome, extra, hreached, hsettled, hms, hextra⟩ :=
    exists_report h hes has hi hplace
  refine ⟨slots, scope, outcome, hreached, hsettled.settle_eq, ?_⟩
  rintro ⟨slot, hslot, hfree⟩
  obtain rfl := fields_of_reached hreached
  have hn : (slots.map Slot.name).Nodup := by rwa [Slot.map_name_eq]
  obtain ⟨rfl, rfl⟩ : slot.name = key ∧ slot.value = own := by
    rw [Slot.fields, List.getElem?_map, hslot, Option.map_some, Option.some.injEq] at hplace
    cases hplace
    exact ⟨rfl, rfl⟩
  have hown := hsettled.ownFirst hn hslot rfl hfree hextra
  rw [← hms] at hown
  exact ⟨hown, fun m hm hpath =>
    hown.at_key m (List.mem_filter.mpr ⟨hm, decide_eq_true (hpath ▸ List.prefix_rfl)⟩) hpath⟩

end Walk

/-- A key that both objects have is answered by its namesake before all other fields, if that is free
when the walk comes to the key: the key claims it with whatever comparing the two values reports, or
these differ and another field is accepted. Such a key is not reported as missing, and its namesake
not as unexpected unless another field was accepted. -/
theorem ofJson_own_field {c : Config} {symbols : SymbolTable} {expected actual : Document}
    {es as : List (String × Json.Value)} {r : Comparison} {key : String} {value own : Json.Value}
    {i place : Nat} (h : Comparison.ofJson c symbols expected actual = .ok r)
    (he : expected.tree = .ok (.object es)) (ha : actual.tree = .ok (.object as))
    (hexpected : expected.IsMaps) (hactual : actual.IsMaps) (hi : es[i]? = some (key, value))
    (hplace : as[place]? = some (key, own)) :
    ∃ slots scope outcome,
      Walk.reached c .root (.ofTable symbols) es as i key = .ok (slots, scope) ∧
      Walk.settle c [.field key] key (Walk.compareField c .root key value) slots scope =
        .ok outcome ∧
      (Slot.FreeAt slots place →
        Walk.OwnFirst c .root key value own place slots scope outcome.claimed
          (r.mismatches.filter fun m => m.Under [.field key]) ∧
        ∀ m ∈ r.mismatches, m.path = [.field key] →
          m.kind ≠ .missingField ∧ (m.kind = .unexpectedField → outcome.claimed ≠ some place)) := by
  obtain ⟨out, hwalk⟩ := exists_walk_of_trees he ha h
  exact Walk.own_field_of_compareNode hwalk (Document.distinctKeys_of_tree hexpected he).self
    (Document.distinctKeys_of_tree hactual ha).self hi hplace

/-- The value under the key's own name differs, and that of the second field, whose name satisfies
the key where case is ignored, is accepted. -/
theorem ofJson_own_field_replaced :
    ∃ r slots scope, ∃ outcome : FieldOutcome,
      Comparison.ofJson ⟨.strict, true, .standard, .auto⟩ .empty
        (.json (.object [("a", .bool true)]))
        (.json (.object [("a", .bool false), ("A", .bool true)])) = .ok r ∧
      r.mismatches = [⟨[.field "a"], .unexpectedField, Mismatch.absent, "a"⟩] ∧
      Walk.reached ⟨.strict, true, .standard, .auto⟩ .root (.ofTable .empty) [("a", .bool true)]
        [("a", .bool false), ("A", .bool true)] 0 "a" = .ok (slots, scope) ∧
      Walk.settle ⟨.strict, true, .standard, .auto⟩ [.field "a"] "a"
        (Walk.compareField ⟨.strict, true, .standard, .auto⟩ .root "a" (.bool true)) slots scope =
          .ok outcome ∧
      Slot.FreeAt slots 0 ∧ outcome.claimed ≠ some 0 ∧
      Walk.OwnFirst ⟨.strict, true, .standard, .auto⟩ .root "a" (.bool true) (.bool false) 0 slots
        scope outcome.claimed (r.mismatches.filter fun m => m.Under [.field "a"]) := by
  have hr : Comparison.ofJson ⟨.strict, true, .standard, .auto⟩ .empty
        (.json (.object [("a", .bool true)]))
        (.json (.object [("a", .bool false), ("A", .bool true)])) =
      .ok (.failed [⟨[.field "a"], .unexpectedField, Mismatch.absent, "a"⟩]) := by cbv
  have hexpected : Document.IsMaps (.json (.object [("a", .bool true)])) := by
    simp [Document.IsMaps, Json.Value.IsMap]
  have hactual : Document.IsMaps (.json (.object [("a", .bool false), ("A", .bool true)])) := by
    simp [Document.IsMaps, Json.Value.IsMap]
  obtain ⟨slots, scope, outcome, hreached, hsettle, hown⟩ :=
    @ofJson_own_field _ _ _ _ _ _ _ "a" (.bool true) (.bool false) 0 0 hr rfl rfl hexpected hactual
      rfl rfl
  have hslots : Slot.FreeAt slots 0 := by
    cases hreached
    exact ⟨_, rfl, rfl⟩
  obtain ⟨hfirst, hkey⟩ := hown hslots
  exact ⟨_, slots, scope, outcome, hr, rfl, hreached, hsettle, hslots,
    (hkey _ List.mem_cons_self rfl).2 rfl, hfirst⟩

/-- A passing comparison need not accept the value under a key's own name, and such a name can be
reported as unexpected. -/
theorem own_field_not_final :
    Comparison.ofJson {} .empty (.json (.object [("a", .number (.integer 1))]))
        (.json (.object [("a", .number (.integer 2)), ("A", .number (.integer 1))])) =
      .ok (.passed .empty) ∧
    (∀ scope, Walk.compareNode {} [.field "a"] scope (.number (.integer 1))
      (.number (.integer 2)) = .ok ([⟨[.field "a"], .value, "1", "2"⟩], scope)) ∧
    Comparison.ofJson ⟨.strict, true, .standard, .auto⟩ .empty
        (.json (.object [("a", .number (.integer 1))]))
        (.json (.object [("a", .number (.integer 2)), ("A", .number (.integer 1))])) =
      .ok (.failed [⟨[.field "a"], .unexpectedField, Mismatch.absent, "a"⟩]) := by
  refine ⟨by cbv, fun scope => ?_, by cbv⟩
  cbv

end TemplateMatch
