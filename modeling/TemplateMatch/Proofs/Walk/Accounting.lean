import Mathlib
import TemplateMatch.Proofs.Walk.Paths

/-!
The accounts of a comparison of two objects. A field that is settled claims one field or is reported
as missing, and what is free in the end is reported as unexpected in strict mode: so no field is
lost and none is counted twice (`Walk.Accounts`). In lenient mode nothing is unexpected.
-/

namespace TemplateMatch

/-- How many mismatches of a kind a report has at such paths. -/
def Mismatch.tally (kind : MismatchKind) (at_ : Pointer → Prop) [DecidablePred at_]
    (ms : List Mismatch) : Nat :=
  ms.countP fun m => m.kind = kind ∧ at_ m.path

namespace Mismatch

variable {kind : MismatchKind} {at_ : Pointer → Prop} [DecidablePred at_] {ms : List Mismatch}

theorem tally_append (ms' : List Mismatch) :
    tally kind at_ (ms ++ ms') = tally kind at_ ms + tally kind at_ ms' :=
  List.countP_append

theorem tally_eq_zero_iff :
    tally kind at_ ms = 0 ↔ ∀ m ∈ ms, m.kind = kind → ¬at_ m.path := by
  simp [tally, List.countP_eq_zero]

end Mismatch

open Mismatch (tally)

/-- A slot that is free can be claimed, and is one more of those that are taken. -/
theorem Slot.countP_taken_claim {slots : List Slot} {j : Nat} (h : Slot.FreeAt slots j) :
    (Slot.claim slots (some j)).countP Slot.taken = slots.countP Slot.taken + 1 := by
  obtain ⟨slot, hslot, hfree⟩ := h
  induction slots generalizing j with
  | nil => cases hslot
  | cons s slots ih =>
    cases j with
    | zero =>
      cases hslot
      simp [Slot.claim, Slot.take, hfree]
    | succ j =>
      have hrest := ih (j := j) hslot
      rw [Slot.claim, Slot.take] at hrest
      rw [Slot.claim, Slot.take, List.modify_succ_cons, List.countP_cons, List.countP_cons, hrest]
      omega

namespace Walk

variable {c : Config} {path : Pointer}

/-- A settled field claims another, and no field is missing or unexpected at its path, or it is
missing itself. -/
theorem Settled.claims_or_missing {key : String} {value : Json.Value} {slots : List Slot}
    {scope : Scope} {outcome : FieldOutcome}
    (h : Settled c (path.child (.field key)) key (compareField c path key value) slots scope
      outcome) :
    (∃ j, outcome.claimed = some j) ∧
        (∀ m ∈ outcome.mismatches, m.Within (path.child (.field key))) ∨
      outcome.claimed = none ∧
        outcome.mismatches = [⟨path.child (.field key), .missingField, key, Mismatch.absent⟩] := by
  cases h with
  | missing => exact .inr ⟨rfl, rfl⟩
  | chosen _ _ hchosen =>
    cases hchosen with
    | passed => exact .inl ⟨⟨_, rfl⟩, nofun⟩
    | failed hrejected =>
      obtain ⟨_, out, hcompare⟩ := hrejected
      exact .inl ⟨⟨_, rfl⟩, within_of_compareNode value _ _ _ _ _ hcompare⟩

/-! ## One pass -/

namespace FieldsRun

variable {wanted : String → Bool} {fields : List (String × Json.Value)} {slots slots' : List Slot}
  {scope scope' : Scope} {claims : List (Option Nat)} {more : List (List Mismatch)}

theorem range_of_claim (h : FieldsRun c path wanted fields slots scope claims more slots' scope')
    {i j : Nat} (hj : claims[i]? = some (some j)) : i < fields.length ∧ j < slots.length := by
  obtain ⟨_, _, hfield, _⟩ := h.wanted_of_claim hj
  obtain ⟨slot, hslot, _⟩ := h.freeAt_of_mem (List.mem_of_getElem? hj)
  exact ⟨(List.getElem?_eq_some_iff.mp hfield).1, (List.getElem?_eq_some_iff.mp hslot).1⟩

/-- Every wanted field claims one or is missing. -/
theorem tally_missing (h : FieldsRun c path wanted fields slots scope claims more slots' scope') :
    tally .missingField (fun p => p.length = path.length + 1) more.flatten +
      claims.countP Option.isSome = fields.countP fun f => wanted f.1 := by
  induction h with
  | nil => rfl
  | skip hskip _ ih => simpa [List.countP_cons, hskip] using ih
  | @settle _ _ _ _ _ _ _ _ _ outcome hwanted hsettled _ ih =>
    have hfirst : tally .missingField (fun p => p.length = path.length + 1) outcome.mismatches +
        (if outcome.claimed.isSome = true then 1 else 0) = 1 := by
      rcases hsettled.claims_or_missing with ⟨⟨j, hclaimed⟩, hwithin⟩ | ⟨hclaimed, hmissing⟩
      · rw [hclaimed, Option.isSome_some, if_pos rfl, Nat.add_eq_right, Mismatch.tally_eq_zero_iff]
        exact fun m hm hkind => (hwithin m hm).length_ne (.inl hkind)
      · rw [hclaimed, hmissing]
        simp [tally, Pointer.child]
    rw [List.flatten_cons, Mismatch.tally_append, List.countP_cons, List.countP_cons, ← ih,
      if_pos hwanted]
    omega

/-- Every claim takes one slot more. -/
theorem countP_taken (h : FieldsRun c path wanted fields slots scope claims more slots' scope') :
    slots'.countP Slot.taken = slots.countP Slot.taken + claims.countP Option.isSome := by
  induction h with
  | nil => rfl
  | skip _ _ ih => simpa using ih
  | @settle _ _ _ slots _ _ _ claims _ outcome _ hsettled _ ih =>
    rw [ih, List.countP_cons]
    cases hclaimed : outcome.claimed with
    | none => rfl
    | some j =>
      rw [Slot.countP_taken_claim (hsettled.claimed_free hclaimed), Option.isSome_some, if_pos rfl]
      omega

end FieldsRun

/-! ## What is free in the end -/

theorem tally_missing_unexpected (at_ : Pointer → Prop) [DecidablePred at_] (slots : List Slot) :
    tally .missingField at_ (unexpected path slots) = 0 := by
  rw [Mismatch.tally_eq_zero_iff]
  intro m hm hkind
  obtain ⟨_, _, _, rfl⟩ := mem_unexpected.mp hm
  cases hkind

theorem tally_unexpected {slots : List Slot} (hn : (slots.map Slot.name).Nodup) {slot : Slot}
    (hslot : slot ∈ slots) (hfree : slot.taken = false) :
    tally .unexpectedField (· = path.child (.field slot.name)) (unexpected path slots) = 1 := by
  have hnames : (unexpected path slots).map Mismatch.actual =
      (slots.filter fun s => !s.taken).map Slot.name := by
    rw [unexpected, List.map_map]
    rfl
  have hnodup : (unexpected path slots).Nodup := by
    refine List.Nodup.of_map Mismatch.actual ?_
    rw [hnames]
    exact hn.sublist (List.filter_sublist.map Slot.name)
  have hcount := List.count_eq_one_of_mem hnodup (mem_unexpected.mpr ⟨slot, hslot, hfree, rfl⟩)
  rw [← hcount, List.count_eq_countP, tally]
  refine List.countP_congr fun m hm => ?_
  obtain ⟨slot', _, _, rfl⟩ := mem_unexpected.mp hm
  simp [Pointer.child]

theorem tally_unexpected_level (slots : List Slot) :
    tally .unexpectedField (·.length = path.length + 1) (unexpected path slots) +
      slots.countP Slot.taken = slots.length := by
  have hall : tally .unexpectedField (·.length = path.length + 1) (unexpected path slots) =
      (unexpected path slots).length := by
    rw [tally, List.countP_eq_length]
    intro m hm
    obtain ⟨slot, _, _, rfl⟩ := mem_unexpected.mp hm
    simp [Pointer.child]
  rw [hall, unexpected, List.length_map, ← List.countP_eq_length_filter,
    List.length_eq_countP_add_countP Slot.taken, Nat.add_comm]
  simp

/-! ## Both passes -/

/-- What the fields of an object claim, by their places, when it is compared with another. -/
inductive ObjectClaims (c : Config) (path : Pointer) (scope : Scope)
    (es as : List (String × Json.Value)) : (Nat → Nat → Prop) → Prop
  | passes {claims claims' : List (Option Nat)} {named templated : List (List Mismatch)}
    {slots slots' : List Slot} {mid out : Scope} :
    FieldsRun c path (hasField as) es (Slot.ofFields as) scope claims named slots mid →
      FieldsRun c path (fun key => !hasField as key) es slots mid claims' templated slots' out →
      ObjectClaims c path scope es as (ClaimsAt claims claims')

/-- A report accounts for the fields of two objects: each claims or is claimed once or is reported
once. -/
structure Accounts (path : Pointer) (es as : List (String × Json.Value))
    (claims : Nat → Nat → Prop) (ms : List Mismatch) : Prop where
  in_range {i j : Nat} : claims i j → i < es.length ∧ j < as.length
  expected {i : Nat} {key : String} {value : Json.Value} : es[i]? = some (key, value) →
    (∃! j, claims i j) ∧ tally .missingField (· = path.child (.field key)) ms = 0 ∨
      (∀ j, ¬claims i j) ∧ tally .missingField (· = path.child (.field key)) ms = 1
  actual {j : Nat} {key : String} {value : Json.Value} : as[j]? = some (key, value) →
    (∃! i, claims i j) ∧ tally .unexpectedField (· = path.child (.field key)) ms = 0 ∨
      (∀ i, ¬claims i j) ∧ tally .unexpectedField (· = path.child (.field key)) ms = 1
  balance : (es.length : Int) - tally .missingField (·.length = path.length + 1) ms =
    as.length - tally .unexpectedField (·.length = path.length + 1) ms

section

variable {es as : List (String × Json.Value)} {claims claims' : List (Option Nat)}
  {named templated : List (List Mismatch)} {slots slots' : List Slot} {start mid out : Scope}
  (h : FieldsRun c path (hasField as) es (Slot.ofFields as) start claims named slots mid)
  (h' : FieldsRun c path (fun key => !hasField as key) es slots mid claims' templated slots' out)

include h h'

theorem in_range_of_passes {i j : Nat} (hij : ClaimsAt claims claims' i j) :
    i < es.length ∧ j < as.length := by
  have hlen : slots.length = as.length := by
    rw [← h.fields_eq_start, Slot.fields, List.length_map]
  rcases hij with hj | hj
  · have hrange := h.range_of_claim hj
    rwa [Slot.ofFields, List.length_map] at hrange
  · have hrange := h'.range_of_claim hj
    rwa [hlen] at hrange

/-- Fields are not unexpected where the expected ones are compared. -/
theorem tally_unexpected_of_passes (at_ : Pointer → Prop) [DecidablePred at_]
    (hat : ∀ p, at_ p → p.length = path.length + 1) :
    tally .unexpectedField at_ (List.zipWith (· ++ ·) named templated).flatten = 0 := by
  rw [Mismatch.tally_eq_zero_iff]
  intro m hm hkind hpath
  obtain ⟨x, _, rfl | hwithin⟩ := missing_or_within_of_mem_flatten (childReports_of_passes h h') hm
  · cases hkind
  · exact hwithin.length_ne (.inr hkind) (hat _ hpath)

theorem tally_missing_of_passes :
    tally .missingField (·.length = path.length + 1)
        (List.zipWith (· ++ ·) named templated).flatten =
      tally .missingField (·.length = path.length + 1) named.flatten +
        tally .missingField (·.length = path.length + 1) templated.flatten := by
  have hlen : named.length = templated.length := h.length_eq.trans h'.length_eq.symm
  clear h h'
  induction named generalizing templated with
  | nil =>
    cases templated with
    | nil => rfl
    | cons => cases hlen
  | cons ms named ih =>
    cases templated with
    | nil => cases hlen
    | cons ms' templated =>
      simp only [List.zipWith_cons_cons, List.flatten_cons, Mismatch.tally_append]
      rw [ih (Nat.succ.inj hlen)]
      omega

/-- An expected field claims one, or it is missing. -/
theorem expected_of_passes (hes : (es.map Prod.fst).Nodup) {i : Nat} {key : String}
    {value : Json.Value} (hi : es[i]? = some (key, value)) :
    (∃! j, ClaimsAt claims claims' i j) ∧ tally .missingField (· = path.child (.field key))
        ((List.zipWith (· ++ ·) named templated).flatten ++ unexpected path slots') = 0 ∨
      (∀ j, ¬ClaimsAt claims claims' i j) ∧ tally .missingField (· = path.child (.field key))
        ((List.zipWith (· ++ ·) named templated).flatten ++ unexpected path slots') = 1 := by
  obtain ⟨_, _, outcome, _, hsettled, hclaims, hreport⟩ := settled_of_passes h h' hi
  -- What is reported at the key is what is reported for the field.
  have htally : tally .missingField (· = path.child (.field key))
      ((List.zipWith (· ++ ·) named templated).flatten ++ unexpected path slots') =
        tally .missingField (· = path.child (.field key)) outcome.mismatches := by
    rw [Mismatch.tally_append, tally_missing_unexpected, Nat.add_zero,
      ← filter_of_passes h h' hes hi hreport, tally, tally, List.countP_filter]
    refine List.countP_congr fun m _ => ?_
    simp only [Bool.and_eq_true, decide_eq_true_eq, iff_self_and, and_imp]
    exact fun _ hpath => hpath ▸ List.prefix_rfl
  rw [htally]
  rcases hsettled.claims_or_missing with ⟨⟨j, hclaimed⟩, hwithin⟩ | ⟨hclaimed, hmissing⟩
  · refine .inl ⟨⟨j, (hclaims j).mpr hclaimed, fun j' hj' => ?_⟩, ?_⟩
    · exact claimsAt_unique h h' hj' ((hclaims j).mpr hclaimed)
    · rw [Mismatch.tally_eq_zero_iff]
      exact fun m hm hkind => (hwithin m hm).2 (.inl hkind)
  · refine .inr ⟨fun j hj => ?_, ?_⟩
    · rw [hclaims, hclaimed] at hj
      cases hj
    · rw [hmissing]
      simp [tally]

/-- An actual field is claimed, or it is unexpected. -/
theorem actual_of_passes (has : (as.map Prod.fst).Nodup) {j : Nat} {key : String}
    {value : Json.Value} (hj : as[j]? = some (key, value)) :
    (∃! i, ClaimsAt claims claims' i j) ∧ tally .unexpectedField (· = path.child (.field key))
        ((List.zipWith (· ++ ·) named templated).flatten ++ unexpected path slots') = 0 ∨
      (∀ i, ¬ClaimsAt claims claims' i j) ∧ tally .unexpectedField (· = path.child (.field key))
        ((List.zipWith (· ++ ·) named templated).flatten ++ unexpected path slots') = 1 := by
  have hslots := fields_of_passes h h'
  have hn : (slots'.map Slot.name).Nodup := by rwa [Slot.map_name_eq, hslots]
  have hbelow := tally_unexpected_of_passes h h' (· = path.child (.field key)) fun p hp => by
    rw [hp, Pointer.child, List.length_append, List.length_singleton]
  rw [Mismatch.tally_append, hbelow, Nat.zero_add]
  by_cases hfree : Slot.FreeAt slots' j
  · refine .inr ⟨fun i => not_claimsAt_of_freeAt h h' hfree, ?_⟩
    obtain ⟨slot, hslot, hfree⟩ := hfree
    have hname : slot.name = key := by
      rw [← hslots, Slot.fields, List.getElem?_map, hslot] at hj
      exact congrArg Prod.fst (Option.some.inj hj)
    rw [← hname]
    exact tally_unexpected hn (List.mem_of_getElem? hslot) hfree
  · refine .inl ⟨?_, ?_⟩
    · obtain ⟨i, _, hi⟩ := exists_claimsAt h h'
        (Slot.freeAt_ofFields (List.getElem?_eq_some_iff.mp hj).1) hfree
      exact ⟨i, hi, fun i' hi' => claimsAt_injective h h' hi' hi⟩
    · rw [Mismatch.tally_eq_zero_iff]
      intro m hm hkind hpath
      exact hfree (freeAt_of_unexpected hslots has hj hm (hpath ▸ List.prefix_rfl)).2

/-- As many expected fields are not missing as actual ones are not unexpected: those that are in a
claim. -/
theorem balance_of_passes :
    (es.length : Int) - tally .missingField (·.length = path.length + 1)
        ((List.zipWith (· ++ ·) named templated).flatten ++ unexpected path slots') =
      as.length - tally .unexpectedField (·.length = path.length + 1)
        ((List.zipWith (· ++ ·) named templated).flatten ++ unexpected path slots') := by
  have hes : es.length = (es.countP fun f => hasField as f.1) +
      es.countP fun f => !hasField as f.1 := by
    rw [List.length_eq_countP_add_countP fun f => hasField as f.1]
    simp
  have has : slots'.length = as.length := by
    rw [← fields_of_passes h h', Slot.fields, List.length_map]
  have hstart : (Slot.ofFields as).countP Slot.taken = 0 := by
    simp [Slot.ofFields, List.countP_eq_zero]
  have hmissing := h.tally_missing
  have hmissing' := h'.tally_missing
  have htaken := h.countP_taken
  have htaken' := h'.countP_taken
  have hfree := @tally_unexpected_level path slots'
  rw [Mismatch.tally_append, Mismatch.tally_append, tally_missing_unexpected,
    tally_missing_of_passes h h',
    tally_unexpected_of_passes h h' (·.length = path.length + 1) fun _ hp => hp]
  omega

theorem accounts_of_passes (hes : (es.map Prod.fst).Nodup) (has : (as.map Prod.fst).Nodup) :
    Accounts path es as (ClaimsAt claims claims')
      ((List.zipWith (· ++ ·) named templated).flatten ++ unexpected path slots') where
  in_range := in_range_of_passes h h'
  expected := expected_of_passes h h' hes
  actual := actual_of_passes h h' has
  balance := balance_of_passes h h'

end

/-- A lenient comparison reports no field as unexpected. -/
theorem not_unexpected_of_lenient (hmode : c.fieldMode = .lenient) {e a : Json.Value}
    {scope out : Scope} {ms : List Mismatch} (h : compareNode c path scope e a = .ok (ms, out)) :
    ∀ m ∈ ms, m.kind ≠ .unexpectedField := by
  induction e using Json.Value.induction_children generalizing path scope a ms out with
  | h e ih =>
    intro m hm
    rcases (report_of_compareNode h).of_mem hm with ⟨own, hown, hm⟩ | ⟨x, hx, report, hchild, hm⟩ |
      ⟨extra, hextra, hm⟩
    · exact (hown.at_node m hm).2.2
    · cases hchild with
      | passed => cases hm
      | missing =>
        obtain rfl := List.mem_singleton.mp hm
        exact nofun
      | compared _ hcompare => exact ih x hx hcompare m hm
    · cases hextra with
      | none => cases hm
      | unexpected hstrict =>
        rw [hmode] at hstrict
        cases hstrict

end Walk

/-- In strict mode a comparison of two objects accounts for all their fields; in lenient mode no
field is unexpected, at any depth. -/
theorem ofJson_accounts {c : Config} {symbols : SymbolTable} {expected actual : Document}
    {r : Comparison} (h : Comparison.ofJson c symbols expected actual = .ok r) :
    (c.fieldMode = .strict → ∀ es as, expected.tree = .ok (.object es) →
      actual.tree = .ok (.object as) → expected.IsMaps → actual.IsMaps →
      ∃ claims, Walk.ObjectClaims c .root (.ofTable symbols) es as claims ∧
        Walk.Accounts .root es as claims r.mismatches) ∧
    (c.fieldMode = .lenient → ∀ m ∈ r.mismatches, m.kind ≠ .unexpectedField) := by
  constructor
  · intro hmode es as he ha hexpected hactual
    obtain ⟨out, hwalk⟩ := exists_walk_of_trees he ha h
    obtain ⟨claims, claims', named, templated, slots, slots', mid, hnamed, htemplated, hms⟩ :=
      Walk.exists_passes hwalk
    rw [hms, if_pos hmode]
    exact ⟨_, .passes hnamed htemplated, Walk.accounts_of_passes hnamed htemplated
      (Document.distinctKeys_of_tree hexpected he).self
      (Document.distinctKeys_of_tree hactual ha).self⟩
  · intro hmode
    obtain ⟨e, a, run, _, _, hwalk, rfl⟩ := exists_walk_of_ofJson h
    rw [Walk.mismatches_finish]
    exact Walk.not_unexpected_of_lenient hmode hwalk

/-- Two fields are claimed, one by its name; one is missing and one unexpected. -/
theorem ofJson_accounts_templated :
    ∃ r, Comparison.ofJson ⟨.strict, true, .standard, .auto⟩ .empty
        (.json (.object [("~[key]", .bool false), ("m", .null), ("a", .null)]))
        (.json (.object [("a", .null), ("q", .bool false), ("x", .null)])) = .ok r ∧
      r.mismatches = [⟨[.field "m"], .missingField, "m", Mismatch.absent⟩,
        ⟨[.field "x"], .unexpectedField, Mismatch.absent, "x"⟩] ∧
      ∃ claims, Walk.ObjectClaims ⟨.strict, true, .standard, .auto⟩ .root (.ofTable .empty)
          [("~[key]", .bool false), ("m", .null), ("a", .null)]
          [("a", .null), ("q", .bool false), ("x", .null)] claims ∧
        Walk.Accounts .root [("~[key]", .bool false), ("m", .null), ("a", .null)]
          [("a", .null), ("q", .bool false), ("x", .null)] claims r.mismatches := by
  have hr : Comparison.ofJson ⟨.strict, true, .standard, .auto⟩ .empty
        (.json (.object [("~[key]", .bool false), ("m", .null), ("a", .null)]))
        (.json (.object [("a", .null), ("q", .bool false), ("x", .null)])) =
      .ok (.failed [⟨[.field "m"], .missingField, "m", Mismatch.absent⟩,
        ⟨[.field "x"], .unexpectedField, Mismatch.absent, "x"⟩]) := by cbv
  have hexpected : Document.IsMaps
      (.json (.object [("~[key]", .bool false), ("m", .null), ("a", .null)])) := by
    simp [Document.IsMaps, Json.Value.IsMap]
  have hactual : Document.IsMaps
      (.json (.object [("a", .null), ("q", .bool false), ("x", .null)])) := by
    simp [Document.IsMaps, Json.Value.IsMap]
  exact ⟨_, hr, rfl, (ofJson_accounts hr).1 rfl _ _ rfl rfl hexpected hactual⟩

end TemplateMatch
