import TemplateMatch.Proofs.Walk.Settling

/-!
A pass over the fields of an expected object, as a run: `FieldsRun` lists what each field claims
beside its mismatches. The slots keep the account of it: a field claims one that is free, which is
not free from then on, so no slot is claimed twice (`FieldsRun.claims_injective`).
-/

namespace TemplateMatch

namespace Slot

/-- The fields that the slots stand for. -/
def fields (slots : List Slot) : List (String × Json.Value) :=
  slots.map fun s => (s.name, s.value)

/-- Claims the field at a place if there is one to claim. -/
def claim (slots : List Slot) (index? : Option Nat) : List Slot :=
  match index? with
  | some index => take slots index
  | none => slots

theorem fields_ofFields (fs : List (String × Json.Value)) : fields (ofFields fs) = fs := by
  rw [fields, ofFields, List.map_map]
  exact List.map_id' fs

theorem map_name_eq (slots : List Slot) : slots.map Slot.name = (fields slots).map Prod.fst := by
  rw [fields, List.map_map]
  rfl

theorem mem_fields {slots : List Slot} {slot : Slot} (h : slot ∈ slots) :
    (slot.name, slot.value) ∈ fields slots :=
  List.mem_map.mpr ⟨slot, h, rfl⟩

theorem freeAt_ofFields {fs : List (String × Json.Value)} {index : Nat} (h : index < fs.length) :
    FreeAt (ofFields fs) index := by
  refine ⟨{ name := fs[index].1, value := fs[index].2 }, ?_, rfl⟩
  rw [ofFields, List.getElem?_map, List.getElem?_eq_getElem h]
  rfl

theorem fields_claim (slots : List Slot) (index? : Option Nat) :
    fields (claim slots index?) = fields slots := by
  cases index? with
  | none => rfl
  | some index =>
    apply List.ext_getElem?
    intro j
    rw [fields, fields, claim, take, List.getElem?_map, List.getElem?_map, List.getElem?_modify]
    split
    · cases slots[j]? <;> rfl
    · cases slots[j]? <;> rfl

theorem freeAt_claim {slots : List Slot} {index? : Option Nat} {j : Nat} :
    FreeAt (claim slots index?) j ↔ FreeAt slots j ∧ index? ≠ some j := by
  cases index? with
  | none => exact ⟨fun h => ⟨h, fun hn => by cases hn⟩, fun h => h.1⟩
  | some index =>
    rw [FreeAt, claim, take, List.getElem?_modify]
    by_cases hj : index = j
    · subst hj
      simp
    · have hne : some index ≠ some j := fun h => hj (Option.some.inj h)
      simp [hj, FreeAt]

/-- If no field is reported as unexpected, none is free. -/
theorem not_freeAt_of_unexpected {path : Pointer} {slots : List Slot}
    (h : Walk.unexpected path slots = []) (index : Nat) : ¬FreeAt slots index := by
  rintro ⟨slot, hslot, htaken⟩
  rw [Walk.unexpected, List.map_eq_nil_iff, List.filter_eq_nil_iff] at h
  exact h slot (List.mem_of_getElem? hslot) (by rw [htaken]; rfl)

end Slot

namespace Walk

variable {c : Config} {path : Pointer} {wanted : String → Bool}

/-- How an expected value is compared under its field. -/
def compareField (c : Config) (path : Pointer) (key : String) (value : Json.Value) (scope : Scope)
    (actual : Json.Value) : Result :=
  compareNode c (path.child (.field key)) scope value actual

/-- A pass over fields: with the slots and the scope before, what each field claims, its
mismatches, and the slots and the scope after. -/
inductive FieldsRun (c : Config) (path : Pointer) (wanted : String → Bool) :
    List (String × Json.Value) → List Slot → Scope → List (Option Nat) → List (List Mismatch) →
      List Slot → Scope → Prop
  | nil {slots : List Slot} {scope : Scope} :
    FieldsRun c path wanted [] slots scope [] [] slots scope
  | skip {key : String} {value : Json.Value} {fields : List (String × Json.Value)}
    {slots slots' : List Slot} {scope scope' : Scope} {claims : List (Option Nat)}
    {more : List (List Mismatch)} :
    wanted key = false → FieldsRun c path wanted fields slots scope claims more slots' scope' →
      FieldsRun c path wanted ((key, value) :: fields) slots scope (none :: claims) ([] :: more)
        slots' scope'
  | settle {key : String} {value : Json.Value} {fields : List (String × Json.Value)}
    {slots slots' : List Slot} {scope scope' : Scope} {claims : List (Option Nat)}
    {more : List (List Mismatch)} {outcome : FieldOutcome} :
    wanted key = true →
      Settled c (path.child (.field key)) key (compareField c path key value) slots scope outcome →
      FieldsRun c path wanted fields (Slot.claim slots outcome.claimed) outcome.scope claims more
        slots' scope' →
      FieldsRun c path wanted ((key, value) :: fields) slots scope (outcome.claimed :: claims)
        (outcome.mismatches :: more) slots' scope'

theorem compareFields_settle {f : String × Json.Value} {fields : List (String × Json.Value)}
    {slots : List Slot} {scope : Scope} {outcome : FieldOutcome} (hwanted : wanted f.1 = true)
    (h : settle c (path.child (.field f.1)) f.1 (compareField c path f.1 f.2) slots scope =
      .ok outcome) :
    compareFields c path wanted (f :: fields) slots scope =
      (compareFields c path wanted fields (Slot.claim slots outcome.claimed) outcome.scope).map
        fun r => (outcome.mismatches :: r.1, r.2) := by
  change settle c (path.child (.field f.1)) f.1
    (fun scope actual => compareNode c (path.child (.field f.1)) scope f.2 actual) slots scope =
      .ok outcome at h
  rw [compareFields, if_pos hwanted]
  cases hclaimed : outcome.claimed with
  | none =>
    simp only [h, hclaimed, Slot.claim]
    cases compareFields c path wanted fields slots outcome.scope <;> rfl
  | some index =>
    simp only [h, hclaimed, Slot.claim]
    cases compareFields c path wanted fields (Slot.take slots index) outcome.scope <;> rfl

theorem compareFields_settle_error {f : String × Json.Value} {fields : List (String × Json.Value)}
    {slots : List Slot} {scope : Scope} {e : CompareError} (hwanted : wanted f.1 = true)
    (h : settle c (path.child (.field f.1)) f.1 (compareField c path f.1 f.2) slots scope =
      .error e) :
    compareFields c path wanted (f :: fields) slots scope = .error e := by
  change settle c (path.child (.field f.1)) f.1
    (fun scope actual => compareNode c (path.child (.field f.1)) scope f.2 actual) slots scope =
      .error e at h
  rw [compareFields, if_pos hwanted]
  simp only [h]

theorem compareFields_skip {f : String × Json.Value} {fields : List (String × Json.Value)}
    {slots : List Slot} {scope : Scope} (hwanted : wanted f.1 = false) :
    compareFields c path wanted (f :: fields) slots scope =
      (compareFields c path wanted fields slots scope).map fun r => ([] :: r.1, r.2) := by
  rw [compareFields, if_neg (by simp [hwanted])]
  cases compareFields c path wanted fields slots scope <;> rfl

theorem exists_fieldsRun {fields : List (String × Json.Value)} {slots slots' : List Slot}
    {scope scope' : Scope} {more : List (List Mismatch)}
    (h : compareFields c path wanted fields slots scope = .ok (more, slots', scope')) :
    ∃ claims, FieldsRun c path wanted fields slots scope claims more slots' scope' := by
  induction fields generalizing slots scope more with
  | nil =>
    rw [compareFields] at h
    cases h
    exact ⟨[], .nil⟩
  | cons field fields ih =>
    obtain ⟨key, value⟩ := field
    rw [compareFields] at h
    split at h
    · next hwanted =>
      simp only at h
      split at h
      · cases h
      · next outcome hsettle =>
        split at h
        · cases h
        · next rest slots₂ scope₂ hrest =>
          cases h
          obtain ⟨claims, hclaims⟩ := ih hrest
          exact ⟨_, .settle hwanted (.of_settle hsettle) hclaims⟩
    · next hwanted =>
      split at h
      · cases h
      · next rest slots₂ scope₂ hrest =>
        cases h
        obtain ⟨claims, hclaims⟩ := ih hrest
        exact ⟨_, .skip (by simpa using hwanted) hclaims⟩

namespace FieldsRun

variable {fields : List (String × Json.Value)} {slots slots' : List Slot} {scope scope' : Scope}
  {claims : List (Option Nat)} {more : List (List Mismatch)}

/-- Passes are nothing but what comparing the fields gives. -/
theorem compareFields_eq
    (h : FieldsRun c path wanted fields slots scope claims more slots' scope') :
    compareFields c path wanted fields slots scope = .ok (more, slots', scope') := by
  induction h with
  | nil => rfl
  | @skip key value _ _ _ _ _ _ _ hskip _ ih =>
    rw [compareFields_skip (f := (key, value)) hskip, ih]
    rfl
  | @settle key value _ _ _ _ _ _ _ _ hwanted hsettled _ ih =>
    rw [compareFields_settle (f := (key, value)) hwanted hsettled.settle_eq, ih]
    rfl

theorem length_eq (h : FieldsRun c path wanted fields slots scope claims more slots' scope') :
    more.length = fields.length := by
  induction h with
  | nil => rfl
  | skip _ _ ih => rw [List.length_cons, List.length_cons, ih]
  | settle _ _ _ ih => rw [List.length_cons, List.length_cons, ih]

theorem fields_eq (h : FieldsRun c path wanted fields slots scope claims more slots' scope') :
    Slot.fields slots' = Slot.fields slots := by
  induction h with
  | nil => rfl
  | skip _ _ ih => exact ih
  | settle _ _ _ ih => rw [ih, Slot.fields_claim]

theorem fields_eq_start {as : List (String × Json.Value)}
    (h : FieldsRun c path wanted fields (Slot.ofFields as) scope claims more slots' scope') :
    Slot.fields slots' = as :=
  h.fields_eq.trans (Slot.fields_ofFields as)

/-- Free afterwards is what was free and is not claimed. -/
theorem freeAt_iff (h : FieldsRun c path wanted fields slots scope claims more slots' scope')
    {j : Nat} : Slot.FreeAt slots' j ↔ Slot.FreeAt slots j ∧ some j ∉ claims := by
  induction h with
  | nil => simp
  | skip _ _ ih => simp [ih]
  | settle _ _ _ ih =>
    rw [ih, Slot.freeAt_claim, List.mem_cons, not_or, and_assoc]
    exact and_congr_right fun _ => and_congr_left fun _ => ne_comm

/-- What is claimed was free. -/
theorem freeAt_of_mem (h : FieldsRun c path wanted fields slots scope claims more slots' scope')
    {j : Nat} (hj : some j ∈ claims) : Slot.FreeAt slots j := by
  induction h with
  | nil => cases hj
  | skip _ _ ih => exact ih (by simpa using hj)
  | settle _ hsettled _ ih =>
    rcases List.mem_cons.mp hj with hj | hj
    · exact hsettled.claimed_free hj.symm
    · exact (Slot.freeAt_claim.mp (ih hj)).1

/-- No two fields claim the same slot. -/
theorem claims_injective
    (h : FieldsRun c path wanted fields slots scope claims more slots' scope') {i i' j : Nat}
    (hi : claims[i]? = some (some j)) (hi' : claims[i']? = some (some j)) : i = i' := by
  -- A slot that the first field claims is not free for the others.
  induction h generalizing i i' with
  | nil => cases hi
  | skip _ _ ih =>
    cases i with
    | zero => cases hi
    | succ i =>
      cases i' with
      | zero => cases hi'
      | succ i' => rw [ih hi hi']
  | @settle _ _ _ slots _ _ _ claims _ outcome _ _ hrest ih =>
    have hfirst (k : Nat) (hk : claims[k]? = some (some j)) : outcome.claimed ≠ some j :=
      (Slot.freeAt_claim.mp (hrest.freeAt_of_mem (List.mem_of_getElem? hk))).2
    cases i with
    | zero =>
      cases i' with
      | zero => rfl
      | succ i' => exact absurd (Option.some.inj hi) (hfirst i' hi')
    | succ i =>
      cases i' with
      | zero => exact absurd (Option.some.inj hi') (hfirst i hi)
      | succ i' => rw [ih hi hi']

/-- A field that is not wanted claims nothing. -/
theorem wanted_of_claim (h : FieldsRun c path wanted fields slots scope claims more slots' scope')
    {i j : Nat} (hi : claims[i]? = some (some j)) :
    ∃ key value, fields[i]? = some (key, value) ∧ wanted key = true := by
  induction h generalizing i with
  | nil => cases hi
  | skip _ _ ih =>
    cases i with
    | zero => cases hi
    | succ i => exact ih hi
  | settle hwanted _ _ ih =>
    cases i with
    | zero => exact ⟨_, _, rfl, hwanted⟩
    | succ i => exact ih hi

theorem not_claim_of_skipped
    (h : FieldsRun c path wanted fields slots scope claims more slots' scope') {i : Nat}
    {key : String} {value : Json.Value} (hi : fields[i]? = some (key, value))
    (hwanted : wanted key = false) (j : Nat) : claims[i]? ≠ some (some j) := by
  intro hj
  obtain ⟨_, _, hfield, hwanted'⟩ := h.wanted_of_claim hj
  rw [hi] at hfield
  cases hfield
  rw [hwanted] at hwanted'
  cases hwanted'

/-- A pass up to a field, the field itself, and the pass from there on. -/
theorem split (h : FieldsRun c path wanted fields slots scope claims more slots' scope') {i : Nat}
    {key : String} {value : Json.Value} (hi : fields[i]? = some (key, value))
    (hwanted : wanted key = true) :
    ∃ slots₁ scope₁ outcome,
      FieldsRun c path wanted (fields.take i) slots scope (claims.take i) (more.take i) slots₁
        scope₁ ∧
      Settled c (path.child (.field key)) key (compareField c path key value) slots₁ scope₁
        outcome ∧
      FieldsRun c path wanted (fields.drop (i + 1)) (Slot.claim slots₁ outcome.claimed)
        outcome.scope (claims.drop (i + 1)) (more.drop (i + 1)) slots' scope' ∧
      claims[i]? = some outcome.claimed ∧ more[i]? = some outcome.mismatches := by
  induction h generalizing i with
  | nil => cases hi
  | skip hskip hrest ih =>
    cases i with
    | zero =>
      cases hi
      rw [hskip] at hwanted
      cases hwanted
    | succ i =>
      obtain ⟨slots₁, scope₁, outcome, hbefore, hsettled, hafter, hclaim, hms⟩ := ih hi
      exact ⟨slots₁, scope₁, outcome, .skip hskip hbefore, hsettled, hafter, hclaim, hms⟩
  | settle hwanted' hsettled hrest ih =>
    cases i with
    | zero =>
      cases hi
      exact ⟨_, _, _, .nil, hsettled, hrest, rfl, rfl⟩
    | succ i =>
      obtain ⟨slots₁, scope₁, outcome, hbefore, hsettled₁, hafter, hclaim, hms⟩ := ih hi
      exact ⟨slots₁, scope₁, outcome, .settle hwanted' hsettled hbefore, hsettled₁, hafter, hclaim,
        hms⟩

/-- A field that is not wanted has no mismatches. -/
theorem report_of_skipped (h : FieldsRun c path wanted fields slots scope claims more slots' scope')
    {i : Nat} {key : String} {value : Json.Value} (hi : fields[i]? = some (key, value))
    (hwanted : wanted key = false) : more[i]? = some [] := by
  induction h generalizing i with
  | nil => cases hi
  | skip _ _ ih =>
    cases i with
    | zero => rfl
    | succ i => exact ih hi
  | settle hwanted' _ _ ih =>
    cases i with
    | zero =>
      cases hi
      rw [hwanted] at hwanted'
      cases hwanted'
    | succ i => exact ih hi

/-- If comparing the values keeps a relation, the pass does. -/
theorem kept (h : FieldsRun c path wanted fields slots scope claims more slots' scope')
    {P : String → Prop} {R : Scope → Scope → Prop} (hR : KeptByCaptures c P R)
    (hP : ∀ f ∈ fields, P f.1)
    (hfields : ∀ f ∈ fields, ∀ path s a ms out,
      compareNode c path s f.2 a = .ok (ms, out) → R s out) : R scope scope' := by
  induction h with
  | nil => exact hR.refl _
  | skip _ _ ih =>
    rw [List.forall_mem_cons] at hP hfields
    exact ih hP.2 hfields.2
  | settle _ hsettled _ ih =>
    rw [List.forall_mem_cons] at hP hfields
    have hfirst := hsettled.kept hR hP.1 fun s a ms out => hfields.1 _ s a ms out
    exact hR.trans hfirst (ih hP.2 hfields.2)

end FieldsRun

/-! ## Two passes -/

/-- What a field claims in either of two passes. -/
def ClaimsAt (claims claims' : List (Option Nat)) (i j : Nat) : Prop :=
  claims[i]? = some (some j) ∨ claims'[i]? = some (some j)

section

variable {es : List (String × Json.Value)} {slots slots' slots'' : List Slot}
  {scope mid out : Scope} {claims claims' : List (Option Nat)} {ms ms' : List (List Mismatch)}

theorem claimsAt_injective (h : FieldsRun c path wanted es slots scope claims ms slots' mid)
    {wanted' : String → Bool}
    (h' : FieldsRun c path wanted' es slots' mid claims' ms' slots'' out) {i i' j : Nat}
    (hi : ClaimsAt claims claims' i j) (hi' : ClaimsAt claims claims' i' j) : i = i' := by
  -- What the first pass claims is not free in the second.
  have hapart (k k' : Nat) (hk : claims[k]? = some (some j)) : claims'[k']? ≠ some (some j) := by
    intro hk'
    have hfree := h'.freeAt_of_mem (List.mem_of_getElem? hk')
    exact (h.freeAt_iff.mp hfree).2 (List.mem_of_getElem? hk)
  rcases hi with hi | hi
  · rcases hi' with hi' | hi'
    · exact h.claims_injective hi hi'
    · exact absurd hi' (hapart i i' hi)
  · rcases hi' with hi' | hi'
    · exact absurd hi (hapart i' i hi')
    · exact h'.claims_injective hi hi'

theorem claimsAt_unique (h : FieldsRun c path wanted es slots scope claims ms slots' mid)
    (h' : FieldsRun c path (fun key => !wanted key) es slots' mid claims' ms' slots'' out)
    {i j j' : Nat} (hj : ClaimsAt claims claims' i j) (hj' : ClaimsAt claims claims' i j') :
    j = j' := by
  -- A field is wanted in one pass only.
  have hapart (k k' : Nat) (hk : claims[i]? = some (some k)) : claims'[i]? ≠ some (some k') := by
    intro hk'
    obtain ⟨key, value, hfield, hwanted⟩ := h.wanted_of_claim hk
    obtain ⟨key', value', hfield', hwanted'⟩ := h'.wanted_of_claim hk'
    rw [hfield] at hfield'
    cases hfield'
    simp [hwanted] at hwanted'
  rcases hj with hj | hj
  · rcases hj' with hj' | hj'
    · rw [hj] at hj'
      exact Option.some.inj (Option.some.inj hj')
    · exact absurd hj' (hapart j j' hj)
  · rcases hj' with hj' | hj'
    · exact absurd hj (hapart j' j hj')
    · rw [hj] at hj'
      exact Option.some.inj (Option.some.inj hj')

/-- Both passes are without a mismatch if their mismatches by field are. -/
theorem passed_of_flatten_eq_nil
    (h : FieldsRun c path wanted es slots scope claims ms slots' mid) {wanted' : String → Bool}
    (h' : FieldsRun c path wanted' es slots' mid claims' ms' slots'' out)
    (hpassed : (List.zipWith (· ++ ·) ms ms').flatten = []) :
    (∀ l ∈ ms, l = []) ∧ ∀ l ∈ ms', l = [] := by
  have hlen : ms.length = ms'.length := h.length_eq.trans h'.length_eq.symm
  -- Both lists have an entry for each field, so none is lost where they are joined.
  have hat (i : Nat) (hi : i < ms.length) (hi' : i < ms'.length) : ms[i] = [] ∧ ms'[i] = [] := by
    rw [List.flatten_eq_nil_iff] at hpassed
    refine List.append_eq_nil_iff.mp (hpassed _ (List.mem_of_getElem? (i := i) ?_))
    rw [List.getElem?_zipWith, List.getElem?_eq_getElem hi, List.getElem?_eq_getElem hi']
  constructor
  · intro l hl
    obtain ⟨i, hi, rfl⟩ := List.mem_iff_getElem.mp hl
    exact (hat i hi (by omega)).1
  · intro l hl
    obtain ⟨i, hi, rfl⟩ := List.mem_iff_getElem.mp hl
    exact (hat i (by omega) hi).2

theorem fields_of_passes {es' as : List (String × Json.Value)}
    (h : FieldsRun c path wanted es (Slot.ofFields as) scope claims ms slots' mid)
    {wanted' : String → Bool}
    (h' : FieldsRun c path wanted' es' slots' mid claims' ms' slots'' out) :
    Slot.fields slots'' = as :=
  h'.fields_eq.trans h.fields_eq_start

/-- What is free in the end has been claimed in neither pass. -/
theorem not_claimsAt_of_freeAt (h : FieldsRun c path wanted es slots scope claims ms slots' mid)
    {wanted' : String → Bool}
    (h' : FieldsRun c path wanted' es slots' mid claims' ms' slots'' out) {i j : Nat}
    (hfree : Slot.FreeAt slots'' j) : ¬ClaimsAt claims claims' i j := by
  obtain ⟨hmid, hunclaimed'⟩ := h'.freeAt_iff.mp hfree
  obtain ⟨_, hunclaimed⟩ := h.freeAt_iff.mp hmid
  rintro (hclaim | hclaim)
  · exact hunclaimed (List.mem_of_getElem? hclaim)
  · exact hunclaimed' (List.mem_of_getElem? hclaim)

/-- What was free and is not any more has been claimed. -/
theorem exists_claimsAt (h : FieldsRun c path wanted es slots scope claims ms slots' mid)
    {wanted' : String → Bool}
    (h' : FieldsRun c path wanted' es slots' mid claims' ms' slots'' out) {j : Nat}
    (hbefore : Slot.FreeAt slots j) (hafter : ¬Slot.FreeAt slots'' j) :
    ∃ i < es.length, ClaimsAt claims claims' i j := by
  have hclaimed : some j ∈ claims ∨ some j ∈ claims' := by
    by_contra hnone
    rw [not_or] at hnone
    exact hafter (h'.freeAt_iff.mpr ⟨h.freeAt_iff.mpr ⟨hbefore, hnone.1⟩, hnone.2⟩)
  rcases hclaimed with hmem | hmem
  · obtain ⟨i, hi⟩ := List.mem_iff_getElem?.mp hmem
    obtain ⟨key, value, hfield, _⟩ := h.wanted_of_claim hi
    exact ⟨i, (List.getElem?_eq_some_iff.mp hfield).1, .inl hi⟩
  · obtain ⟨i, hi⟩ := List.mem_iff_getElem?.mp hmem
    obtain ⟨key, value, hfield, _⟩ := h'.wanted_of_claim hi
    exact ⟨i, (List.getElem?_eq_some_iff.mp hfield).1, .inr hi⟩

end

end Walk

end TemplateMatch
