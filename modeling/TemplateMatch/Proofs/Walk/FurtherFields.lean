import TemplateMatch.Proofs.Walk.Leniency

/-!
Fields that only the actual object has. In lenient mode a comparison that passes does so with
further fields behind those of the actual object too, and captures the same (`passed_further`).
Their slots come last, so they are candidates behind all others, and a candidate that passes is
never given up for a later one.
-/

namespace TemplateMatch

/-! ## Slots -/

namespace Slot

variable {slots more : List Slot}

theorem ofFields_append (fields more : List (String × Json.Value)) :
    ofFields (fields ++ more) = ofFields fields ++ ofFields more := List.map_append

/-- A slot that is free stays at its place in front of others. -/
theorem claim_append {index? : Option Nat} (h : ∀ index, index? = some index → FreeAt slots index) :
    claim (slots ++ more) index? = claim slots index? ++ more := by
  cases index? with
  | none => rfl
  | some index =>
    obtain ⟨slot, hslot, _⟩ := h index rfl
    have hlt : index < slots.length := (List.getElem?_eq_some_iff.mp hslot).1
    apply List.ext_getElem?
    intro j
    rw [claim, claim, take, take, List.getElem?_modify, List.getElem?_append, List.getElem?_append,
      List.length_modify, List.getElem?_modify]
    by_cases hj : j < slots.length
    · rw [if_pos hj, if_pos hj]
    · have hne : index ≠ j := by omega
      simp only [if_neg hj, if_neg hne]
      exact id_map _

end Slot

/-! ## Candidates -/

namespace Candidate

variable {key : String} {slots more : List Slot}

theorem own?_append (h : ∀ slot ∈ more, slot.name ≠ key) :
    own? key (slots ++ more) = own? key slots := by
  have hmore : (more.zipIdx slots.length).find? (fun s => s.1.name == key) = none := by
    rw [List.find?_eq_none]
    rintro ⟨slot, index⟩ hmem hname
    exact h slot (List.fst_mem_of_mem_zipIdx hmem) (beq_iff_eq.mp hname)
  rw [own?, own?, List.zipIdx_append, List.find?_append, Nat.zero_add, hmore, Option.or_none]

/-- Slots behind the others give candidates behind the others. -/
theorem exists_list_append (template : Synthesis) (h : ∀ slot ∈ more, slot.name ≠ key) :
    ∃ last, list key template (slots ++ more) = list key template slots ++ last := by
  rw [list, list]
  simp only [own?_append h, List.zipIdx_append, List.filterMap_append, ← List.append_assoc]
  exact ⟨_, rfl⟩

end Candidate

namespace Walk

variable {c : Config} {path : Pointer} {slots more : List Slot} {scope : Scope}

/-! ## Fields -/

/-- A field that is settled without a mismatch is settled so with further slots. -/
theorem Settled.settle_append {key : String} {compare : Scope → Json.Value → Result}
    {outcome : FieldOutcome} (h : Settled c path key compare slots scope outcome)
    (hpassed : outcome.mismatches = []) (hmore : ∀ slot ∈ more, slot.name ≠ key) :
    settle c path key compare (slots ++ more) scope = .ok outcome := by
  cases h with
  | missing => cases hpassed
  | @chosen template _ _ htemplate hcs hchosen =>
    cases hchosen with
    | failed hrejected => exact absurd hpassed hrejected.1
    | passed hbefore hc =>
      obtain ⟨last, hlist⟩ : ∃ last, Candidate.list key template (slots ++ more) =
          Candidate.list key template slots ++ last :=
        Candidate.exists_list_append template hmore
      rw [hcs, List.append_assoc, List.cons_append] at hlist
      simp only [settle, htemplate, hlist, choose_of_passed hbefore hc]

/-- A pass without a mismatch is the same with further slots. -/
theorem FieldsRun.compareFields_append {wanted : String → Bool} (wanted' : String → Bool)
    {fields : List (String × Json.Value)} {slots' : List Slot} {scope' : Scope}
    {claims : List (Option Nat)} {reports : List (List Mismatch)}
    (h : FieldsRun c path wanted fields slots scope claims reports slots' scope')
    (hpassed : ∀ ms ∈ reports, ms = []) (hwanted : ∀ f ∈ fields, wanted' f.1 = wanted f.1)
    (hmore : ∀ f ∈ fields, ∀ slot ∈ more, slot.name ≠ f.1) :
    compareFields c path wanted' fields (slots ++ more) scope =
      .ok (reports, slots' ++ more, scope') := by
  induction h with
  | nil => rfl
  | @skip key value _ _ _ _ _ _ _ hskip _ ih =>
    rw [List.forall_mem_cons] at hpassed hwanted hmore
    rw [compareFields_skip (f := (key, value)) (hwanted.1.trans hskip),
      ih hpassed.2 hwanted.2 hmore.2]
    rfl
  | @settle key value _ slots _ _ _ _ _ outcome hwants hsettled _ ih =>
    rw [List.forall_mem_cons] at hpassed hwanted hmore
    have hsettle := hsettled.settle_append hpassed.1 hmore.1
    have hclaim : Slot.claim (slots ++ more) outcome.claimed =
        Slot.claim slots outcome.claimed ++ more :=
      Slot.claim_append fun _ => hsettled.claimed_free
    rw [compareFields_settle (f := (key, value)) (hwanted.1.trans hwants) hsettle, hclaim,
      ih hpassed.2 hwanted.2 hmore.2]
    rfl

/-! ## Objects -/

theorem hasField_append {fields more : List (String × Json.Value)} {key : String}
    (h : ∀ f ∈ more, f.1 ≠ key) : hasField (fields ++ more) key = hasField fields key := by
  have hmore : hasField more key = false := by
    rw [hasField, List.any_eq_false]
    exact fun f hf hname => h f hf (beq_iff_eq.mp hname)
  rw [hasField, List.any_append, ← hasField, ← hasField, hmore, Bool.or_false]

/-- In lenient mode an object passes with further fields whose names the expected one does not
have. -/
theorem compareNode_further {es as more : List (String × Json.Value)} {out : Scope}
    (hmode : c.fieldMode = .lenient)
    (h : compareNode c path scope (.object es) (.object as) = .ok ([], out))
    (hmore : ∀ f ∈ more, ∀ e ∈ es, f.1 ≠ e.1) :
    compareNode c path scope (.object es) (.object (as ++ more)) = .ok ([], out) := by
  have hstrict : c.fieldMode ≠ .strict := by
    rw [hmode]
    decide
  obtain ⟨claims, claims', named, templated, slots, slots', mid, hnamed, htemplated, hms⟩ :=
    exists_passes h
  rw [if_neg hstrict, List.append_nil] at hms
  obtain ⟨hpassed, hpassed'⟩ := passed_of_flatten_eq_nil hnamed htemplated hms.symm
  -- Which fields are looked up by name is settled by the expected names alone.
  have hwanted (e : String × Json.Value) (he : e ∈ es) :
      hasField (as ++ more) e.1 = hasField as e.1 :=
    hasField_append fun f hf => hmore f hf e he
  have hslots (e : String × Json.Value) (he : e ∈ es) :
      ∀ slot ∈ Slot.ofFields more, slot.name ≠ e.1 := by
    intro slot hslot
    obtain ⟨f, hf, rfl⟩ := List.mem_map.mp hslot
    exact hmore f hf e he
  have hfirst := hnamed.compareFields_append (hasField (as ++ more)) hpassed hwanted hslots
  have hsecond := htemplated.compareFields_append (fun key => !hasField (as ++ more) key) hpassed'
    (fun e he => congrArg (! ·) (hwanted e he)) hslots
  rw [← Slot.ofFields_append] at hfirst
  rw [compareNode_object hfirst hsecond, if_neg hstrict, ← hms]
  rfl

end Walk

/-- What passes in lenient mode passes with further fields behind those of the actual object, and
captures the same, whether or not their names satisfy the keys of the expected object. -/
theorem passed_further {c : Config} {symbols captured : SymbolTable}
    {expected actual further : Document} {es as more : List (String × Json.Value)}
    (he : expected.tree = .ok (.object es)) (ha : actual.tree = .ok (.object as))
    (hfurther : further.tree = .ok (.object (as ++ more)))
    (hnew : ∀ f ∈ more, f.1 ∉ es.map Prod.fst)
    (h : Comparison.ofJson c.lenient symbols expected actual = .ok (.passed captured)) :
    Comparison.ofJson c.lenient symbols expected further = .ok (.passed captured) := by
  have hmore (f : String × Json.Value) (hf : f ∈ more) (e : String × Json.Value) (he : e ∈ es) :
      f.1 ≠ e.1 := fun hname => hnew f hf (hname ▸ List.mem_map_of_mem he)
  rw [Comparison.ofJson_eq he ha] at h
  obtain ⟨⟨ms, out⟩, hwalk, hfinish⟩ := map_eq_ok.mp h
  cases ms with
  | cons m ms => cases hfinish
  | nil =>
    rw [Comparison.ofJson_eq he hfurther, Walk.compareNode_further rfl hwalk hmore, ← hfinish]
    rfl

/-- The new field satisfies the key and has the value that is expected. -/
theorem passed_further_templated :
    Comparison.ofJson (Config.lenient ⟨.strict, false, .standard, .literal⟩) .empty
        (.json (.object [("~[k]", .string "~[v]")]))
        (.json (.object [("p", .string "1"), ("q", .string "2")])) =
      .ok (.passed (.ofPairs [("k", "p"), ("v", "1")])) :=
  @passed_further ⟨.strict, false, .standard, .literal⟩ _ _ _ (.json (.object [("p", .string "1")]))
    _ _ [("p", .string "1")] [("q", .string "2")] rfl rfl rfl (by simp) (by cbv)

end TemplateMatch
