import Mathlib
import TemplateMatch.Proofs.Json.Parts
import TemplateMatch.Proofs.Walk.Fields

/-!
One expected field among the fields of an actual object (`Walk.answerField`). Its candidates are
tried one by one (`Candidate.IsFirst`), and what a rejected one has captured is gone: the field is
answered as if the one that it claims had been the only one left (`answerField_isolated`).
-/

namespace TemplateMatch

/-! ## Candidates in order -/

namespace Slot

/-- The first slot with this name stands at the place. -/
def IsOwn (key : String) (slots : List Slot) (index : Nat) : Prop :=
  (∃ slot, slots[index]? = some slot ∧ slot.name = key) ∧
    ∀ j < index, ∀ slot, slots[j]? = some slot → slot.name ≠ key

/-- All slots but one are marked as taken. -/
def onlyFree (slots : List Slot) (index : Nat) : List Slot :=
  slots.mapIdx fun j s => { s with taken := s.taken || j != index }

/-- The slot at a place was free, and marking it as taken is all the difference. -/
def NewlyTaken (slots slots' : List Slot) (index : Nat) : Prop :=
  ∃ slot, slots[index]? = some slot ∧ slot.taken = false ∧
    slots' = slots.set index { slot with taken := true }

/-- The order of candidates: the field with the key's own name, then the others as they stand. -/
def Before (key : String) (slots : List Slot) (i j : Nat) : Prop :=
  i ≠ j ∧ (IsOwn key slots i ∨ ¬IsOwn key slots j ∧ i < j)

theorem newlyTaken_take {slots : List Slot} {index : Nat} (h : FreeAt slots index) :
    NewlyTaken slots (take slots index) index := by
  obtain ⟨slot, hslot, hfree⟩ := h
  refine ⟨slot, hslot, hfree, ?_⟩
  apply List.ext_getElem?
  intro j
  rw [take, List.getElem?_modify, List.getElem?_set]
  by_cases hj : index = j
  · subst hj
    obtain ⟨hi, hget⟩ := List.getElem?_eq_some_iff.mp hslot
    simp [hi, hget]
  · simp [hj]

theorem getElem?_onlyFree (slots : List Slot) (index j : Nat) :
    (onlyFree slots index)[j]? =
      slots[j]?.map fun s => { s with taken := s.taken || j != index } := by
  rw [onlyFree, List.getElem?_mapIdx]

theorem isOwn_onlyFree {key : String} {slots : List Slot} {index i : Nat} :
    IsOwn key (onlyFree slots index) i ↔ IsOwn key slots i := by
  simp only [IsOwn, getElem?_onlyFree, Option.map_eq_some_iff]
  constructor
  · rintro ⟨⟨_, ⟨slot, hslot, rfl⟩, hname⟩, hbefore⟩
    refine ⟨⟨slot, hslot, hname⟩, fun j hj s hs => ?_⟩
    exact hbefore j hj { s with taken := s.taken || j != index } ⟨s, hs, rfl⟩
  · rintro ⟨⟨slot, hslot, hname⟩, hbefore⟩
    refine ⟨⟨_, ⟨slot, hslot, rfl⟩, hname⟩, fun j hj _ hs => ?_⟩
    obtain ⟨s, hs, rfl⟩ := hs
    exact hbefore j hj s hs

end Slot

namespace Candidate

variable {key : String} {template : Synthesis} {slots : List Slot}

/-- A candidate for a key under its template: a free field that has the key for a name, or whose
name satisfies the template, with what the name captures. -/
def Eligible (key : String) (template : Synthesis) (slots : List Slot) (c : Candidate) : Prop :=
  ∃ slot, slots[c.index]? = some slot ∧ slot.taken = false ∧ slot.value = c.value ∧
    (Slot.IsOwn key slots c.index ∧ c.captures = (template.captures key).getD [] ∨
      ¬Slot.IsOwn key slots c.index ∧ template.captures slot.name = some c.captures)

/-- The first candidate of those with a property. -/
def IsFirst (key : String) (template : Synthesis) (slots : List Slot) (P : Candidate → Prop)
    (c : Candidate) : Prop :=
  c.Eligible key template slots ∧ P c ∧
    ∀ d, d.Eligible key template slots → P d → d ≠ c → Slot.Before key slots c.index d.index

theorem own?_eq_some_iff_isOwn {slot : Slot} {index : Nat} :
    own? key slots = some (slot, index) ↔
      Slot.IsOwn key slots index ∧ slots[index]? = some slot ∧ slot.taken = false := by
  rw [own?, Option.filter_eq_some_iff, List.find?_eq_some_iff_getElem]
  simp only [List.length_zipIdx, List.getElem_zipIdx, Nat.zero_add, Bool.not_eq_true',
    beq_iff_eq, beq_eq_false_iff_ne, Prod.mk.injEq]
  constructor
  · rintro ⟨⟨hname, i, hi, ⟨rfl, rfl⟩, hbefore⟩, hfree⟩
    refine ⟨⟨⟨_, List.getElem?_eq_getElem hi, hname⟩, fun j hj slot hslot => ?_⟩,
      List.getElem?_eq_getElem hi, hfree⟩
    obtain ⟨hj', rfl⟩ := List.getElem?_eq_some_iff.mp hslot
    exact hbefore j hj
  · rintro ⟨⟨⟨slot', hslot', hname⟩, hbefore⟩, hslot, hfree⟩
    obtain rfl : slot = slot' := Option.some.inj (hslot.symm.trans hslot')
    obtain ⟨hi, hget⟩ := List.getElem?_eq_some_iff.mp hslot
    refine ⟨⟨hname, index, hi, ⟨hget, rfl⟩, fun j hj => ?_⟩, hfree⟩
    exact hbefore j hj _ (List.getElem?_eq_getElem (Nat.lt_trans hj hi))

/-- The candidates but the one with the key's own name. -/
def others (key : String) (template : Synthesis) (slots : List Slot) : List Candidate :=
  slots.zipIdx.filterMap fun s =>
    if s.1.taken || (own? key slots).map Prod.snd == some s.2 then none
    else (template.captures s.1.name).map fun captures =>
      { index := s.2, value := s.1.value, captures }

theorem list_eq (key : String) (template : Synthesis) (slots : List Slot) :
    list key template slots = ((own? key slots).toList.map fun s =>
      ⟨s.2, s.1.value, (template.captures key).getD []⟩) ++ others key template slots := rfl

theorem mem_others_iff {c : Candidate} :
    c ∈ others key template slots ↔
      ∃ slot, slots[c.index]? = some slot ∧ slot.taken = false ∧ slot.value = c.value ∧
        ¬Slot.IsOwn key slots c.index ∧ template.captures slot.name = some c.captures := by
  rw [others, List.mem_filterMap]
  constructor
  · rintro ⟨⟨slot, index⟩, hmem, hc⟩
    have hslot := List.mem_zipIdx_iff_getElem?.mp hmem
    split at hc
    · cases hc
    · next hother =>
      obtain ⟨captures, hcaptures, rfl⟩ := Option.map_eq_some_iff.mp hc
      simp only [Bool.or_eq_true, beq_iff_eq, not_or, Bool.not_eq_true] at hother
      refine ⟨slot, hslot, hother.1, rfl, fun hown => hother.2 ?_, hcaptures⟩
      rw [own?_eq_some_iff_isOwn.mpr ⟨hown, hslot, hother.1⟩]
      rfl
  · rintro ⟨slot, hslot, hfree, hvalue, hother, hcaptures⟩
    refine ⟨(slot, c.index), List.mem_zipIdx_iff_getElem?.mpr hslot, ?_⟩
    have hindex : (own? key slots).map Prod.snd ≠ some c.index := by
      intro h
      obtain ⟨⟨slot', index⟩, hown, rfl⟩ := Option.map_eq_some_iff.mp h
      exact hother (own?_eq_some_iff_isOwn.mp hown).1
    rw [if_neg (by simp [hfree, hindex]), hcaptures, Option.map_some, hvalue]

theorem pairwise_others (key : String) (template : Synthesis) (slots : List Slot) :
    (others key template slots).Pairwise fun c d => c.index < d.index := by
  have hindices : slots.zipIdx.Pairwise fun s t => s.2 < t.2 := by
    rw [← List.pairwise_map (R := (· < ·)), List.zipIdx_map_snd]
    exact List.pairwise_lt_range'
  refine hindices.filterMap _ fun s t hlt c hc d hd => ?_
  split at hc
  · cases hc
  · obtain ⟨_, _, rfl⟩ := Option.map_eq_some_iff.mp hc
    split at hd
    · cases hd
    · obtain ⟨_, _, rfl⟩ := Option.map_eq_some_iff.mp hd
      exact hlt

theorem mem_list_iff {c : Candidate} :
    c ∈ list key template slots ↔ c.Eligible key template slots := by
  rw [list_eq, List.mem_append, mem_others_iff]
  constructor
  · rintro (h | ⟨slot, hslot, hfree, hvalue, hother, hcaptures⟩)
    · obtain ⟨⟨slot, index⟩, hown, rfl⟩ := List.mem_map.mp h
      obtain ⟨hown, hslot, hfree⟩ := own?_eq_some_iff_isOwn.mp (Option.mem_toList.mp hown)
      exact ⟨slot, hslot, hfree, rfl, .inl ⟨hown, rfl⟩⟩
    · exact ⟨slot, hslot, hfree, hvalue, .inr ⟨hother, hcaptures⟩⟩
  · rintro ⟨slot, hslot, hfree, hvalue, ⟨hown, hcaptures⟩ | ⟨hother, hcaptures⟩⟩
    · refine .inl (List.mem_map.mpr ⟨(slot, c.index), Option.mem_toList.mpr ?_, ?_⟩)
      · exact own?_eq_some_iff_isOwn.mpr ⟨hown, hslot, hfree⟩
      · rw [hvalue, ← hcaptures]
    · exact .inr ⟨slot, hslot, hfree, hvalue, hother, hcaptures⟩

theorem pairwise_before_list (key : String) (template : Synthesis) (slots : List Slot) :
    (list key template slots).Pairwise fun c d => Slot.Before key slots c.index d.index := by
  rw [list_eq, List.pairwise_append]
  refine ⟨?_, ?_, ?_⟩
  · cases own? key slots <;> simp
  · refine (pairwise_others key template slots).imp_of_mem fun _ hd hlt => ?_
    obtain ⟨_, _, _, _, hother, _⟩ := mem_others_iff.mp hd
    exact ⟨Nat.ne_of_lt hlt, .inr ⟨hother, hlt⟩⟩
  · intro c hc d hd
    obtain ⟨⟨slot, index⟩, hown, rfl⟩ := List.mem_map.mp hc
    obtain ⟨hown, _, _⟩ := own?_eq_some_iff_isOwn.mp (Option.mem_toList.mp hown)
    obtain ⟨_, _, _, _, hother, _⟩ := mem_others_iff.mp hd
    exact ⟨fun h => hother (h ▸ hown), .inl hown⟩

theorem eligible_onlyFree {index : Nat} {c : Candidate} :
    c.Eligible key template (Slot.onlyFree slots index) ↔
      c.Eligible key template slots ∧ c.index = index := by
  simp only [Eligible, Slot.isOwn_onlyFree, Slot.getElem?_onlyFree, Option.map_eq_some_iff]
  constructor
  · rintro ⟨_, ⟨slot, hslot, rfl⟩, hfree, hvalue, hcaptures⟩
    simp only [Bool.or_eq_false_iff, bne_eq_false_iff_eq] at hfree
    exact ⟨⟨slot, hslot, hfree.1, hvalue, hcaptures⟩, hfree.2⟩
  · rintro ⟨⟨slot, hslot, hfree, hvalue, hcaptures⟩, hindex⟩
    exact ⟨_, ⟨slot, hslot, rfl⟩, by simp [hfree, hindex], hvalue, hcaptures⟩

/-- With the other slots taken, a candidate is the only one. -/
theorem list_onlyFree {c : Candidate} (h : c.Eligible key template slots) :
    list key template (Slot.onlyFree slots c.index) = [c] := by
  have hmem : c ∈ list key template (Slot.onlyFree slots c.index) :=
    mem_list_iff.mpr (eligible_onlyFree.mpr ⟨h, rfl⟩)
  have hindex (d : Candidate) (hd : d ∈ list key template (Slot.onlyFree slots c.index)) :
      d.index = c.index := (eligible_onlyFree.mp (mem_list_iff.mp hd)).2
  -- Two candidates would stand at different places, and there is only one free place.
  have hpairwise := pairwise_before_list key template (Slot.onlyFree slots c.index)
  match hlist : list key template (Slot.onlyFree slots c.index) with
  | [] =>
    rw [hlist] at hmem
    cases hmem
  | [d] =>
    rw [hlist] at hmem
    rw [List.mem_singleton.mp hmem]
  | d :: e :: rest =>
    rw [hlist] at hindex hpairwise
    refine absurd ?_ (List.rel_of_pairwise_cons hpairwise List.mem_cons_self).1
    rw [hindex d List.mem_cons_self, hindex e (List.mem_cons_of_mem _ List.mem_cons_self)]

/-- The first of the list with a property, if there is none before it. -/
theorem isFirst_of_list_eq {before after : List Candidate} {c : Candidate} {P : Candidate → Prop}
    (hlist : list key template slots = before ++ c :: after) (hc : P c)
    (hbefore : ∀ b ∈ before, ¬P b) : c.IsFirst key template slots P := by
  have hpairwise := pairwise_before_list key template slots
  rw [hlist, List.pairwise_append] at hpairwise
  refine ⟨mem_list_iff.mp (hlist ▸ List.mem_append_right _ List.mem_cons_self), hc,
    fun d hd hPd hne => ?_⟩
  rw [← mem_list_iff, hlist, List.mem_append, List.mem_cons] at hd
  rcases hd with hd | rfl | hd
  · exact absurd hPd (hbefore d hd)
  · exact absurd rfl hne
  · exact List.rel_of_pairwise_cons hpairwise.2.1 hd

theorem Eligible.freeAt {c : Candidate} (h : c.Eligible key template slots) :
    Slot.FreeAt slots c.index := by
  obtain ⟨slot, hslot, hfree, _⟩ := h
  exact ⟨slot, hslot, hfree⟩

end Candidate

/-! ## A field -/

namespace Walk

variable {c : Config} {path : Pointer} {key : String} {value : Json.Value} {slots slots' : List Slot}
  {scope out : Scope} {ms : List Mismatch}

/-- Finds the actual field that answers an expected one: the mismatches, the slots with the one that
is claimed, and the scope with what was captured. -/
def answerField (c : Config) (path : Pointer) (key : String) (value : Json.Value)
    (slots : List Slot) (scope : Scope) : Except CompareError (List Mismatch × List Slot × Scope) :=
  (settle c (path.child (.field key)) key (compareField c path key value) slots scope).map
    fun outcome => (outcome.mismatches, Slot.claim slots outcome.claimed, outcome.scope)

/-- A pass over the fields answers one wanted field after the other. -/
theorem compareFields_cons {wanted : String → Bool} {fields : List (String × Json.Value)}
    (hwanted : wanted key = true) :
    compareFields c path wanted ((key, value) :: fields) slots scope =
      (answerField c path key value slots scope).bind fun r =>
        (compareFields c path wanted fields r.2.1 r.2.2).map fun rest => (r.1 :: rest.1, rest.2) := by
  rw [answerField]
  cases hsettle : settle c (path.child (.field key)) key (compareField c path key value) slots
      scope with
  | error e => exact compareFields_settle_error (f := (key, value)) hwanted hsettle
  | ok outcome => exact compareFields_settle (f := (key, value)) hwanted hsettle

/-- A candidate is tried in the scope before the field, with what its name captures. -/
def trial (c : Config) (path : Pointer) (key : String) (value : Json.Value) (scope : Scope)
    (candidate : Candidate) : Result :=
  compareField c path key value (scope.bindAll candidate.captures) candidate.value

/-- The value of a candidate produces no mismatch. -/
def Accepted (c : Config) (path : Pointer) (key : String) (value : Json.Value) (scope : Scope)
    (candidate : Candidate) : Prop :=
  ∃ after, trial c path key value scope candidate = .ok ([], after)

/-- What becomes of a field, by its candidates: the first one that is accepted answers it with what
it captures; if there is none, the first of all answers it with its mismatches, and what it captures
is dropped; and without candidates the field is missing. -/
inductive FieldAnswer (c : Config) (path : Pointer) (key : String) (value : Json.Value)
    (slots : List Slot) (scope : Scope) (template : Synthesis) :
    List Mismatch → List Slot → Scope → Prop
  | accepted {candidate : Candidate} {slots' : List Slot} {out : Scope} :
    candidate.IsFirst key template slots (Accepted c path key value scope) →
      trial c path key value scope candidate = .ok ([], out) →
      Slot.NewlyTaken slots slots' candidate.index →
      FieldAnswer c path key value slots scope template [] slots' out
  | rejected {candidate : Candidate} {slots' : List Slot} {ms : List Mismatch} {dropped : Scope} :
    (∀ d : Candidate, d.Eligible key template slots → ¬Accepted c path key value scope d) →
      candidate.IsFirst key template slots (fun _ => True) →
      trial c path key value scope candidate = .ok (ms, dropped) →
      Slot.NewlyTaken slots slots' candidate.index →
      FieldAnswer c path key value slots scope template ms slots' scope
  | missing : (∀ d : Candidate, ¬d.Eligible key template slots) →
      FieldAnswer c path key value slots scope template
        [⟨path.child (.field key), .missingField, key, Mismatch.absent⟩] slots scope

theorem not_accepted_of_rejected {candidate : Candidate}
    (h : ∃ ms, Rejected (compareField c path key value) scope candidate ms) :
    ¬Accepted c path key value scope candidate := by
  rintro ⟨after, hafter⟩
  obtain ⟨ms, hne, out, hout⟩ := h
  rw [trial, hout] at hafter
  cases hafter
  exact hne rfl

theorem fieldAnswer_of_chosen {template : Synthesis} {outcome : FieldOutcome}
    (h : Chosen (compareField c path key value) scope (Candidate.list key template slots)
      (some outcome)) :
    FieldAnswer c path key value slots scope template outcome.mismatches
      (Slot.claim slots outcome.claimed) outcome.scope := by
  generalize hlist : Candidate.list key template slots = cs at h
  cases h with
  | passed hbefore htrial =>
    have hfirst := Candidate.isFirst_of_list_eq hlist ⟨_, htrial⟩ fun b hb =>
      not_accepted_of_rejected (hbefore b hb)
    exact .accepted hfirst htrial (Slot.newlyTaken_take hfirst.1.freeAt)
  | failed hrejected hrest =>
    have hfirst :=
      @Candidate.isFirst_of_list_eq _ _ _ [] _ _ (fun _ => True) hlist trivial nofun
    obtain ⟨dropped, htrial⟩ := hrejected.2
    refine .rejected (fun d hd => not_accepted_of_rejected ?_) hfirst htrial
      (Slot.newlyTaken_take hfirst.1.freeAt)
    rw [← Candidate.mem_list_iff, hlist, List.mem_cons] at hd
    rcases hd with rfl | hd
    · exact ⟨_, hrejected⟩
    · exact hrest d hd

theorem exists_fieldAnswer (h : answerField c path key value slots scope = .ok (ms, slots', out)) :
    ∃ template, synthesize c (path.child (.field key)) scope key = .ok template ∧
      FieldAnswer c path key value slots scope template ms slots' out := by
  obtain ⟨outcome, hsettle, houtcome⟩ := map_eq_ok.mp h
  cases houtcome
  cases Settled.of_settle hsettle with
  | chosen htemplate hlist hchosen =>
    subst hlist
    exact ⟨_, htemplate, fieldAnswer_of_chosen hchosen⟩
  | missing htemplate hlist =>
    refine ⟨_, htemplate, .missing fun d hd => ?_⟩
    rw [← Candidate.mem_list_iff, hlist] at hd
    cases hd

/-- A candidate that is accepted is accepted with the same captures when it is the only one left. -/
theorem answerField_onlyFree {template : Synthesis} {candidate : Candidate}
    (htemplate : synthesize c (path.child (.field key)) scope key = .ok template)
    (hcandidate : candidate.Eligible key template slots)
    (htrial : trial c path key value scope candidate = .ok ([], out)) :
    ∃ taken, answerField c path key value (Slot.onlyFree slots candidate.index) scope =
      .ok ([], taken, out) := by
  have hchoose : choose (compareField c path key value) scope none [candidate] =
      .ok (some ⟨some candidate.index, [], out⟩) :=
    @choose_of_passed _ _ [] [] _ _ nofun htrial
  rw [answerField, settle, htemplate]
  simp only [Candidate.list_onlyFree hcandidate, hchoose]
  exact ⟨_, rfl⟩

/-- Candidates that are rejected leave no trace: a field with mismatches leaves the scope as it was,
and one without is answered by a single slot as if that had been the only one left. -/
theorem answerField_isolated
    (h : answerField c path key value slots scope = .ok (ms, slots', out)) :
    (ms ≠ [] → out = scope) ∧
    (ms = [] → ∃ index taken, Slot.NewlyTaken slots slots' index ∧
      answerField c path key value (Slot.onlyFree slots index) scope = .ok ([], taken, out)) ∧
    ∃ template, synthesize c (path.child (.field key)) scope key = .ok template ∧
      FieldAnswer c path key value slots scope template ms slots' out := by
  obtain ⟨template, htemplate, hanswered⟩ := exists_fieldAnswer h
  refine ⟨fun hne => ?_, fun hnil => ?_, template, htemplate, hanswered⟩
  · cases hanswered with
    | accepted => exact absurd rfl hne
    | rejected => rfl
    | missing => rfl
  · cases hanswered with
    | accepted hfirst htrial htaken =>
      obtain ⟨taken, hagain⟩ := answerField_onlyFree htemplate hfirst.1 htrial
      exact ⟨_, taken, htaken, hagain⟩
    | rejected hnone hfirst htrial _ =>
      subst hnil
      exact absurd ⟨_, htrial⟩ (hnone _ hfirst.1)
    | missing => cases hnil

/-- Two fields that satisfy a key. The first one captures under both `k` and `r` and is rejected. -/
def rivals : List Slot :=
  [⟨"p", .object [("r", .string "1"), ("t", .bool false)], false⟩,
    ⟨"q", .object [("r", .string "2"), ("t", .bool true)], false⟩]

theorem answerField_rivals :
    answerField ⟨.lenient, false, .standard, .literal⟩ .root "~[k]"
        (.object [("r", .string "~[r]"), ("t", .bool true)]) rivals (.ofTable .empty) =
      .ok ([], Slot.take rivals 1, ⟨.empty, .ofPairs [("k", "q"), ("r", "2")]⟩) := by
  cbv

theorem answerField_isolated_rivals :
    ∃ index taken, Slot.NewlyTaken rivals (Slot.take rivals 1) index ∧
      answerField ⟨.lenient, false, .standard, .literal⟩ .root "~[k]"
          (.object [("r", .string "~[r]"), ("t", .bool true)]) (Slot.onlyFree rivals index)
          (.ofTable .empty) =
        .ok ([], taken, ⟨.empty, .ofPairs [("k", "q"), ("r", "2")]⟩) :=
  (answerField_isolated answerField_rivals).2.1 rfl

end Walk

end TemplateMatch
