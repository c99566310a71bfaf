import TemplateMatch.Proofs.Template.Fixed
import TemplateMatch.Proofs.Walk.Fields

/-!
Candidates among slots with distinct names. There the field with the key's own name is found
wherever it stands, and a template that matches the key alone has no other candidate
(`list_of_isFixed`), so settling it is a look-up.
-/

namespace TemplateMatch

namespace Candidate

variable {key : String} {slots : List Slot}

theorem own?_eq_some_iff (hn : (slots.map Slot.name).Nodup) {slot : Slot} {index : Nat} :
    own? key slots = some (slot, index) ↔
      slots[index]? = some slot ∧ slot.name = key ∧ slot.taken = false := by
  constructor
  · intro h
    obtain ⟨hslot, htaken, hname⟩ := own?_eq_some h
    exact ⟨hslot, hname, htaken⟩
  · rintro ⟨hslot, hname, htaken⟩
    have hmem : (slot, index) ∈ slots.zipIdx := List.mem_zipIdx_iff_getElem?.mpr hslot
    cases hfind : slots.zipIdx.find? fun s => s.1.name == key with
    | none =>
      rw [List.find?_eq_none] at hfind
      exact absurd (beq_iff_eq.mpr hname) (hfind _ hmem)
    | some found =>
      -- The first slot with the name is the only one.
      obtain ⟨slot', index'⟩ := found
      have hname' : slot'.name = key := by simpa using List.find?_some hfind
      have hslot' := List.mem_zipIdx_iff_getElem?.mp (List.mem_of_find?_eq_some hfind)
      have hindex := index_eq_of_nodup hn hslot' hslot (hname'.trans hname.symm)
      subst hindex
      rw [hslot] at hslot'
      cases hslot'
      rw [own?, hfind, Option.filter_some, if_pos (by simpa using htaken)]

/-- Nothing but the field with the key's own name satisfies a template that matches the key
alone. -/
theorem list_of_isFixed (hn : (slots.map Slot.name).Nodup) {template : Synthesis}
    (h : template.IsFixed key) :
    list key template slots = (own? key slots).toList.map fun s => ⟨s.2, s.1.value, []⟩ := by
  have hself : (template.captures key).getD [] = [] := by rw [h key, if_pos rfl]; rfl
  have hothers : (slots.zipIdx.filterMap fun s =>
      if s.1.taken || (own? key slots).map Prod.snd == some s.2 then none
      else (template.captures s.1.name).map fun captures =>
        (⟨s.2, s.1.value, captures⟩ : Candidate)) = [] := by
    rw [List.filterMap_eq_nil_iff]
    rintro ⟨slot, index⟩ hmem
    split
    · rfl
    · next hfree =>
      simp only [Bool.or_eq_true, not_or, Bool.not_eq_true] at hfree
      rw [h slot.name]
      split
      · next hname =>
        have hown : own? key slots = some (slot, index) :=
          (own?_eq_some_iff hn).mpr ⟨List.mem_zipIdx_iff_getElem?.mp hmem, hname, hfree.1⟩
        rw [hown] at hfree
        simp at hfree
      · rfl
  rw [list]
  simp only [hself, hothers, List.append_nil]

/-- A free field with the key's own name comes first; the others have their names satisfy the
template. -/
theorem list_of_free (hn : (slots.map Slot.name).Nodup) (template : Synthesis) {slot : Slot}
    {index : Nat} (hslot : slots[index]? = some slot) (hname : slot.name = key)
    (hfree : slot.taken = false) :
    ∃ others, list key template slots =
        ⟨index, slot.value, (template.captures key).getD []⟩ :: others ∧
      ∀ c ∈ others, c.index ≠ index ∧ ∃ slot', slots[c.index]? = some slot' ∧
        slot'.taken = false ∧ slot'.value = c.value ∧
        template.captures slot'.name = some c.captures := by
  have hown : own? key slots = some (slot, index) :=
    (own?_eq_some_iff hn).mpr ⟨hslot, hname, hfree⟩
  simp only [list, hown, Option.toList_some, List.map_singleton, List.singleton_append]
  refine ⟨_, rfl, fun c hc => ?_⟩
  obtain ⟨⟨slot', index'⟩, hmem, hc⟩ := List.mem_filterMap.mp hc
  split at hc
  · cases hc
  · next hother =>
    obtain ⟨captures, hcaptures, rfl⟩ := Option.map_eq_some_iff.mp hc
    simp only [Option.map_some, Bool.or_eq_true, beq_iff_eq, Option.some.injEq, not_or,
      Bool.not_eq_true] at hother
    exact ⟨Ne.symm hother.2, slot', List.mem_zipIdx_iff_getElem?.mp hmem, hother.1, rfl,
      hcaptures⟩

theorem mem_list_of_captures {template : Synthesis} {slot : Slot} {index : Nat}
    {captures : List (String × String)} (hslot : slots[index]? = some slot)
    (hfree : slot.taken = false) (hname : slot.name ≠ key)
    (hcaptures : template.captures slot.name = some captures) :
    (⟨index, slot.value, captures⟩ : Candidate) ∈ list key template slots := by
  refine List.mem_append_right _ (List.mem_filterMap.mpr
    ⟨(slot, index), List.mem_zipIdx_iff_getElem?.mpr hslot, ?_⟩)
  -- It is not the field with the key's own name.
  have hother : (own? key slots).map Prod.snd ≠ some index := by
    intro hindex
    obtain ⟨⟨slot', index'⟩, hown, rfl⟩ := Option.map_eq_some_iff.mp hindex
    obtain ⟨hslot', _, hname'⟩ := own?_eq_some hown
    rw [hslot] at hslot'
    cases hslot'
    exact hname hname'
  rw [if_neg (by simp [hfree, hother]), hcaptures]
  rfl

end Candidate

namespace Walk

variable {c : Config} {path : Pointer} {key : String} {compare : Scope → Json.Value → Result}
  {slots : List Slot} {scope : Scope}

/-- A key that has no field is reported as missing. -/
theorem settle_of_absent {template : Synthesis} (hs : synthesize c path scope key = .ok template)
    (h : Candidate.list key template slots = []) :
    settle c path key compare slots scope =
      .ok ⟨none, [⟨path, .missingField, key, Mismatch.absent⟩], scope⟩ :=
  (Settled.missing hs h).settle_eq

/-- With a single candidate that leaves the scope, its value decides. -/
theorem settle_of_single {template : Synthesis} {index : Nat} {value : Json.Value}
    {ms : List Mismatch} (hs : synthesize c path scope key = .ok template)
    (h : Candidate.list key template slots = [⟨index, value, []⟩])
    (hcompare : compare scope value = .ok (ms, scope)) :
    settle c path key compare slots scope = .ok ⟨some index, ms, scope⟩ := by
  simp only [settle, hs, h, choose, Scope.bindAll_nil, hcompare]
  cases ms <;> rfl

end Walk

end TemplateMatch
