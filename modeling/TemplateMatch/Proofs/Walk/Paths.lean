import TemplateMatch.Proofs.Walk.Reports

/-!
Where mismatches are reported. A comparison reports at its node or below, and fields that are
missing or unexpected always below (`within_of_compareNode`). So what a node reports under a step is
what is reported for that child (`UnderSteps.filter_flatten`).
-/

namespace TemplateMatch

namespace Mismatch

/-- The mismatch is at a node or below. -/
def Under (path : Pointer) (m : Mismatch) : Prop := path <+: m.path

instance (path : Pointer) (m : Mismatch) : Decidable (m.Under path) :=
  inferInstanceAs (Decidable (path <+: m.path))

/-- One that a comparison of two nodes can report: a field is below the object it belongs to. -/
def Within (path : Pointer) (m : Mismatch) : Prop :=
  m.Under path ∧ (m.kind = .missingField ∨ m.kind = .unexpectedField → m.path ≠ path)

variable {path : Pointer} {m : Mismatch} {s t : Step}

theorem Under.within (h : m.Under (path.child s)) : m.Within path :=
  ⟨(List.prefix_append path [s]).trans h, fun _ => Pointer.ne_of_child_prefix h⟩

/-- A field is missing or unexpected further below than at a child. -/
theorem Within.length_ne (h : m.Within (path.child s))
    (hkind : m.kind = .missingField ∨ m.kind = .unexpectedField) :
    m.path.length ≠ path.length + 1 := by
  intro hlen
  have hchild : (path.child s).length = m.path.length := by
    rw [hlen, Pointer.child, List.length_append, List.length_singleton]
  exact h.2 hkind (h.1.eq_of_length hchild).symm

theorem Under.step_eq (hs : m.Under (path.child s)) (ht : m.Under (path.child t)) : s = t :=
  Pointer.step_eq_of_prefix hs ht

end Mismatch

namespace Walk

variable {c : Config} {path : Pointer} {scope out : Scope}

theorem mem_unexpected {slots : List Slot} {m : Mismatch} :
    m ∈ unexpected path slots ↔ ∃ slot ∈ slots, slot.taken = false ∧
      m = ⟨path.child (.field slot.name), .unexpectedField, Mismatch.absent, slot.name⟩ := by
  simp only [unexpected, List.mem_map, List.mem_filter, Bool.not_eq_true', and_assoc,
    eq_comm (a := m)]

/-- A field that is reported as unexpected is free in the end. -/
theorem freeAt_of_unexpected {as : List (String × Json.Value)} {slots : List Slot} {key : String}
    {own : Json.Value} {j : Nat} (hslots : Slot.fields slots = as)
    (has : (as.map Prod.fst).Nodup) (hj : as[j]? = some (key, own)) {m : Mismatch}
    (hm : m ∈ unexpected path slots) (hunder : m.Under (path.child (.field key))) :
    m.kind = .unexpectedField ∧ Slot.FreeAt slots j := by
  obtain ⟨slot, hslot, hfree, rfl⟩ := mem_unexpected.mp hm
  have hname := hunder.step_eq (t := .field slot.name) List.prefix_rfl
  rw [Step.field.injEq] at hname
  subst hname
  obtain ⟨index, hindex⟩ := List.mem_iff_getElem?.mp hslot
  have hf : as[index]? = some (slot.name, slot.value) := by
    rw [← hslots, Slot.fields, List.getElem?_map, hindex]
    rfl
  obtain rfl := index_eq_of_nodup has hf hj rfl
  exact ⟨rfl, slot, hindex, hfree⟩

/-- All mismatches that a comparison reports are within its node. -/
def ReportsWithin (c : Config) (e : Json.Value) : Prop :=
  ∀ path scope a ms out, compareNode c path scope e a = .ok (ms, out) →
    ∀ m ∈ ms, m.Within path

/-- A child is reported as a missing field, or by what is within it. -/
theorem ChildReport.missing_or_within_of {e a : Json.Value} {x : Step × Json.Value}
    {ms : List Mismatch} (h : ChildReport c path scope e a x ms) (hx : ReportsWithin c x.2) :
    ∀ m ∈ ms, m = ⟨path.child x.1, .missingField, x.1.name, Mismatch.absent⟩ ∨
      m.Within (path.child x.1) := by
  cases h with
  | passed => exact nofun
  | missing => exact fun m hm => .inl (List.mem_singleton.mp hm)
  | compared _ hcompare => exact fun m hm => .inr (hx _ _ _ _ _ hcompare m hm)

theorem under_of_missing_or_within {s : Step} {m : Mismatch}
    (h : m = ⟨path.child s, .missingField, s.name, Mismatch.absent⟩ ∨
      m.Within (path.child s)) : m.Under (path.child s) := by
  rcases h with rfl | hwithin
  · exact List.prefix_rfl
  · exact hwithin.1

/-- The mismatches of a comparison are at its node or below, those of fields below. -/
theorem within_of_compareNode (e : Json.Value) : ReportsWithin c e := by
  induction e using Json.Value.induction_children with
  | h e ih =>
    intro path scope a ms out h m hm
    rcases (report_of_compareNode h).of_mem hm with ⟨own, hown, hm⟩ | ⟨x, hx, report, hchild, hm⟩ |
      ⟨extra, hextra, hm⟩
    · obtain ⟨hpath, hmissing, hunexpected⟩ := hown.at_node m hm
      exact ⟨hpath ▸ List.prefix_rfl,
        fun hkind => absurd hkind (not_or.mpr ⟨hmissing, hunexpected⟩)⟩
    · exact (under_of_missing_or_within (hchild.missing_or_within_of (ih x hx) m hm)).within
    · cases hextra with
      | none => cases hm
      | unexpected =>
        obtain ⟨slot, _, _, rfl⟩ := mem_unexpected.mp hm
        exact Mismatch.Under.within (s := .field slot.name) List.prefix_rfl

theorem ChildReport.missing_or_within {e a : Json.Value} {x : Step × Json.Value}
    {ms : List Mismatch} (h : ChildReport c path scope e a x ms) :
    ∀ m ∈ ms, m = ⟨path.child x.1, .missingField, x.1.name, Mismatch.absent⟩ ∨
      m.Within (path.child x.1) :=
  h.missing_or_within_of (within_of_compareNode x.2)

theorem missing_or_within_of_mem_flatten {e a : Json.Value} {children : List (Step × Json.Value)}
    {reports : List (List Mismatch)}
    (h : List.Forall₂ (ChildReport c path scope e a) children reports) {m : Mismatch}
    (hm : m ∈ reports.flatten) :
    ∃ x ∈ children, m = ⟨path.child x.1, .missingField, x.1.name, Mismatch.absent⟩ ∨
      m.Within (path.child x.1) := by
  obtain ⟨report, hreport, hm⟩ := List.mem_flatten.mp hm
  obtain ⟨x, hx, hchild⟩ := exists_child_of_mem h hreport
  exact ⟨x, hx, hchild.missing_or_within m hm⟩

/-- Each list of mismatches is under the step of its child. -/
abbrev UnderSteps (path : Pointer) (steps : List Step) (reports : List (List Mismatch)) : Prop :=
  List.Forall₂ (fun s ms => ∀ m ∈ ms, m.Under (path.child s)) steps reports

namespace UnderSteps

variable {steps : List Step} {reports : List (List Mismatch)}

theorem of_childReports {e a : Json.Value} {children : List (Step × Json.Value)}
    (h : List.Forall₂ (ChildReport c path scope e a) children reports) :
    UnderSteps path (children.map Prod.fst) reports :=
  List.forall₂_map_left_iff.mpr
    (h.imp fun _ _ hx m hm => under_of_missing_or_within (hx.missing_or_within m hm))

/-- What is reported for children is below the node, under one of their steps. -/
theorem exists_of_mem_flatten (h : UnderSteps path steps reports) {m : Mismatch}
    (hm : m ∈ reports.flatten) : ∃ s ∈ steps, m.Under (path.child s) := by
  induction h with
  | nil => cases hm
  | cons hhead _ ih =>
    rcases List.mem_append.mp hm with hm | hm
    · exact ⟨_, List.mem_cons_self, hhead m hm⟩
    · obtain ⟨s, hs, hunder⟩ := ih hm
      exact ⟨s, List.mem_cons_of_mem _ hs, hunder⟩

/-- The part of a report under a step is that of the child there. -/
theorem filter_flatten (h : UnderSteps path steps reports) (hn : steps.Nodup) {i : Nat} {s : Step}
    {report : List Mismatch} (hi : steps[i]? = some s) (hreport : reports[i]? = some report) :
    reports.flatten.filter (fun m => m.Under (path.child s)) = report := by
  induction h generalizing i with
  | nil => cases hi
  | @cons t ms steps reports hhead htail ih =>
    rw [List.nodup_cons] at hn
    rw [List.flatten_cons, List.filter_append]
    cases i with
    | zero =>
      cases hi
      cases hreport
      have hrest : reports.flatten.filter (fun m => m.Under (path.child s)) = [] := by
        rw [List.filter_eq_nil_iff]
        intro m hm hunder
        obtain ⟨s, hs, hunder'⟩ := exists_of_mem_flatten htail hm
        exact hn.1 ((of_decide_eq_true hunder).step_eq hunder' ▸ hs)
      rw [hrest, List.append_nil, List.filter_eq_self]
      exact fun m hm => decide_eq_true (hhead m hm)
    | succ i =>
      have hfirst : ms.filter (fun m => m.Under (path.child s)) = [] := by
        rw [List.filter_eq_nil_iff]
        intro m hm hunder
        have hstep := (of_decide_eq_true hunder).step_eq (hhead m hm)
        exact hn.1 (hstep ▸ List.mem_of_getElem? hi)
      rw [hfirst, List.nil_append]
      exact ih hn.2 hi hreport

end UnderSteps

/-- Under a key stands what the two passes report for its field. -/
theorem filter_of_passes {es as : List (String × Json.Value)} {claims claims' : List (Option Nat)}
    {named templated : List (List Mismatch)} {slots slots' : List Slot} {mid : Scope}
    (h : FieldsRun c path (hasField as) es (Slot.ofFields as) scope claims named slots mid)
    (h' : FieldsRun c path (fun key => !hasField as key) es slots mid claims' templated slots' out)
    (hes : (es.map Prod.fst).Nodup) {i : Nat} {key : String} {value : Json.Value}
    {report : List Mismatch} (hi : es[i]? = some (key, value))
    (hreport : (List.zipWith (· ++ ·) named templated)[i]? = some report) :
    (List.zipWith (· ++ ·) named templated).flatten.filter
      (fun m => m.Under (path.child (.field key))) = report := by
  have hsteps := UnderSteps.of_childReports (childReports_of_passes h h')
  refine hsteps.filter_flatten (Json.Value.nodup_children hes) (i := i) ?_ hreport
  rw [Json.Value.children, List.map_map, List.getElem?_map, hi]
  rfl

end Walk

end TemplateMatch
