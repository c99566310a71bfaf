import TemplateMatch.Proofs.Json.Places
import TemplateMatch.Proofs.Walk.Descent

/-!
What a comparison of two nodes reports, taken apart one level deep (`NodeReport`): first what it
says of the expected node itself, then for its children in their order what comparing each one with
the child of the actual node that answers it reports, and last the fields that are unexpected. The
order in which fields are settled is seen in the scopes of these comparisons only.
-/

namespace TemplateMatch.Walk

variable {c : Config} {path : Pointer} {scope : Scope} {a e : Json.Value}

/-- What can be reported about an expected node itself. -/
inductive OwnReport (path : Pointer) (e : Json.Value) : List Mismatch → Prop
  | none : OwnReport path e []
  | value {text actual : String} :
    e.scalarText? = some text → OwnReport path e [⟨path, .value, text, actual⟩]
  | type {actual : String} : OwnReport path e [⟨path, .type, e.typeLabel, actual⟩]
  | length {items : List Json.Value} {actual : String} :
    e = .array items → OwnReport path e [⟨path, .length, toString items.length, actual⟩]

/-- What can be reported for a child of an expected node: nothing, that a field is missing, or what
the comparison with the actual node that it is brought together with reports. -/
inductive ChildReport (c : Config) (path : Pointer) (scope : Scope) (e a : Json.Value) :
    Step × Json.Value → List Mismatch → Prop
  | passed {x : Step × Json.Value} : ChildReport c path scope e a x []
  | missing {key : String} {value : Json.Value} :
    ChildReport c path scope e a (.field key, value)
      [⟨path.child (.field key), .missingField, key, Mismatch.absent⟩]
  | compared {x : Step × Json.Value} {a' : Json.Value} {mid out : Scope} {ms : List Mismatch} :
    Descends c ⟨path, scope, e, a⟩ ⟨path.child x.1, mid, x.2, a'⟩ →
      compareNode c (path.child x.1) mid x.2 a' = .ok (ms, out) →
      ChildReport c path scope e a x ms

/-- The fields of an actual object that are reported as unexpected. -/
inductive ExtraReport (c : Config) (path : Pointer) :
    Json.Value → Json.Value → List Mismatch → Prop
  | none {e a : Json.Value} : ExtraReport c path e a []
  | unexpected {es : List (String × Json.Value)} {slots : List Slot} :
    c.fieldMode = .strict →
      ExtraReport c path (.object es) (.object (Slot.fields slots)) (unexpected path slots)

/-- The report of a comparison of two nodes. Children for which there is nothing to compare with are
the last ones. -/
inductive NodeReport (c : Config) (path : Pointer) (scope : Scope) (e a : Json.Value) :
    List Mismatch → Prop
  | parts {own extra : List Mismatch} {reports : List (List Mismatch)} {count : Nat} :
    OwnReport path e own →
      List.Forall₂ (ChildReport c path scope e a) (e.children.take count) reports →
      ExtraReport c path e a extra → NodeReport c path scope e a (own ++ (reports.flatten ++ extra))

theorem OwnReport.at_node {own : List Mismatch} (h : OwnReport path e own) :
    ∀ m ∈ own, m.path = path ∧ m.kind ≠ .missingField ∧ m.kind ≠ .unexpectedField := by
  cases h with
  | none => exact nofun
  | _ => exact List.forall_mem_singleton.mpr ⟨rfl, nofun, nofun⟩

/-- Every report is that of a child. -/
theorem exists_child_of_mem {children : List (Step × Json.Value)} {reports : List (List Mismatch)}
    (h : List.Forall₂ (ChildReport c path scope e a) children reports) {report : List Mismatch}
    (hreport : report ∈ reports) : ∃ x ∈ children, ChildReport c path scope e a x report := by
  induction h with
  | nil => cases hreport
  | cons hchild _ ih =>
    rcases List.mem_cons.mp hreport with rfl | hreport
    · exact ⟨_, List.mem_cons_self, hchild⟩
    · obtain ⟨x, hx, hchild⟩ := ih hreport
      exact ⟨x, List.mem_cons_of_mem _ hx, hchild⟩

/-- A mismatch belongs to one of the parts. -/
theorem NodeReport.of_mem {ms : List Mismatch} (h : NodeReport c path scope e a ms) {m : Mismatch}
    (hm : m ∈ ms) :
    (∃ own, OwnReport path e own ∧ m ∈ own) ∨
    (∃ x ∈ e.children, ∃ report, ChildReport c path scope e a x report ∧ m ∈ report) ∨
    ∃ extra, ExtraReport c path e a extra ∧ m ∈ extra := by
  cases h with
  | parts hown hreports hextra =>
    rcases List.mem_append.mp hm with hm | hm
    · exact .inl ⟨_, hown, hm⟩
    · rcases List.mem_append.mp hm with hm | hm
      · obtain ⟨report, hreport, hm⟩ := List.mem_flatten.mp hm
        obtain ⟨x, hx, hchild⟩ := exists_child_of_mem hreports hreport
        exact .inr (.inl ⟨x, List.mem_of_mem_take hx, report, hchild, hm⟩)
      · exact .inr (.inr ⟨_, hextra, hm⟩)

/-! ## Leaves -/

theorem ownReport_of_compareLeaf {out : Scope} {ms : List Mismatch}
    (h : compareLeaf c path scope e a = .ok (ms, out)) : OwnReport path e ms := by
  unfold compareLeaf at h
  split at h
  · cases h
    exact .none
  · split at h
    · cases textRun_of_compareText h with
      | matched => exact .none
      | differs => exact .value rfl
    · cases h
      exact .type
  · split at h
    · cases h
      exact .none
    · cases h
      exact .value rfl
  · split at h
    · cases h
      exact .none
    · cases h
      exact .value rfl
  · cases h
    exact .type

/-! ## Items -/

/-- A pass over items reports for each what comparing it with its counterpart reports, if the walk
comes from a node that brings them together. -/
theorem ItemsRun.childReports {index : Nat} {start mid out : Scope} {es as : List Json.Value}
    {ms : List Mismatch} (h : ItemsRun c path index mid es as ms out)
    (hdescends : ∀ i v w before after, es[i]? = some v → as[i]? = some w →
      compareItems c path index mid (es.take i) as = .ok (before, after) →
      Descends c ⟨path, start, e, a⟩ ⟨path.child (.item (index + i)), after, v, w⟩) :
    ∃ count reports, ms = reports.flatten ∧
      List.Forall₂ (ChildReport c path start e a)
        (((es.zipIdx index).map fun x => (Step.item x.2, x.1)).take count) reports := by
  induction h with
  | stop => exact ⟨0, [], rfl, .nil⟩
  | item hitem _ ih =>
    obtain ⟨count, reports, rfl, hreports⟩ := ih fun i v w before after hv hw hbefore => by
      have hstep := hdescends (i + 1) v w _ after hv hw (compareItems_cons hitem hbefore)
      rwa [← Nat.add_assoc, Nat.add_right_comm] at hstep
    have hfirst := hdescends 0 _ _ [] _ rfl rfl compareItems_nil
    exact ⟨count + 1, _ :: reports, rfl, .cons (.compared hfirst hitem) hreports⟩

/-! ## Fields -/

/-- What is reported for a field is what the field reports that it has claimed. -/
theorem Settled.childReport {key : String} {value : Json.Value} {slots : List Slot} {mid : Scope}
    {es as : List (String × Json.Value)} {place : Nat} {outcome : FieldOutcome}
    (h : Settled c (path.child (.field key)) key (compareField c path key value) slots mid outcome)
    (hplace : es[place]? = some (key, value))
    (hreached : reached c path scope es as place key = .ok (slots, mid)) :
    ChildReport c path scope (.object es) (.object as) (.field key, value) outcome.mismatches := by
  have hsettle := h.settle_eq
  cases h with
  | missing => exact .missing
  | @chosen template cs _ htemplate hcs hchosen =>
    cases hchosen with
    | passed => exact .passed
    | @failed candidate rest ms hrejected _ =>
      obtain ⟨_, out, hcompare⟩ := hrejected
      exact .compared (.field hplace hreached hsettle htemplate (hcs ▸ List.mem_cons_self) rfl)
        hcompare

/-- Together two passes report for every expected field. -/
theorem childReports_of_passes {es as : List (String × Json.Value)}
    {claims claims' : List (Option Nat)} {named templated : List (List Mismatch)}
    {slots slots' : List Slot} {mid out : Scope}
    (h : FieldsRun c path (hasField as) es (Slot.ofFields as) scope claims named slots mid)
    (h' : FieldsRun c path (fun key => !hasField as key) es slots mid claims' templated slots'
      out) :
    List.Forall₂ (ChildReport c path scope (.object es) (.object as))
      (Json.Value.object es).children (List.zipWith (· ++ ·) named templated) := by
  rw [Json.Value.children, List.forall₂_map_left_iff, List.forall₂_iff_get]
  refine ⟨by simp [h.length_eq, h'.length_eq], fun i hi hi' => ?_⟩
  obtain ⟨slots₁, mid₁, outcome, hreached, hsettled, _, hreport⟩ :=
    settled_of_passes h h' (List.getElem?_eq_getElem hi)
  rw [List.getElem?_eq_getElem hi', Option.some.injEq] at hreport
  rw [List.get_eq_getElem, List.get_eq_getElem, hreport]
  exact hsettled.childReport (List.getElem?_eq_getElem hi) hreached

/-! ## Nodes -/

/-- What a comparison reports has these parts. -/
theorem report_of_compareNode {out : Scope} {ms : List Mismatch}
    (h : compareNode c path scope e a = .ok (ms, out)) : NodeReport c path scope e a ms := by
  cases nodeRun_of_compareNode h with
  | leaf hleaf =>
    have hnone : List.Forall₂ (ChildReport c path scope e a) (e.children.take 0) [] := .nil
    simpa using NodeReport.parts (ownReport_of_compareLeaf hleaf) hnone .none
  | @array es as ms _ hrun =>
    have hdescends (i : Nat) (v w : Json.Value) (before : List Mismatch) (after : Scope)
        (hv : es[i]? = some v) (hw : as[i]? = some w)
        (hbefore : compareItems c path 0 scope (es.take i) as = .ok (before, after)) :
        Descends c ⟨path, scope, .array es, .array as⟩
          ⟨path.child (.item (0 + i)), after, v, w⟩ := by
      rw [Nat.zero_add]
      exact .item hbefore hv hw
    obtain ⟨count, reports, rfl, hreports⟩ := hrun.childReports hdescends
    split
    · simpa using NodeReport.parts (e := .array es) .none hreports .none
    · simpa using NodeReport.parts (e := .array es) (.length rfl) hreports .none
  | @object es as _ _ named templated slots slots' _ _ hnamed htemplated =>
    have hslots' := fields_of_passes hnamed htemplated
    have hreports := childReports_of_passes hnamed htemplated
    rw [← List.take_length (l := Json.Value.children _)] at hreports
    subst hslots'
    split
    · next hstrict => exact .parts .none hreports (.unexpected hstrict)
    · exact .parts .none hreports .none

end TemplateMatch.Walk
