import TemplateMatch.Proofs.Json.Parts
import TemplateMatch.Proofs.Walk.Fields

/-!
A comparison of two nodes, as a run: `NodeRun` opens one level of `compareNode`, and
`Json.Value.induction` goes down the expected tree, or `Json.Value.induction₂` with the actual one
beside it. The first use of a run is that every comparison extends its scope
(`extends_of_compareNode`).
-/

namespace TemplateMatch

/-- Induction over the first of two trees, with the cases in which they are compared: leaves are two
nodes that are not both arrays and not both objects. -/
theorem Json.Value.induction₂ {P : Json.Value → Json.Value → Prop}
    (leaf : ∀ e a, (∀ es as, e = .array es → a ≠ .array as) →
      (∀ es as, e = .object es → a ≠ .object as) → P e a)
    (array : ∀ es as, (∀ e ∈ es, ∀ a, P e a) → P (.array es) (.array as))
    (object : ∀ es as, (∀ f ∈ es, ∀ a, P f.2 a) → P (.object es) (.object as))
    (e a : Json.Value) : P e a := by
  induction e using Json.Value.induction generalizing a with
  | leaf e hitems hfields =>
    exact leaf e a (fun _ _ he => absurd he (hitems _)) fun _ _ he => absurd he (hfields _)
  | array es ih =>
    cases a with
    | array as => exact array es as ih
    | _ => exact leaf _ _ (fun _ _ _ => nofun) fun _ _ => nofun
  | object es ih =>
    cases a with
    | object as => exact object es as ih
    | _ => exact leaf _ _ (fun _ _ => nofun) fun _ _ _ => nofun

namespace Walk

variable {c : Config} {path : Pointer}

theorem compareNode_of_leaf {scope : Scope} {e a : Json.Value}
    (harrays : ∀ es as, e = .array es → a ≠ .array as)
    (hobjects : ∀ es as, e = .object es → a ≠ .object as) :
    compareNode c path scope e a = compareLeaf c path scope e a := by
  unfold compareNode
  split
  · exact absurd rfl (hobjects _ _ rfl)
  · exact absurd rfl (harrays _ _ rfl)
  · rfl

/-- Items by their places, as far as both arrays go. -/
inductive ItemsRun (c : Config) (path : Pointer) : Nat → Scope → List Json.Value →
    List Json.Value → List Mismatch → Scope → Prop
  | stop {index : Nat} {scope : Scope} {es as : List Json.Value} :
    es = [] ∨ as = [] → ItemsRun c path index scope es as [] scope
  | item {index : Nat} {scope mid out : Scope} {e a : Json.Value} {es as : List Json.Value}
    {ms more : List Mismatch} :
    compareNode c (path.child (.item index)) scope e a = .ok (ms, mid) →
      ItemsRun c path (index + 1) mid es as more out →
      ItemsRun c path index scope (e :: es) (a :: as) (ms ++ more) out

/-- Whether an object has a field with just this name. -/
def hasField (fields : List (String × Json.Value)) (key : String) : Bool :=
  fields.any fun f => f.1 == key

theorem hasField_of_mem {fields : List (String × Json.Value)} {f : String × Json.Value}
    (h : f ∈ fields) : hasField fields f.1 = true :=
  List.any_eq_true.mpr ⟨f, h, beq_self_eq_true f.1⟩

/-- One comparison of two nodes. -/
inductive NodeRun (c : Config) (path : Pointer) (scope : Scope) :
    Json.Value → Json.Value → List Mismatch → Scope → Prop
  /-- The fields that the actual object has by name come first, then the others. -/
  | object {es as : List (String × Json.Value)} {claims claims' : List (Option Nat)}
    {named templated : List (List Mismatch)} {slots slots' : List Slot} {mid out : Scope} :
    FieldsRun c path (hasField as) es (Slot.ofFields as) scope claims named slots mid →
      FieldsRun c path (fun key => !hasField as key) es slots mid claims' templated slots' out →
      NodeRun c path scope (.object es) (.object as)
        ((List.zipWith (· ++ ·) named templated).flatten ++
          if c.fieldMode = .strict then unexpected path slots' else []) out
  | array {es as : List Json.Value} {ms : List Mismatch} {out : Scope} :
    ItemsRun c path 0 scope es as ms out →
      NodeRun c path scope (.array es) (.array as)
        (if es.length = as.length then ms
          else ⟨path, .length, toString es.length, toString as.length⟩ :: ms) out
  | leaf {e a : Json.Value} {ms : List Mismatch} {out : Scope} :
    compareLeaf c path scope e a = .ok (ms, out) → NodeRun c path scope e a ms out

theorem itemsRun_of_compareItems {index : Nat} {scope out : Scope} {es as : List Json.Value}
    {ms : List Mismatch} (h : compareItems c path index scope es as = .ok (ms, out)) :
    ItemsRun c path index scope es as ms out := by
  induction es generalizing index scope as ms with
  | nil =>
    cases h
    exact .stop (.inl rfl)
  | cons e es ih =>
    cases as with
    | nil =>
      cases h
      exact .stop (.inr rfl)
    | cons a as =>
      rw [compareItems] at h
      split at h
      · cases h
      · next ms' mid hitem =>
        split at h
        · cases h
        · next more out' hrest =>
          cases h
          exact .item hitem (ih hrest)

/-- Comparing two objects is two passes over the fields. -/
theorem exists_passes {scope out : Scope} {es as : List (String × Json.Value)}
    {ms : List Mismatch} (h : compareNode c path scope (.object es) (.object as) = .ok (ms, out)) :
    ∃ claims claims' named templated slots slots' mid,
      FieldsRun c path (hasField as) es (Slot.ofFields as) scope claims named slots mid ∧
      FieldsRun c path (fun key => !hasField as key) es slots mid claims' templated slots' out ∧
      ms = (List.zipWith (· ++ ·) named templated).flatten ++
        if c.fieldMode = .strict then unexpected path slots' else [] := by
  rw [compareNode] at h
  simp only at h
  split at h
  · cases h
  · next named slots mid hnamed =>
    split at h
    · cases h
    · next templated slots' scope' htemplated =>
      cases h
      obtain ⟨claims, hclaims⟩ := exists_fieldsRun hnamed
      obtain ⟨claims', hclaims'⟩ := exists_fieldsRun htemplated
      exact ⟨_, _, _, _, _, _, _, hclaims, hclaims', rfl⟩

theorem nodeRun_of_compareNode {scope out : Scope} {e a : Json.Value} {ms : List Mismatch}
    (h : compareNode c path scope e a = .ok (ms, out)) : NodeRun c path scope e a ms out := by
  have hnode := h
  unfold compareNode at h
  split at h
  · obtain ⟨_, _, _, _, _, _, _, hnamed, htemplated, rfl⟩ := exists_passes hnode
    exact .object hnamed htemplated
  · split at h
    · cases h
    · next ms' out' hitems =>
      have hrun := itemsRun_of_compareItems hitems
      have harray := NodeRun.array hrun
      split at h
      · next hlen =>
        cases h
        rwa [if_pos hlen] at harray
      · next hlen =>
        cases h
        rwa [if_neg hlen] at harray
  · exact .leaf h

/-- Items match if the first two do and then the others. -/
theorem compareItems_cons_passed {index : Nat} {scope out : Scope} {e a : Json.Value}
    {es as : List Json.Value} :
    compareItems c path index scope (e :: es) (a :: as) = .ok ([], out) ↔
      ∃ mid, compareNode c (path.child (.item index)) scope e a = .ok ([], mid) ∧
        compareItems c path (index + 1) mid es as = .ok ([], out) := by
  rw [compareItems]
  constructor
  · intro h
    split at h
    · cases h
    · next ms mid hitem =>
      split at h
      · cases h
      · next more out' hrest =>
        rw [Except.ok.injEq, Prod.mk.injEq, List.append_eq_nil_iff] at h
        obtain ⟨⟨rfl, rfl⟩, rfl⟩ := h
        exact ⟨mid, hitem, hrest⟩
  · rintro ⟨mid, hitem, hrest⟩
    rw [hitem]
    simp only
    rw [hrest]
    rfl

/-- Two arrays of as many items are compared item by item. -/
theorem compareNode_items {scope : Scope} {es as : List Json.Value} (hlen : es.length = as.length) :
    compareNode c path scope (.array es) (.array as) = compareItems c path 0 scope es as := by
  rw [compareNode]
  split
  · next e h => exact h.symm
  · next ms out h =>
    rw [if_pos hlen]
    exact h.symm

/-- Two objects are compared by two passes over the expected fields. -/
theorem compareNode_passes {es as : List (String × Json.Value)} {scope : Scope} :
    compareNode c path scope (.object es) (.object as) =
      match compareFields c path (hasField as) es (Slot.ofFields as) scope with
      | .error e => .error e
      | .ok (named, slots, mid) =>
        match compareFields c path (fun key => !hasField as key) es slots mid with
        | .error e => .error e
        | .ok (templated, slots', out) =>
          .ok ((List.zipWith (· ++ ·) named templated).flatten ++
            if c.fieldMode = .strict then unexpected path slots' else [], out) := by
  rw [compareNode]
  rfl

/-- What relates the reports of each field relates those of all fields, joined from two passes. -/
theorem flatten_related {related : List Mismatch → List Mismatch → Prop} (hnil : related [] [])
    (happend : ∀ ms ms' more more', related ms ms' → related more more' →
      related (ms ++ more) (ms' ++ more'))
    {named named' templated templated' : List (List Mismatch)}
    (h : List.Forall₂ related named named') (h' : List.Forall₂ related templated templated') :
    related (List.zipWith (· ++ ·) named templated).flatten
      (List.zipWith (· ++ ·) named' templated').flatten := by
  induction h generalizing templated templated' with
  | nil => exact hnil
  | cons hhead _ ih =>
    cases h' with
    | nil => exact hnil
    | cons hhead' htail' =>
      rw [List.zipWith_cons_cons, List.zipWith_cons_cons, List.flatten_cons, List.flatten_cons]
      exact happend _ _ _ _ (happend _ _ _ _ hhead hhead') (ih htail')

/-- Two passes over the fields make up the comparison of two objects. -/
theorem compareNode_object {es as : List (String × Json.Value)}
    {named templated : List (List Mismatch)} {slots slots' : List Slot} {scope mid out : Scope}
    (hnamed : compareFields c path (hasField as) es (Slot.ofFields as) scope =
      .ok (named, slots, mid))
    (htemplated : compareFields c path (fun key => !hasField as key) es slots mid =
      .ok (templated, slots', out)) :
    compareNode c path scope (.object es) (.object as) =
      .ok ((List.zipWith (· ++ ·) named templated).flatten ++
        if c.fieldMode = .strict then unexpected path slots' else [], out) := by
  rw [compareNode_passes, hnamed]
  simp only [htemplated]

/-! ## Scopes -/

section

variable {P : String → Prop} {R : Scope → Scope → Prop} (hR : KeptByCaptures c P R)

include hR

theorem ItemsRun.kept {index : Nat} {scope out : Scope} {es as : List Json.Value}
    {ms : List Mismatch} (h : ItemsRun c path index scope es as ms out)
    (hitems : ∀ e ∈ es, ∀ path s a ms out,
      compareNode c path s e a = .ok (ms, out) → R s out) : R scope out := by
  induction h with
  | stop => exact hR.refl _
  | item hitem _ ih =>
    rw [List.forall_mem_cons] at hitems
    exact hR.trans (hitems.1 _ _ _ _ _ hitem) (ih hitems.2)

theorem kept_of_compareLeaf {scope out : Scope} {e a : Json.Value} {ms : List Mismatch}
    (hP : ∀ template, e = .string template → P template)
    (h : compareLeaf c path scope e a = .ok (ms, out)) : R scope out := by
  have hrefl := hR.refl scope
  unfold compareLeaf at h
  split at h
  · cases h
    exact hrefl
  · split at h
    · exact (textRun_of_compareText h).kept hR (hP _ rfl)
    · cases h
      exact hrefl
  · split at h <;> cases h <;> exact hrefl
  · split at h <;> cases h <;> exact hrefl
  · cases h
    exact hrefl

/-- A comparison keeps what captures of the texts of the expected tree keep. -/
theorem kept_of_compareNode {scope out : Scope} {e a : Json.Value} {ms : List Mismatch}
    (hP : ∀ template, e.HasText template → P template)
    (h : compareNode c path scope e a = .ok (ms, out)) : R scope out := by
  have hleaf {path : Pointer} {scope out : Scope} {e a : Json.Value} {ms : List Mismatch}
      (hP : ∀ template, e.HasText template → P template)
      (h : compareLeaf c path scope e a = .ok (ms, out)) : R scope out := by
    refine kept_of_compareLeaf hR (fun template he => hP template (.string ?_)) h
    rw [he]
    exact .self _
  induction e using Json.Value.induction generalizing path scope a ms out with
  | leaf e hitems hfields =>
    cases nodeRun_of_compareNode h with
    | object => exact absurd rfl (hfields _)
    | array => exact absurd rfl (hitems _)
    | leaf h => exact hleaf hP h
  | array items ih =>
    cases nodeRun_of_compareNode h with
    | array hrun =>
      exact hrun.kept hR fun e he path s a ms out =>
        ih e he fun template ht => hP template (ht.of_part (.item he (.self e)))
    | leaf h => exact hleaf hP h
  | object fields ih =>
    cases nodeRun_of_compareNode h with
    | object hnamed htemplated =>
      have hkeys (f : String × Json.Value) (hf : f ∈ fields) : P f.1 :=
        hP f.1 (.key (.self _) hf rfl)
      have hvalues (f : String × Json.Value) (hf : f ∈ fields) (path : Pointer) (s : Scope)
          (a : Json.Value) (ms : List Mismatch) (out : Scope)
          (h : compareNode c path s f.2 a = .ok (ms, out)) : R s out :=
        ih f hf (fun template ht => hP template (ht.of_part (.field hf (.self f.2)))) h
      exact hR.trans (hnamed.kept hR hkeys hvalues) (htemplated.kept hR hkeys hvalues)
    | leaf h => exact hleaf hP h

end

/-- A comparison only adds symbols that were unbound. -/
theorem extends_of_compareNode {scope out : Scope} {e a : Json.Value} {ms : List Mismatch}
    (h : compareNode c path scope e a = .ok (ms, out)) : scope.Extends out :=
  kept_of_compareNode (extends_keptByCaptures c) (fun _ _ => trivial) h

theorem ItemsRun.grows {index : Nat} {scope out : Scope} {es as : List Json.Value}
    {ms : List Mismatch} (h : ItemsRun c path index scope es as ms out) : scope.Extends out :=
  h.kept (extends_keptByCaptures c) fun _ _ _ _ _ _ _ => extends_of_compareNode

namespace FieldsRun

variable {wanted : String → Bool} {fields : List (String × Json.Value)} {slots slots' : List Slot}
  {scope scope' : Scope} {claims : List (Option Nat)} {more : List (List Mismatch)}

theorem grows (h : FieldsRun c path wanted fields slots scope claims more slots' scope') :
    scope.Extends scope' :=
  h.kept (extends_keptByCaptures c) (fun _ _ => trivial)
    fun _ _ _ _ _ _ _ => extends_of_compareNode

/-- A wanted field is settled at some point of the pass. -/
theorem settled_at (h : FieldsRun c path wanted fields slots scope claims more slots' scope')
    {i : Nat} {key : String} {value : Json.Value} (hi : fields[i]? = some (key, value))
    (hwanted : wanted key = true) :
    ∃ slots₁ scope₁ outcome,
      Settled c (path.child (.field key)) key (compareField c path key value) slots₁ scope₁
        outcome ∧
      Slot.fields slots₁ = Slot.fields slots ∧ scope.Extends scope₁ ∧
      outcome.scope.Extends scope' ∧ claims[i]? = some outcome.claimed ∧
      more[i]? = some outcome.mismatches := by
  obtain ⟨slots₁, scope₁, outcome, hbefore, hsettled, hafter, hclaim, hms⟩ := h.split hi hwanted
  exact ⟨slots₁, scope₁, outcome, hsettled, hbefore.fields_eq, hbefore.grows, hafter.grows, hclaim,
    hms⟩

end FieldsRun

theorem mismatches_finish (run : List Mismatch × Scope) : (finish run).mismatches = run.1 := by
  obtain ⟨ms, out⟩ := run
  cases ms <;> rfl

end Walk

theorem Comparison.ofJson_eq {expected actual : Document} {e a : Json.Value}
    (he : expected.tree = .ok e) (ha : actual.tree = .ok a) (c : Config) (symbols : SymbolTable) :
    ofJson c symbols expected actual =
      (Walk.compareNode c .root (.ofTable symbols) e a).map Walk.finish := by
  rw [ofJson, he, ha]

/-- What a comparison of two trees reports, the walk from their roots reports. -/
theorem exists_walk_of_trees {c : Config} {symbols : SymbolTable} {expected actual : Document}
    {e a : Json.Value} {r : Comparison} (he : expected.tree = .ok e) (ha : actual.tree = .ok a)
    (h : Comparison.ofJson c symbols expected actual = .ok r) :
    ∃ out, Walk.compareNode c .root (.ofTable symbols) e a = .ok (r.mismatches, out) := by
  rw [Comparison.ofJson_eq he ha] at h
  obtain ⟨⟨ms, out⟩, hwalk, rfl⟩ := map_eq_ok.mp h
  exact ⟨out, by rw [hwalk, Walk.mismatches_finish]⟩

/-- A comparison of trees that can be carried out is a walk from the roots. -/
theorem exists_walk_of_ofJson {c : Config} {symbols : SymbolTable} {expected actual : Document}
    {r : Comparison} (h : Comparison.ofJson c symbols expected actual = .ok r) :
    ∃ e a run, expected.tree = .ok e ∧ actual.tree = .ok a ∧
      Walk.compareNode c .root (.ofTable symbols) e a = .ok run ∧ Walk.finish run = r := by
  rw [Comparison.ofJson] at h
  split at h
  · cases h
  · next e he =>
    split at h
    · cases h
    · next a ha =>
      cases hwalk : Walk.compareNode c .root (.ofTable symbols) e a with
      | error err => rw [hwalk] at h; cases h
      | ok run =>
        rw [hwalk] at h
        exact ⟨e, a, run, he, ha, hwalk, Except.ok.inj h⟩

end TemplateMatch
