import Mathlib.Logic.Relation
import TemplateMatch.Proofs.Walk.Nodes

/-!
Which nodes a comparison brings together. `Facing` is an expected node at its path and an actual one
that it is compared with in some scope, and `Descends` goes one level down: to items of the same
index, and from a field to the one that it claims, in the scope that the walk has by then
(`reached`). All that the two nodes are compared with further down is `Faces`.
-/

namespace TemplateMatch.Walk

variable {c : Config} {path : Pointer} {scope out : Scope}

/-- The slots and the scope with which the walk over two objects comes to an expected field, given by
its place and its key. Fields that the actual object has by name come first. -/
def reached (c : Config) (path : Pointer) (scope : Scope) (es as : List (String × Json.Value))
    (place : Nat) (key : String) : Except CompareError (List Slot × Scope) :=
  if hasField as key then
    (compareFields c path (hasField as) (es.take place) (Slot.ofFields as) scope).map Prod.snd
  else
    (compareFields c path (hasField as) es (Slot.ofFields as) scope).bind fun r =>
      (compareFields c path (fun key => !hasField as key) (es.take place) r.2.1 r.2.2).map Prod.snd

/-- An expected node at its path, and an actual one that it is compared with in a scope. -/
structure Facing where
  path : Pointer
  scope : Scope
  expected : Json.Value
  actual : Json.Value

/-- One level down: to two items with the same index, in the scope that the items before leave, and
from a field to the one that it claims, in the scope in which this one was tried. -/
inductive Descends (c : Config) : Facing → Facing → Prop
  | item {path : Pointer} {scope mid : Scope} {es as : List Json.Value} {index : Nat}
    {e a : Json.Value} {before : List Mismatch} :
    compareItems c path 0 scope (es.take index) as = .ok (before, mid) → es[index]? = some e →
      as[index]? = some a →
      Descends c ⟨path, scope, .array es, .array as⟩ ⟨path.child (.item index), mid, e, a⟩
  | field {path : Pointer} {scope mid : Scope} {es as : List (String × Json.Value)} {place : Nat}
    {key : String} {value : Json.Value} {slots : List Slot} {outcome : FieldOutcome}
    {template : Synthesis} {candidate : Candidate} :
    es[place]? = some (key, value) → reached c path scope es as place key = .ok (slots, mid) →
      settle c (path.child (.field key)) key (compareField c path key value) slots mid =
        .ok outcome →
      synthesize c (path.child (.field key)) mid key = .ok template →
      candidate ∈ Candidate.list key template slots → outcome.claimed = some candidate.index →
      Descends c ⟨path, scope, .object es, .object as⟩
        ⟨path.child (.field key), mid.bindAll candidate.captures, value, candidate.value⟩

/-- The walk from two nodes brings an expected object at this path together with an actual one that
has these fields. -/
inductive Faces (c : Config) (start : Facing) (path : Pointer)
    (fields : List (String × Json.Value)) : Prop
  | mk {scope : Scope} {es : List (String × Json.Value)} :
    Relation.ReflTransGen (Descends c) start ⟨path, scope, .object es, .object fields⟩ →
      Faces c start path fields

theorem Faces.here {scope : Scope} {es as : List (String × Json.Value)} :
    Faces c ⟨path, scope, .object es, .object as⟩ path as := ⟨.refl⟩

theorem Faces.head {x y : Facing} {fields : List (String × Json.Value)} (h : Faces c y path fields)
    (hxy : Descends c x y) : Faces c x path fields := by
  obtain ⟨hyz⟩ := h
  exact ⟨.head hxy hyz⟩

/-! ## Items -/

/-- An item and the items behind it. -/
theorem compareItems_cons {index : Nat} {mid : Scope} {e a : Json.Value} {es as : List Json.Value}
    {ms more : List Mismatch}
    (hitem : compareNode c (path.child (.item index)) scope e a = .ok (ms, mid))
    (hrest : compareItems c path (index + 1) mid es as = .ok (more, out)) :
    compareItems c path index scope (e :: es) (a :: as) = .ok (ms ++ more, out) := by
  rw [compareItems, hitem]
  simp only [hrest]

theorem compareItems_nil {index : Nat} {as : List Json.Value} :
    compareItems c path index scope [] as = .ok ([], scope) := by
  cases as <;> rfl

/-! ## Fields -/

section

variable {es as : List (String × Json.Value)} {claims claims' : List (Option Nat)}
  {named templated : List (List Mismatch)} {slots slots' : List Slot} {mid : Scope}

/-- The slots are those of the actual fields wherever the walk has come to. -/
theorem fields_of_reached {place : Nat} {key : String}
    (h : reached c path scope es as place key = .ok (slots, mid)) : Slot.fields slots = as := by
  rw [reached] at h
  split at h
  · obtain ⟨⟨_, _, _⟩, hbefore, heq⟩ := map_eq_ok.mp h
    cases heq
    obtain ⟨_, hrun⟩ := exists_fieldsRun hbefore
    exact hrun.fields_eq_start
  · obtain ⟨_, hnamed, hrest⟩ := bind_eq_ok.mp h
    obtain ⟨⟨_, _, _⟩, hbefore, heq⟩ := map_eq_ok.mp hrest
    cases heq
    obtain ⟨_, hrun⟩ := exists_fieldsRun hnamed
    obtain ⟨_, hrun'⟩ := exists_fieldsRun hbefore
    exact fields_of_passes hrun hrun'

/-- One of the two passes over an object settles a field, as the walk comes to it. -/
theorem settled_of_passes
    (h : FieldsRun c path (hasField as) es (Slot.ofFields as) scope claims named slots mid)
    (h' : FieldsRun c path (fun key => !hasField as key) es slots mid claims' templated slots' out)
    {i : Nat} {key : String} {value : Json.Value} (hi : es[i]? = some (key, value)) :
    ∃ slots₁ scope₁ outcome, reached c path scope es as i key = .ok (slots₁, scope₁) ∧
      Settled c (path.child (.field key)) key (compareField c path key value) slots₁ scope₁
        outcome ∧
      (∀ j, ClaimsAt claims claims' i j ↔ outcome.claimed = some j) ∧
      (List.zipWith (· ++ ·) named templated)[i]? = some outcome.mismatches := by
  cases hwanted : hasField as key with
  | true =>
    have hwanted' : (!hasField as key) = false := by rw [hwanted]; rfl
    obtain ⟨slots₁, scope₁, outcome, hbefore, hsettled, _, hclaim, hreport⟩ := h.split hi hwanted
    refine ⟨slots₁, scope₁, outcome, ?_, hsettled, fun j => ?_, ?_⟩
    · rw [reached, if_pos hwanted, hbefore.compareFields_eq]
      rfl
    · rw [ClaimsAt, or_iff_left (h'.not_claim_of_skipped hi hwanted' j), hclaim, Option.some.injEq]
    · rw [List.getElem?_zipWith, hreport, h'.report_of_skipped hi hwanted']
      simp
  | false =>
    have hwanted' : (!hasField as key) = true := by rw [hwanted]; rfl
    obtain ⟨slots₁, scope₁, outcome, hbefore, hsettled, _, hclaim, hreport⟩ := h'.split hi hwanted'
    refine ⟨slots₁, scope₁, outcome, ?_, hsettled, fun j => ?_, ?_⟩
    · rw [reached, if_neg (by simp [hwanted]), h.compareFields_eq]
      simp only [Except.bind, hbefore.compareFields_eq]
      rfl
    · rw [ClaimsAt, or_iff_right (h.not_claim_of_skipped hi hwanted j), hclaim, Option.some.injEq]
    · rw [List.getElem?_zipWith, hreport, h.report_of_skipped hi hwanted]
      simp

end

/-- What is reached is a part of the actual tree. -/
theorem Descends.part {x y : Facing} (h : Descends c x y) : y.actual.Part x.actual := by
  cases h with
  | item _ _ ha => exact .item (List.mem_of_getElem? ha) (.self _)
  | field _ hreached _ _ hmem _ =>
    obtain ⟨slot, hslot, _, hvalue, _⟩ := Candidate.fits_of_mem_list hmem
    obtain rfl := fields_of_reached hreached
    rw [← hvalue]
    exact .field (Slot.mem_fields (List.mem_of_getElem? hslot)) (.self _)

end TemplateMatch.Walk
