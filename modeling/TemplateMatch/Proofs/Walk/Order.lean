import Mathlib
import TemplateMatch.Proofs.Walk.Reports

/-!
The order of a report. The expected tree is gone through depth first, and a landmark is passed at
every node and at the end of every object (`Json.Value.outline`). A report has at most one mismatch
for a node, at the end of an object the unexpected fields of the actual one that it is compared with,
and everything in the order of the landmarks (`Walk.Follows`).
-/

namespace TemplateMatch

/-- What a tree gone through depth first passes: its nodes, and the ends of its objects. -/
inductive Landmark
  | node (path : Pointer)
  | close (path : Pointer)
deriving DecidableEq, Repr

namespace Landmark

def path : Landmark → Pointer
  | node path => path
  | close path => path

def node? : Landmark → Option Pointer
  | node path => some path
  | close _ => none

end Landmark

namespace Json.Value

mutual

/-- The landmarks of a tree that stands at a path: a node comes before its children, and the end of
an object behind the values of all its fields. -/
def outline (path : Pointer) : Value → List Landmark
  | array items => .node path :: outlineItems path 0 items
  | object fields => .node path :: (outlineFields path fields ++ [.close path])
  | _ => [.node path]

def outlineItems (path : Pointer) (index : Nat) : List Value → List Landmark
  | [] => []
  | v :: items => outline (path.child (.item index)) v ++ outlineItems path (index + 1) items

def outlineFields (path : Pointer) : List (String × Value) → List Landmark
  | [] => []
  | (key, v) :: fields => outline (path.child (.field key)) v ++ outlineFields path fields

end

/-- The paths of the nodes of a tree, depth first. -/
def places (v : Value) : List Pointer := (v.outline .root).filterMap Landmark.node?

variable {v : Value}

/-- The landmark that stands behind the children of a node. -/
def closing (path : Pointer) : Value → List Landmark
  | object _ => [.close path]
  | _ => []

theorem outlineItems_eq (path : Pointer) (index : Nat) (items : List Value) :
    outlineItems path index items =
      (items.zipIdx index).flatMap fun x => x.1.outline (path.child (.item x.2)) := by
  induction items generalizing index with
  | nil => rfl
  | cons v items ih => rw [outlineItems, ih, List.zipIdx_cons, List.flatMap_cons]

theorem outlineFields_eq (path : Pointer) (fields : List (String × Value)) :
    outlineFields path fields = fields.flatMap fun f => f.2.outline (path.child (.field f.1)) := by
  induction fields with
  | nil => rfl
  | cons f fields ih => rw [outlineFields, ih, List.flatMap_cons]

theorem outline_eq (path : Pointer) (v : Value) :
    v.outline path = .node path ::
      (v.children.flatMap (fun x => x.2.outline (path.child x.1)) ++ v.closing path) := by
  cases v with
  | array items =>
    rw [outline, outlineItems_eq, children, List.flatMap_map]
    exact congrArg _ (List.append_nil _).symm
  | object fields => rw [outline, outlineFields_eq, children, List.flatMap_map, closing]
  | _ => rfl

example : (object [("a", .array [.null]), ("b", .null)]).outline .root =
    [.node [], .node [.field "a"], .node [.field "a", .item 0], .node [.field "b"], .close []] :=
  rfl

theorem eq_of_mem_closing {path : Pointer} {l : Landmark} (h : l ∈ v.closing path) :
    l = .close path := by
  cases v with
  | object fields => exact List.mem_singleton.mp h
  | _ => cases h

theorem nodup_closing (path : Pointer) (v : Value) : (v.closing path).Nodup := by
  cases v <;> simp [closing]

/-- Every landmark of a tree is at its path or below. -/
theorem prefix_of_mem_outline {path : Pointer} {l : Landmark} (h : l ∈ v.outline path) :
    path <+: l.path := by
  induction v using induction_children generalizing path with
  | h v ih =>
    rw [outline_eq, List.mem_cons, List.mem_append] at h
    rcases h with rfl | h | h
    · exact List.prefix_rfl
    · obtain ⟨x, hx, hl⟩ := List.mem_flatMap.mp h
      exact (List.prefix_append path [x.1]).trans (ih x hx hl)
    · rw [eq_of_mem_closing h]
      exact List.prefix_rfl

/-- No landmark is passed twice. -/
theorem nodup_outline (h : v.DistinctKeys) (path : Pointer) : (v.outline path).Nodup := by
  induction v using induction_children generalizing path with
  | h v ih =>
    have hchildren : (v.children.flatMap fun x => x.2.outline (path.child x.1)).Nodup := by
      rw [List.nodup_flatMap]
      refine ⟨fun x hx => ih x hx (h.child hx) _, ?_⟩
      have hsteps : v.children.Pairwise fun x y => x.1 ≠ y.1 :=
        List.pairwise_map.mp (nodup_children h.self)
      refine hsteps.imp fun {x y} hne l hx hy => hne ?_
      exact Pointer.step_eq_of_prefix (prefix_of_mem_outline hx) (prefix_of_mem_outline hy)
    have hbelow (l : Landmark)
        (hl : l ∈ v.children.flatMap fun x => x.2.outline (path.child x.1)) : l.path ≠ path := by
      obtain ⟨x, _, hx⟩ := List.mem_flatMap.mp hl
      exact Pointer.ne_of_child_prefix (prefix_of_mem_outline hx)
    rw [outline_eq, List.nodup_cons, List.mem_append, not_or, List.nodup_append]
    refine ⟨⟨fun hl => hbelow _ hl rfl, fun hl => ?_⟩, hchildren, nodup_closing path v,
      fun l hl l' hl' heq => hbelow l hl ?_⟩
    · cases eq_of_mem_closing hl
    · rw [heq, eq_of_mem_closing hl', Landmark.path]

theorem nodup_places (h : v.DistinctKeys) : v.places.Nodup := by
  refine (nodup_outline h .root).filterMap fun l l' path hl hl' => ?_
  cases l <;> cases l' <;> simp_all [Landmark.node?]

end Json.Value

namespace Walk

variable {c : Config} {path : Pointer} {e a : Json.Value}
  {faced : Pointer → List (String × Json.Value) → Prop}

/-- What a report has for a landmark: nothing, one mismatch at a node, or at the end of an object
fields of the actual object that it faces, which are unexpected, in the order they have there. -/
inductive Entry (faced : Pointer → List (String × Json.Value) → Prop) :
    Landmark → List Mismatch → Prop
  | none {l : Landmark} : Entry faced l []
  | node {m : Mismatch} : m.kind ≠ .unexpectedField → Entry faced (.node m.path) [m]
  | close {path : Pointer} {fields : List (String × Json.Value)} {names : List String} :
    faced path fields → names.Sublist (fields.map Prod.fst) →
      Entry faced (.close path) (names.map fun name =>
        ⟨path.child (.field name), .unexpectedField, Mismatch.absent, name⟩)

/-- A report that follows landmarks from the first to the last. -/
inductive Follows (faced : Pointer → List (String × Json.Value) → Prop) :
    List Landmark → List Mismatch → Prop
  | nil : Follows faced [] []
  | cons {l : Landmark} {ls : List Landmark} {ms more : List Mismatch} :
    Entry faced l ms → Follows faced ls more → Follows faced (l :: ls) (ms ++ more)

namespace Follows

variable {ls ls' : List Landmark} {ms ms' : List Mismatch}

theorem none (faced : Pointer → List (String × Json.Value) → Prop) (ls : List Landmark) :
    Follows faced ls [] := by
  induction ls with
  | nil => exact .nil
  | cons l ls ih => exact .cons .none ih

theorem append (h : Follows faced ls ms) (h' : Follows faced ls' ms') :
    Follows faced (ls ++ ls') (ms ++ ms') := by
  induction h with
  | nil => exact h'
  | cons hentry _ ih =>
    rw [List.append_assoc]
    exact .cons hentry ih

theorem flatMap {f : Step × Json.Value → List Landmark} {children : List (Step × Json.Value)}
    {reports : List (List Mismatch)}
    (h : List.Forall₂ (fun x report => Follows faced (f x) report) children reports) :
    Follows faced (children.flatMap f) reports.flatten := by
  induction h with
  | nil => exact .nil
  | cons hreport _ ih => exact hreport.append ih

/-- Mismatches at nodes come in the order of the nodes. -/
theorem sublist (h : Follows faced ls ms) :
    ((ms.filter fun m => m.kind ≠ .unexpectedField).map Mismatch.path).Sublist
      (ls.filterMap Landmark.node?) := by
  induction h with
  | nil => exact .slnil
  | @cons l ls ms more hentry _ ih =>
    have hfirst : ((ms.filter fun m => m.kind ≠ .unexpectedField).map Mismatch.path).Sublist
        (l.node?.toList) := by
      cases hentry with
      | none => exact List.nil_sublist _
      | node hkind => simp [hkind, Landmark.node?]
      | close =>
        rw [List.filter_eq_nil_iff.mpr (by simp), List.map_nil]
        exact List.nil_sublist _
    have hls : (l :: ls).filterMap Landmark.node? =
        l.node?.toList ++ ls.filterMap Landmark.node? := by
      cases l <;> rfl
    rw [List.filter_append, List.map_append, hls]
    exact hfirst.append ih

end Follows

theorem OwnReport.entry {own : List Mismatch} (h : OwnReport path e own) :
    Entry faced (.node path) own := by
  cases h with
  | none => exact .none
  | value => exact .node (m := ⟨path, .value, _, _⟩) nofun
  | type => exact .node (m := ⟨path, .type, _, _⟩) nofun
  | length => exact .node (m := ⟨path, .length, _, _⟩) nofun

theorem ExtraReport.follows {extra : List Mismatch} (h : ExtraReport c path e a extra)
    (hfaced : ∀ es as, e = .object es → a = .object as → faced path as) :
    Follows faced (e.closing path) extra := by
  cases h with
  | none => exact .none faced _
  | @unexpected es slots =>
    have hnames : ((slots.filter fun s => !s.taken).map Slot.name).Sublist
        ((Slot.fields slots).map Prod.fst) := by
      rw [← Slot.map_name_eq]
      exact List.filter_sublist.map Slot.name
    have hentry : Entry faced (.close path) _ := .close (hfaced _ _ rfl rfl) hnames
    rw [List.map_map] at hentry
    have h := Follows.cons hentry .nil
    rwa [List.append_nil] at h

/-- The report of a comparison follows the landmarks of the expected node, and what it has at the end
of an object are fields of the actual object that the walk brings it together with. -/
theorem follows_of_compareNode {scope out : Scope} {ms : List Mismatch}
    (hfaced : ∀ p as, Faces c ⟨path, scope, e, a⟩ p as → faced p as)
    (h : compareNode c path scope e a = .ok (ms, out)) : Follows faced (e.outline path) ms := by
  induction e using Json.Value.induction_children generalizing path scope a ms out with
  | h e ih =>
    have hchild (x : Step × Json.Value) (hx : x ∈ e.children) (report : List Mismatch)
        (hreport : ChildReport c path scope e a x report) :
        Follows faced (x.2.outline (path.child x.1)) report := by
      cases hreport with
      | passed => exact .none faced _
      | missing =>
        rw [Json.Value.outline_eq]
        exact .cons (.node (m := ⟨_, .missingField, _, _⟩) nofun) (.none faced _)
      | compared hdescends hcompare =>
        exact ih x hx (fun p as hbelow => hfaced p as (hbelow.head hdescends)) hcompare
    cases report_of_compareNode h with
    | @parts own extra reports count hown hreports hextra =>
      have hfirst : Follows faced
          ((e.children.take count).flatMap fun x => x.2.outline (path.child x.1))
          reports.flatten := by
        have hmem := (List.forall₂_and_left _ _).mpr
          ⟨fun x (hx : x ∈ e.children.take count) => List.mem_of_mem_take hx, hreports⟩
        exact .flatMap (hmem.imp fun x report hx => hchild x hx.1 report hx.2)
      have hrest := Follows.none faced
        ((e.children.drop count).flatMap fun x => x.2.outline (path.child x.1))
      have hall := hfirst.append hrest
      rw [← List.flatMap_append, List.take_append_drop, List.append_nil] at hall
      have hend (es as : List (String × Json.Value)) (he : e = .object es)
          (ha : a = .object as) : faced path as := by
        subst he ha
        exact hfaced path as .here
      rw [Json.Value.outline_eq]
      exact .cons hown.entry (hall.append (hextra.follows hend))

end Walk

/-- A report goes through the expected tree depth first: the mismatches at nodes are in the order of
the nodes, none has two, and the unexpected fields of an object come behind all that is reported
below it and before all that comes after it, in the order of the actual object that the walk brings
it together with. -/
theorem ofJson_in_order {c : Config} {symbols : SymbolTable} {expected actual : Document}
    {e a : Json.Value} {r : Comparison} (he : expected.tree = .ok e) (ha : actual.tree = .ok a)
    (hmaps : expected.IsMaps) (h : Comparison.ofJson c symbols expected actual = .ok r) :
    Walk.Follows (Walk.Faces c ⟨.root, .ofTable symbols, e, a⟩) (e.outline .root) r.mismatches ∧
    (e.outline .root).Nodup ∧
    ((r.mismatches.filter fun m => m.kind ≠ .unexpectedField).map Mismatch.path).Sublist e.places ∧
    e.places.Nodup := by
  obtain ⟨out, hwalk⟩ := exists_walk_of_trees he ha h
  have hkeys := Document.distinctKeys_of_tree hmaps he
  have hfollows := Walk.follows_of_compareNode (fun _ _ hfaces => hfaces) hwalk
  exact ⟨hfollows, Json.Value.nodup_outline hkeys .root, hfollows.sublist,
    Json.Value.nodup_places hkeys⟩

/-- The second field is settled first, and reported last. -/
theorem ofJson_in_order_templated :
    ∃ r, Comparison.ofJson ⟨.strict, true, .standard, .auto⟩ .empty
        (.json (.object [("~[key]", .object [("x", .null)]), ("b", .array [.bool true])]))
        (.json (.object [("b", .array [.bool false, .null]),
          ("q", .object [("z", .null), ("y", .null)])])) = .ok r ∧
      r.mismatches.map Mismatch.path = [[.field "~[key]", .field "x"],
        [.field "~[key]", .field "z"], [.field "~[key]", .field "y"], [.field "b"],
        [.field "b", .item 0]] ∧
      Walk.Follows (Walk.Faces ⟨.strict, true, .standard, .auto⟩ ⟨.root, .ofTable .empty,
          .object [("~[key]", .object [("x", .null)]), ("b", .array [.bool true])],
          .object [("b", .array [.bool false, .null]),
            ("q", .object [("z", .null), ("y", .null)])]⟩)
        (Json.Value.outline .root
          (.object [("~[key]", .object [("x", .null)]), ("b", .array [.bool true])]))
        r.mismatches ∧
      ((r.mismatches.filter fun m => m.kind ≠ .unexpectedField).map Mismatch.path).Sublist
        (Json.Value.places
          (.object [("~[key]", .object [("x", .null)]), ("b", .array [.bool true])])) := by
  have hmaps : Document.IsMaps
      (.json (.object [("~[key]", .object [("x", .null)]), ("b", .array [.bool true])])) := by
    simp [Document.IsMaps, Json.Value.IsMap]
  have hr : Comparison.ofJson ⟨.strict, true, .standard, .auto⟩ .empty
        (.json (.object [("~[key]", .object [("x", .null)]), ("b", .array [.bool true])]))
        (.json (.object [("b", .array [.bool false, .null]),
          ("q", .object [("z", .null), ("y", .null)])])) =
      .ok (.failed [⟨[.field "~[key]", .field "x"], .missingField, "x", Mismatch.absent⟩,
        ⟨[.field "~[key]", .field "z"], .unexpectedField, Mismatch.absent, "z"⟩,
        ⟨[.field "~[key]", .field "y"], .unexpectedField, Mismatch.absent, "y"⟩,
        ⟨[.field "b"], .length, "1", "2"⟩, ⟨[.field "b", .item 0], .value, "true", "false"⟩]) := by
    cbv
  obtain ⟨hfollows, _, hsublist, _⟩ := ofJson_in_order rfl rfl hmaps hr
  exact ⟨_, hr, rfl, hfollows, hsublist⟩

end TemplateMatch
