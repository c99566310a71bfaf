import Mathlib
import TemplateMatch.Proofs.Walk.Errors
import TemplateMatch.Proofs.Walk.Reports

/-!
Where the paths of a comparison lead. A path is written as the text of a pointer. Read as one in the
expected tree, it leads to the node that a mismatch is about (`Mismatch.PointsInto`), or to the
string or the field whose template cannot be read (`PointsAtTemplate`).
-/

namespace TemplateMatch

/-- The path of a mismatch leads to a node of the expected tree, and the mismatch expects the text
of this node, its type, its number of items, or the field with this key. The path of an unexpected
field leads to an object if its last segment is left out, which is the name of an actual field. -/
def Mismatch.PointsInto (e a : Json.Value) (m : Mismatch) : Prop :=
  match m.kind with
  | .value => ∃ v, e.pointer? m.path.text = some v ∧ v.scalarText? = some m.expected
  | .type => ∃ v, e.pointer? m.path.text = some v ∧ v.typeLabel = m.expected
  | .length => ∃ items, e.pointer? m.path.text = some (.array items) ∧
      toString items.length = m.expected
  | .missingField => (∃ v, e.pointer? m.path.text = some v) ∧
      ∃ front, Pointer.segments? m.path.text = some (front ++ [m.expected])
  | .unexpectedField => ∃ front fields fields',
      Pointer.segments? m.path.text = some (front ++ [m.actual]) ∧
      e.follow? front = some (.object fields) ∧ (Json.Value.object fields').Part a ∧
      m.actual ∈ fields'.map Prod.fst

/-- The text of a path leads to a string, or to a field by its key, and this is a template that
cannot be read under some scope. -/
inductive PointsAtTemplate (c : Config) (start : Scope) (e : Json.Value) (path : Pointer)
    (cause : PatternError) : Prop
  | text {template : String} {scope : Scope} :
    e.pointer? path.text = some (.string template) → start.Extends scope →
      Synthesis.ofTemplate c.templateOptions scope.bindings template = .error cause →
      PointsAtTemplate c start e path cause
  | key {front : List String} {key : String} {fields : List (String × Json.Value)}
    {value : Json.Value} {scope : Scope} :
    Pointer.segments? path.text = some (front ++ [key]) →
      e.follow? front = some (.object fields) → (key, value) ∈ fields →
      e.pointer? path.text = some value → start.Extends scope →
      Synthesis.ofTemplate c.templateOptions scope.bindings key = .error cause →
      PointsAtTemplate c start e path cause

namespace Walk

variable {c : Config} {path : Pointer} {root whole e a : Json.Value}

theorem OwnReport.pointsInto {own : List Mismatch} (h : OwnReport path e own)
    (hat : root.at? path = some e) : ∀ m ∈ own, m.PointsInto root whole := by
  have hpointer := Json.Value.pointer?_text hat
  cases h with
  | none => exact nofun
  | value htext => exact List.forall_mem_singleton.mpr ⟨e, hpointer, htext⟩
  | type => exact List.forall_mem_singleton.mpr ⟨e, hpointer, rfl⟩
  | length he => exact List.forall_mem_singleton.mpr ⟨_, he ▸ hpointer, rfl⟩

theorem ExtraReport.pointsInto {extra : List Mismatch} (h : ExtraReport c path e a extra)
    (hat : root.at? path = some e) (hpart : a.Part whole) :
    ∀ m ∈ extra, m.PointsInto root whole := by
  cases h with
  | none => exact nofun
  | @unexpected es slots =>
    intro m hm
    obtain ⟨slot, hslot, rfl⟩ := List.mem_map.mp hm
    have hname : slot.name ∈ (Slot.fields slots).map Prod.fst :=
      List.mem_map.mpr ⟨_, Slot.mem_fields (List.mem_filter.mp hslot).1, rfl⟩
    exact ⟨_, es, Slot.fields slots, path.segments?_child (.field slot.name),
      Json.Value.follow?_map_name hat, hpart, hname⟩

/-- All mismatches of a comparison of two nodes point into the trees that these are parts of. -/
theorem pointsInto_of_compareNode {scope out : Scope} {ms : List Mismatch}
    (hmaps : e.DistinctKeys) (hat : root.at? path = some e) (hpart : a.Part whole)
    (h : compareNode c path scope e a = .ok (ms, out)) : ∀ m ∈ ms, m.PointsInto root whole := by
  induction e using Json.Value.induction_children generalizing path scope a ms out with
  | h e ih =>
    intro m hm
    rcases (report_of_compareNode h).of_mem hm with ⟨own, hown, hm⟩ | ⟨x, hx, report, hchild, hm⟩ |
      ⟨extra, hextra, hm⟩
    · exact hown.pointsInto hat m hm
    · have hat' := Json.Value.at?_of_mem_children hat hmaps.self hx
      cases hchild with
      | passed => cases hm
      | @missing key value =>
        obtain rfl := List.mem_singleton.mp hm
        exact ⟨⟨value, Json.Value.pointer?_text hat'⟩, _, path.segments?_child (.field key)⟩
      | compared hdescends hcompare =>
        exact ih x hx (hmaps.child hx) hat' (hdescends.part.trans hpart) hcompare m hm
    · exact hextra.pointsInto hat hpart m hm

/-- A comparison that fails has the path of the template that it failed on. -/
theorem pointsAtTemplate_of_compareNode {start scope : Scope} {cause : PatternError} {at_ : Pointer}
    (hmaps : e.DistinctKeys) (hat : root.at? path = some e) (hstart : start.Extends scope)
    (h : compareNode c path scope e a = .error (.pattern at_ cause)) :
    PointsAtTemplate c start root at_ cause := by
  induction e using Json.Value.induction_children generalizing path scope a with
  | h e ih =>
    cases nodeError_of_compareNode h with
    | text he hlater hs =>
      obtain ⟨_, herr, hs⟩ := error_of_synthesize hs
      cases herr
      exact .text (he ▸ Json.Value.pointer?_text hat) (hstart.trans hlater) hs
    | @key key value _ hx hlater hs =>
      obtain ⟨_, herr, hs⟩ := error_of_synthesize hs
      cases herr
      have hat' := Json.Value.at?_of_mem_children hat hmaps.self hx
      obtain ⟨fields, rfl, hf⟩ := Json.Value.exists_of_field_mem_children hx
      exact .key (path.segments?_child (.field key)) (Json.Value.follow?_map_name hat) hf
        (Json.Value.pointer?_text hat') (hstart.trans hlater) hs
    | child hx hlater hchild =>
      exact ih _ hx (hmaps.child hx) (Json.Value.at?_of_mem_children hat hmaps.self hx)
        (hstart.trans hlater) hchild

end Walk

/-- The paths that a comparison of two trees reports lead to where the trees differ, and the path of
an error leads to its template. -/
theorem ofJson_paths {c : Config} {symbols : SymbolTable} {expected actual : Document}
    {e a : Json.Value} (he : expected.tree = .ok e) (ha : actual.tree = .ok a)
    (hmaps : expected.IsMaps) :
    (∀ r, Comparison.ofJson c symbols expected actual = .ok r →
      ∀ m ∈ r.mismatches, m.PointsInto e a) ∧
    ∀ path cause, Comparison.ofJson c symbols expected actual = .error (.pattern path cause) →
      PointsAtTemplate c (.ofTable symbols) e path cause := by
  have hkeys := Document.distinctKeys_of_tree hmaps he
  constructor
  · intro r h
    obtain ⟨out, hwalk⟩ := exists_walk_of_trees he ha h
    exact Walk.pointsInto_of_compareNode hkeys rfl (.self a) hwalk
  · intro path cause h
    rw [Comparison.ofJson_eq he ha] at h
    cases hwalk : Walk.compareNode c .root (.ofTable symbols) e a with
    | ok run =>
      rw [hwalk] at h
      cases h
    | error err =>
      rw [hwalk] at h
      cases h
      exact Walk.pointsAtTemplate_of_compareNode hkeys rfl (.refl _) hwalk

/-- Keys with slashes and tildes, an empty key, and a key that is no template. -/
theorem ofJson_paths_escaped :
    (∃ r, Comparison.ofJson ⟨.strict, true, .standard, .auto⟩ .empty
        (.json (.object [("a/~1", .array [.bool true]), ("", .null)]))
        (.json (.object [("a/~1", .array [.bool false, .null]), ("z", .null)])) = .ok r ∧
      r.mismatches.map (fun m => m.path.text) = ["/a~1~01", "/a~1~01/0", "/", "/z"] ∧
      ∀ m ∈ r.mismatches, m.PointsInto (.object [("a/~1", .array [.bool true]), ("", .null)])
        (.object [("a/~1", .array [.bool false, .null]), ("z", .null)])) ∧
    Comparison.ofJson {} .empty (.json (.object [("/~[]", .null)])) (.json (.object [])) =
      .error (.pattern [.field "/~[]"] (.emptyPlaceholder 1)) ∧
    PointsAtTemplate {} (.ofTable .empty) (.object [("/~[]", .null)]) [.field "/~[]"]
      (.emptyPlaceholder 1) := by
  have hmaps : Document.IsMaps (.json (.object [("a/~1", .array [.bool true]), ("", .null)])) := by
    simp [Document.IsMaps, Json.Value.IsMap]
  have hmap : Document.IsMaps (.json (.object [("/~[]", .null)])) := by
    simp [Document.IsMaps, Json.Value.IsMap]
  have hr : Comparison.ofJson ⟨.strict, true, .standard, .auto⟩ .empty
        (.json (.object [("a/~1", .array [.bool true]), ("", .null)]))
        (.json (.object [("a/~1", .array [.bool false, .null]), ("z", .null)])) =
      .ok (.failed [⟨[.field "a/~1"], .length, "1", "2"⟩,
        ⟨[.field "a/~1", .item 0], .value, "true", "false"⟩,
        ⟨[.field ""], .missingField, "", Mismatch.absent⟩,
        ⟨[.field "z"], .unexpectedField, Mismatch.absent, "z"⟩]) := by cbv
  have herror : Comparison.ofJson {} .empty (.json (.object [("/~[]", .null)]))
        (.json (.object [])) =
      .error (.pattern [.field "/~[]"] (.emptyPlaceholder 1)) := by cbv
  exact ⟨⟨_, hr, by cbv, (ofJson_paths rfl rfl hmaps).1 _ hr⟩, herror,
    (ofJson_paths rfl rfl hmap).2 _ _ herror⟩

end TemplateMatch
