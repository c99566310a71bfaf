import TemplateMatch.Proofs.Json.Sketch
import TemplateMatch.Scenario

/-!
Whole numbers of 64 bits are compared exactly, from the text to the verdict. Two texts that differ
in one number at most pass just when the number is the same, and otherwise that number is all that
is reported, unless the texts are nested too deep to be read (`compare_integers`).
-/

namespace TemplateMatch

open Json

namespace Walk

variable {c : Config} {path : Pointer} {scope : Scope} {m n : Int}

/-- What is reported where one number is expected and another one found. -/
def integerMismatch (m n : Int) (path : Pointer) : List Mismatch :=
  if m = n then [] else [⟨path, .value, toString m, toString n⟩]

theorem compareNode_integer (hm : IsWord m) (hn : IsWord n) :
    compareNode c path scope (.number (.integer m)) (.number (.integer n)) =
      .ok (integerMismatch m n path, scope) := by
  rw [compareNode, compareLeaf, eqv_integer hm hn, integerMismatch]
  · by_cases h : m = n
    · rw [if_pos (decide_eq_true h), if_pos h]
    · rw [if_neg (by simpa using h), if_neg h]
      rfl
  · nofun
  · nofun

theorem length_values (m n : Int) (items : SketchItems) :
    (items.values m).length = (items.values n).length := by
  cases items with
  | last _ item _ => rfl
  | next _ item _ more => exact congrArg Nat.succ (length_values m n more)

mutual

theorem compareNode_value (c : Config) (scope : Scope) {m n : Int} (hm : IsWord m) (hn : IsWord n)
    (s : Sketch) (path : Pointer) :
    compareNode c path scope (s.value m) (s.value n) =
      .ok ((s.holes path).flatMap (integerMismatch m n), scope) := by
  cases s with
  | null => rfl
  | bool b => cases b <;> rfl
  | integer k h =>
    have hsame : integerMismatch k k path = [] := if_pos rfl
    rw [Sketch.value, Sketch.value, compareNode_integer h h, hsame]
    rfl
  | negativeZero =>
    rw [Sketch.value, Sketch.value, compareNode, compareLeaf, if_pos eqv_negativeZero]
    · rfl
    · nofun
    · nofun
  | hole =>
    rw [Sketch.holes, List.flatMap_singleton]
    exact compareNode_integer hm hn
  | empty => rfl
  | array items =>
    have hitems := compareItems_values c scope hm hn items path 0
    simp only [Sketch.value, compareNode, hitems, length_values m n items, if_true]
    rfl

theorem compareItems_values (c : Config) (scope : Scope) {m n : Int} (hm : IsWord m)
    (hn : IsWord n) (items : SketchItems) (path : Pointer) (index : Nat) :
    compareItems c path index scope (items.values m) (items.values n) =
      .ok ((items.holes path index).flatMap (integerMismatch m n), scope) := by
  cases items with
  | last before item after =>
    have hitem := compareNode_value c scope hm hn item (path.child (.item index))
    simp only [SketchItems.values, compareItems, hitem, List.append_nil]
    rfl
  | next before item after more =>
    have hitem := compareNode_value c scope hm hn item (path.child (.item index))
    have hmore := compareItems_values c scope hm hn more path (index + 1)
    simp only [SketchItems.values, compareItems, hitem, hmore]
    rw [← List.flatMap_append]
    rfl

end

end Walk

/-- An expected text that is nested too deep is refused, whatever it is compared with. -/
theorem Scenario.compare_of_deep (s : Scenario) (before after : Blank) (sketch : Sketch) {n : Int}
    (hn : IsWord n) (hdepth : depthLimit < sketch.depth) (actual : Document) :
    ∃ place, s.compare .json (.text (sketch.text before after n)) actual =
      (.error (.malformed .expected ⟨.nestedTooDeep, place⟩), s) := by
  obtain ⟨place, hread⟩ := sketch.read_text_of_deep before after hn hdepth
  have hjudge : s.judge .json (.text (sketch.text before after n)) actual =
      .error (.malformed .expected ⟨.nestedTooDeep, place⟩) := by
    simp only [judge, Comparison.ofDocuments, Comparison.ofJson, Document.tree, hread]
  refine ⟨place, ?_⟩
  rw [compare, hjudge]
  rfl

/-- Two texts that differ in one number at most, laid out alike in any way. As far as the reader
opens arrays the comparison passes just if the number is the same, and else reports it alone. Texts
that are nested deeper are refused whatever the number is. -/
theorem Scenario.compare_integers (s : Scenario) (before after : Blank) {sketch : Sketch}
    {path : Pointer} (hhole : sketch.holes .root = [path]) {n m : Int} (hn : IsWord n)
    (hm : IsWord m) :
    (sketch.depth ≤ depthLimit →
      s.compare .json (.text (sketch.text before after n)) (.text (sketch.text before after m)) =
        (.ok (if n = m then .passed .empty
          else .failed [⟨path, .value, toString n, toString m⟩]), s)) ∧
    (depthLimit < sketch.depth → ∃ place,
      s.compare .json (.text (sketch.text before after n)) (.text (sketch.text before after m)) =
        (.error (.malformed .expected ⟨.nestedTooDeep, place⟩), s)) := by
  refine ⟨fun hdepth => ?_, fun hdepth => s.compare_of_deep before after sketch hn hdepth _⟩
  have hwalk := Walk.compareNode_value s.config (.ofTable s.symbols) hn hm sketch .root
  rw [hhole, List.flatMap_singleton] at hwalk
  have hjudge : s.judge .json (.text (sketch.text before after n))
      (.text (sketch.text before after m)) =
        .ok (Walk.finish (Walk.integerMismatch n m path, .ofTable s.symbols)) := by
    simp only [judge, Comparison.ofDocuments, Comparison.ofJson, Document.tree,
      sketch.read_text before after hn hdepth, sketch.read_text before after hm hdepth, hwalk]
    rfl
  rw [compare, hjudge, Walk.integerMismatch]
  split <;> rfl

/-- Two numbers that are the same double. -/
theorem Scenario.compare_integers_adjacent :
    (Scenario.start {}).compare .json (.text "[1, [9007199254740993 ,-0]]\n")
        (.text "[1, [9007199254740992 ,-0]]\n") =
      (.ok (.failed [⟨[.item 1, .item 0], .value, "9007199254740993", "9007199254740992"⟩]),
        Scenario.start {}) := by
  let space : Blank := ⟨[' '], List.forall_mem_singleton.mpr rfl⟩
  let line : Blank := ⟨['\n'], List.forall_mem_singleton.mpr rfl⟩
  let sketch : Sketch := .array (.next .none (.integer 1 (by decide)) .none
    (.last space (.array (.next .none .hole space (.last .none .negativeZero .none))) .none))
  have hhole : sketch.holes .root = [[.item 1, .item 0]] := rfl
  have hexpected : sketch.text .none line 9007199254740993 = "[1, [9007199254740993 ,-0]]\n" := by
    decide +kernel
  have hactual : sketch.text .none line 9007199254740992 = "[1, [9007199254740992 ,-0]]\n" := by
    decide +kernel
  have h := ((Scenario.start {}).compare_integers .none line hhole
    (n := 9007199254740993) (m := 9007199254740992) (by decide) (by decide)).1 (by decide)
  rw [hexpected, hactual, if_neg (by decide)] at h
  exact h

/-- A number within so many arrays. -/
def Json.Sketch.nested : Nat → Sketch
  | 0 => .hole
  | d + 1 => .array (.last .none (nested d) .none)

theorem Json.Sketch.depth_nested (d : Nat) : (nested d).depth = d := by
  induction d with
  | zero => rfl
  | succ d ih => rw [nested, depth, SketchItems.depth, ih]

theorem Json.Sketch.chars_nested (k : Int) (d : Nat) :
    (nested d).chars k =
      List.replicate d '[' ++ ((toString k).toList ++ List.replicate d ']') := by
  induction d with
  | zero => exact (List.append_nil _).symm
  | succ d ih =>
    rw [nested, chars, SketchItems.chars, ih, List.replicate_succ, List.replicate_succ' (a := ']')]
    simp [Blank.none]

theorem Json.Sketch.holes_nested (path : Pointer) (d : Nat) :
    (nested d).holes path = [path ++ List.replicate d (.item 0)] := by
  induction d generalizing path with
  | zero => rw [nested, holes, List.replicate_zero, List.append_nil]
  | succ d ih =>
    rw [nested, holes, SketchItems.holes, ih, Pointer.child, List.append_assoc,
      List.singleton_append, List.replicate_succ]

/-- Within 128 arrays a number is not even found equal to itself. -/
theorem Scenario.not_passed_nested :
    (Sketch.nested 128).text .none .none 1 =
      String.ofList (List.replicate 128 '[' ++ '1' :: List.replicate 128 ']') ∧
    (Sketch.nested 128).holes .root = [List.replicate 128 (.item 0)] ∧ IsWord 1 ∧
    ¬ ∃ captured after, (Scenario.start {}).compare .json
        (.text ((Sketch.nested 128).text .none .none 1))
        (.text ((Sketch.nested 128).text .none .none 1)) = (.ok (.passed captured), after) := by
  have hword : IsWord 1 := by decide
  have hdepth : depthLimit < (Sketch.nested 128).depth := by
    rw [Sketch.depth_nested]
    decide
  have htext : (Sketch.nested 128).text .none .none 1 =
      String.ofList (List.replicate 128 '[' ++ '1' :: List.replicate 128 ']') := by
    rw [Sketch.text, Sketch.chars_nested, Blank.none, List.nil_append, List.append_nil]
    rfl
  refine ⟨htext, Sketch.holes_nested .root 128, hword, ?_⟩
  rintro ⟨captured, after, h⟩
  obtain ⟨place, hcompare⟩ := (Scenario.start {}).compare_of_deep .none .none (Sketch.nested 128)
    hword hdepth (.text ((Sketch.nested 128).text .none .none 1))
  rw [hcompare] at h
  cases h

end TemplateMatch
