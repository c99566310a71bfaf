import TemplateMatch.Proofs.Scenario.Symbols
import TemplateMatch.Proofs.Walk.Repeating

/-!
Comparing two documents once more after they have passed. Under the symbols that the first
comparison left behind they pass again, nothing is captured and the scenario stays as it is
(`compare_repeats`), if the expected document can be repeated against the actual one. A placeholder
that was captured with two values, one that is repeated in an expression, and a key that two fields
can answer are reasons for which it may not (`compare_not_repeated`).
-/

namespace TemplateMatch

/-- The tree as which a document is compared. -/
def Document.value? (type : ContentType) (d : Document) : Option Json.Value :=
  match type with
  | .json => d.tree.toOption
  | .text => some (.string d.wholeText)

theorem Document.tree_eq_ok {d : Document} {v : Json.Value} (h : d.value? .json = some v) :
    d.tree = .ok v :=
  toOption_eq_some.mp h

theorem Document.distinctKeys_of_value? {type : ContentType} {d : Document} {v : Json.Value}
    (hd : d.IsMaps) (h : d.value? type = some v) : v.DistinctKeys := by
  cases type with
  | json => exact distinctKeys_of_tree hd (tree_eq_ok h)
  | text =>
    cases h
    exact Json.Value.distinctKeys_leaf nofun nofun

/-- Documents of both types are compared as trees. -/
theorem Comparison.ofDocuments_eq {type : ContentType} {expected actual : Document}
    {e a : Json.Value} (he : expected.value? type = some e) (ha : actual.value? type = some a)
    (c : Config) (symbols : SymbolTable) :
    ofDocuments c symbols type expected actual =
      (Walk.compareNode c .root (.ofTable symbols) e a).map Walk.finish := by
  cases type with
  | json =>
    rw [ofDocuments, ofJson, Document.tree_eq_ok he, Document.tree_eq_ok ha]
  | text =>
    cases he
    cases ha
    rfl

/-- All that is bound at the end of a comparison is bound after its captures were inserted. -/
theorem Scope.Extends.sub_insertAll {table : SymbolTable} {out : Scope}
    (h : (Scope.ofTable table).Extends out) :
    out.bindings.Sub (table.insertAll out.pending.entries).bindings := by
  intro name value hvalue
  rw [Scope.bindings, h.base, Option.orElse_eq_orElse, Option.orElse_eq_or,
    Option.or_eq_some_iff] at hvalue
  rw [SymbolTable.bindings, SymbolTable.get?_eq_lookup, h.entries_insertAll, List.lookup_append,
    Option.or_eq_some_iff, ← SymbolTable.get?_eq_lookup, ← SymbolTable.get?_eq_lookup]
  rcases hvalue with hpending | ⟨_, hbase⟩
  · rw [SymbolTable.get?_eq_lookup] at hpending
    exact .inr ⟨h.not_bound _ (mem_of_lookup hpending),
      (SymbolTable.get?_eq_lookup _ _).trans hpending⟩
  · exact .inl hbase

namespace Scenario

/-- A comparison that passed has bound what it captured. -/
theorem eq_of_compare_passed {s after : Scenario} {type : ContentType} {expected actual : Document}
    {captured : SymbolTable}
    (h : s.compare type expected actual = (.ok (.passed captured), after)) :
    s.judge type expected actual = .ok (.passed captured) ∧
      after = ⟨s.symbols.insertAll captured.entries, s.config⟩ := by
  have hjudge : s.judge type expected actual = .ok (.passed captured) := congrArg Prod.fst h
  have hafter : s.commit (s.judge type expected actual) = after := congrArg Prod.snd h
  rw [hjudge] at hafter
  exact ⟨hjudge, hafter.symm⟩

/-- A scenario after a walk that found no mismatch. -/
def committed (s : Scenario) (out : Scope) : Scenario :=
  { s with symbols := s.symbols.insertAll out.pending.entries }

/-- A comparison of trees passes if the walk finds no mismatch, and then keeps what it captured. -/
theorem compare_eq_passed {s after : Scenario} {e a : Json.Value} {captured : SymbolTable} :
    s.compare .json (.json e) (.json a) = (.ok (.passed captured), after) ↔
      ∃ out, Walk.compareNode s.config .root (.ofTable s.symbols) e a = .ok ([], out) ∧
        captured = out.pending ∧ after = s.committed out := by
  constructor
  · intro h
    obtain ⟨hjudge, rfl⟩ := eq_of_compare_passed h
    obtain ⟨⟨ms, out⟩, hwalk, hfinish⟩ := map_eq_ok.mp hjudge
    obtain ⟨rfl, hcaptured⟩ := finish_eq_passed hfinish rfl
    obtain rfl : captured = out.pending := hcaptured
    exact ⟨out, hwalk, rfl, rfl⟩
  · rintro ⟨out, hwalk, rfl, rfl⟩
    change ((Walk.compareNode _ _ _ _ _).map Walk.finish,
      s.commit ((Walk.compareNode _ _ _ _ _).map Walk.finish)) = _
    rw [hwalk]
    rfl

/-- What passed passes again under the symbols that it left behind, and captures nothing more. -/
theorem compare_repeats {s after : Scenario} {type : ContentType} {expected actual : Document}
    {captured : SymbolTable} {e a : Json.Value}
    (h : s.compare type expected actual = (.ok (.passed captured), after))
    (he : expected.value? type = some e) (ha : actual.value? type = some a)
    (hactual : actual.IsMaps)
    (hrepeats : Walk.Repeats s.config s.symbols.bindings after.symbols.bindings e a) :
    after.compare type expected actual = (.ok (.passed .empty), after) := by
  obtain ⟨hjudge, hafter⟩ := eq_of_compare_passed h
  rw [judge, Comparison.ofDocuments_eq he ha] at hjudge
  obtain ⟨⟨ms, out⟩, hwalk, hfinish⟩ := map_eq_ok.mp hjudge
  obtain ⟨hms, hcaptured⟩ := finish_eq_passed hfinish rfl
  have hgrown := Walk.extends_of_compareNode hwalk
  -- All that the walk had bound in the end is in the symbols that it left behind.
  have hout : out.bindings.Sub (Scope.ofTable after.symbols).bindings := by
    rw [hafter, Scope.bindings_ofTable]
    have hpending : captured = out.pending := hcaptured
    rw [hpending]
    exact hgrown.sub_insertAll
  have hagain : Walk.compareNode s.config .root (.ofTable after.symbols) e a =
      .ok (ms, .ofTable after.symbols) :=
    Walk.compareNode_again e (hgrown.sub.trans hout) .root _ a ms out hwalk
      (Document.distinctKeys_of_value? hactual ha) (.refl _) (.inr ⟨hms, hout, by
        rwa [Scope.bindings_ofTable, Scope.bindings_ofTable]⟩)
  have hjudge' : after.judge type expected actual = .ok (.passed .empty) := by
    have hconfig : after.config = s.config := by rw [hafter]
    rw [judge, Comparison.ofDocuments_eq he ha, hconfig, hagain, hms]
    rfl
  rw [compare, hjudge']
  rfl

/-- What a key and a value have captured. -/
def userSymbols : SymbolTable := ⟨[("key", "id"), ("name", "bob")], by decide⟩

/-- Bound to its value, the key is satisfied by the one name only. -/
theorem not_fits_admin : ¬Walk.Fits {} userSymbols.bindings "~[key]" "admin" := by
  rintro (hname | ⟨s, hs, hmatch⟩)
  · exact absurd hname (by decide)
  · have hkey : ∃ s, Synthesis.ofTemplate (Config.templateOptions {}) userSymbols.bindings "~[key]" =
        .ok s ∧ s.isMatch "admin" = false := ⟨⟨.program _, _, _⟩, by cbv, by cbv⟩
    obtain ⟨s', hs', hmatch'⟩ := hkey
    rw [hs] at hs'
    cases hs'
    rw [hmatch] at hmatch'
    cases hmatch'

theorem repeats_user :
    Walk.Repeats {} SymbolTable.empty.bindings userSymbols.bindings
      (.object [("~[key]", .string "user-~[name]")])
      (.object [("id", .string "user-bob"), ("admin", .bool true)]) := by
  have hcompiled {r : Except Regex.Error Regex.Program} (hr : ∃ p, r = .ok p) (limit : Nat) :
      r ≠ .error (.tooLarge limit) := by
    obtain ⟨p, rfl⟩ := hr
    exact nofun
  have hkey : Template.Fills {} .none userSymbols.bindings [.placeholder 0 "key"] := by
    refine ⟨_, _, by cbv, by cbv, fun i hi => ?_, by cbv, hcompiled ⟨_, by cbv⟩⟩
    cases Nat.lt_one_iff.mp hi
    exact ⟨by cbv, List.not_mem_nil⟩
  have hvalue : Template.Fills {} .none userSymbols.bindings
      [.literal "user-", .placeholder 5 "name"] := by
    refine ⟨_, _, by cbv, by cbv, fun i hi => ?_, by cbv, hcompiled ⟨_, by cbv⟩⟩
    cases Nat.lt_one_iff.mp hi
    exact ⟨by cbv, List.not_mem_nil⟩
  have hleaf (a : Json.Value) : Walk.Repeats {} SymbolTable.empty.bindings userSymbols.bindings
      (.string "user-~[name]") a :=
    .text (.of_single (by cbv) (by cbv) rfl hvalue)
  intro v w hacross
  cases hacross with
  | here =>
    refine List.forall_mem_singleton.mpr (.inr ⟨?_, fun f hf g hg hfits hfits' => ?_, .inr rfl⟩)
    · exact .of_single (by cbv) (by cbv) rfl hkey
    · simp only [List.mem_cons, List.not_mem_nil, or_false] at hf hg
      rcases hf with rfl | rfl
      · rcases hg with rfl | rfl
        · rfl
        · exact absurd hfits' not_fits_admin
      · exact absurd hfits not_fits_admin
  | field hf _ _ hacross =>
    obtain rfl := List.mem_singleton.mp hf
    exact hleaf _ v w hacross

/-- Both names satisfied the key before it was bound. -/
theorem compare_repeats_user :
    (start {}).compare .json (.json (.object [("~[key]", .string "user-~[name]")]))
          (.json (.object [("id", .string "user-bob"), ("admin", .bool true)])) =
        (.ok (.passed userSymbols), ⟨userSymbols, {}⟩) ∧
      compare ⟨userSymbols, {}⟩ .json (.json (.object [("~[key]", .string "user-~[name]")]))
          (.json (.object [("id", .string "user-bob"), ("admin", .bool true)])) =
        (.ok (.passed .empty), ⟨userSymbols, {}⟩) := by
  have hcompare : (start {}).compare .json
        (.json (.object [("~[key]", .string "user-~[name]")]))
        (.json (.object [("id", .string "user-bob"), ("admin", .bool true)])) =
      (.ok (.passed userSymbols), ⟨userSymbols, {}⟩) := by
    cbv
  have hactual : Document.IsMaps
      (.json (.object [("id", .string "user-bob"), ("admin", .bool true)])) := by
    simp [Document.IsMaps, Json.Value.IsMap]
  exact ⟨hcompare, compare_repeats hcompare rfl rfl hactual repeats_user⟩

/-- What passed need not pass again: a placeholder that stands twice was captured with two values, a
repeated one with its last value only, and a key is answered by another field once its value may be
read differently. -/
theorem compare_not_repeated :
    (∃ after ms, (start ⟨.lenient, false, .standard, .literal⟩).compare .text
        (.text "~[x]-~[x]") (.text "a-b") =
          (.ok (.passed ⟨[("x", "b")], by decide⟩), after) ∧
      (after.compare .text (.text "~[x]-~[x]") (.text "a-b")).1 = .ok (.failed ms)) ∧
    (∃ after ms, (start ⟨.lenient, true, .standard, .regex⟩).compare .text
        (.text "(~[x]b)+") (.text "abcb") =
          (.ok (.passed ⟨[("x", "c")], by decide⟩), after) ∧
      (after.compare .text (.text "(~[x]b)+") (.text "abcb")).1 = .ok (.failed ms)) ∧
    ∃ after ms, (start ⟨.lenient, false, .standard, .literal⟩).compare .json
        (.json (.object [("~[k]", .string "~[k]"), ("~[m]", .string "zz")]))
        (.json (.object [("~[k]", .string "zz"), ("zz", .string "zz")])) =
          (.ok (.passed ⟨[("k", "zz"), ("m", "~[k]")], by decide⟩), after) ∧
      (after.compare .json
        (.json (.object [("~[k]", .string "~[k]"), ("~[m]", .string "zz")]))
        (.json (.object [("~[k]", .string "zz"), ("zz", .string "zz")]))).1 =
          .ok (.failed ms) :=
  ⟨⟨_, _, by cbv, by cbv⟩, ⟨_, _, by cbv, by cbv⟩, ⟨_, _, by cbv, by cbv⟩⟩

end Scenario

end TemplateMatch
