import TemplateMatch.Proofs.Scenario.Repetition
import TemplateMatch.Proofs.Walk.Layers

/-!
Comparing many trees at once or one by one. What the items of an array capture lies in the pending
layer of one walk, and what single comparisons capture is committed after each of them; the later
ones see it either way. So one comparison of two arrays passes exactly if the comparisons of their
items pass one after the other, and leaves the same scenario (`compare_items_iff`).
-/

namespace TemplateMatch

namespace Scenario

/-- The scenario after comparing trees pair by pair, if all comparisons pass. -/
def compareEach (s : Scenario) : List (Json.Value × Json.Value) → Option Scenario
  | [] => some s
  | (e, a) :: pairs =>
    match s.compare .json (.json e) (.json a) with
    | (.ok (.passed _), after) => after.compareEach pairs
    | _ => none

/-- What is in sight at the end of a walk is what the scenario has then. -/
theorem sameSymbols_committed {s : Scenario} {t out : Scope} (h : t.SameSymbols out)
    (hout : (Scope.ofTable s.symbols).Extends out) :
    t.SameSymbols (.ofTable (s.committed out).symbols) := by
  refine ⟨?_, h.nodup⟩
  have hentries : out.entries = (s.committed out).symbols.entries := by
    rw [Scope.entries, hout.base]
    exact hout.entries_insertAll.symm
  rw [h.entries_eq, hentries]
  exact (List.append_nil _).symm

/-- Scenarios with the same settings and the same symbols in sight are the same. -/
theorem eq_of_sameSymbols {s after : Scenario} {t : Scope}
    (h : t.SameSymbols (.ofTable s.symbols)) (h' : t.SameSymbols (.ofTable after.symbols))
    (hconfig : after.config = s.config) : s = after := by
  have hentries : s.symbols.entries ++ [] = after.symbols.entries ++ [] :=
    h.entries_eq.symm.trans h'.entries_eq
  rw [List.append_nil, List.append_nil] at hentries
  cases s
  cases after
  rw [Scenario.mk.injEq]
  exact ⟨SymbolTable.ext hentries, hconfig.symm⟩

theorem compareEach_cons {s after : Scenario} {e a : Json.Value}
    {pairs : List (Json.Value × Json.Value)} :
    s.compareEach ((e, a) :: pairs) = some after ↔
      ∃ out, Walk.compareNode s.config .root (.ofTable s.symbols) e a = .ok ([], out) ∧
        (s.committed out).compareEach pairs = some after := by
  rw [compareEach]
  constructor
  · intro h
    split at h
    · next hcompare =>
      obtain ⟨out, hwalk, _, rfl⟩ := compare_eq_passed.mp hcompare
      exact ⟨out, hwalk, h⟩
    · cases h
  · rintro ⟨out, hwalk, h⟩
    rw [compare_eq_passed.mpr ⟨out, hwalk, rfl, rfl⟩]
    exact h

/-- A walk over items, in any scope with the symbols of a scenario, is a row of comparisons. -/
theorem compareItems_iff_compareEach {s : Scenario} {t : Scope}
    (h : t.SameSymbols (.ofTable s.symbols)) (path : Pointer) (index : Nat)
    (pairs : List (Json.Value × Json.Value)) (after : Scenario) :
    (∃ out, Walk.compareItems s.config path index t (pairs.map Prod.fst) (pairs.map Prod.snd) =
        .ok ([], out) ∧ out.SameSymbols (.ofTable after.symbols) ∧ after.config = s.config) ↔
      s.compareEach pairs = some after := by
  induction pairs generalizing s t index with
  | nil =>
    rw [compareEach, Option.some.injEq]
    constructor
    · rintro ⟨out, hout, hafter, hconfig⟩
      cases hout
      exact eq_of_sameSymbols h hafter hconfig
    · rintro rfl
      exact ⟨t, rfl, h, rfl⟩
  | cons pair pairs ih =>
    obtain ⟨e, a⟩ := pair
    rw [compareEach_cons, List.map_cons, List.map_cons]
    simp only [Walk.compareItems_cons_passed]
    -- The first pair is compared in the walk as it is on its own.
    have hfirst := Walk.isAlike (c := s.config) e a (path.child (.item index)) .root t _ h
    have hnext {mid mid' : Scope} (hmid : mid.SameSymbols mid')
        (hsingle : Walk.compareNode s.config .root (.ofTable s.symbols) e a = .ok ([], mid')) :=
      ih (sameSymbols_committed hmid (Walk.extends_of_compareNode hsingle)) (index + 1)
    constructor
    · rintro ⟨out, ⟨mid, hitem, hrest⟩, hafter⟩
      obtain ⟨mid', hsingle, hmid⟩ := hfirst.exists_passed hitem
      exact ⟨mid', hsingle, (hnext hmid hsingle).mp ⟨out, hrest, hafter⟩⟩
    · rintro ⟨mid', hsingle, heach⟩
      obtain ⟨mid, hitem, hmid⟩ := hfirst.symm.exists_passed hsingle
      obtain ⟨out, hrest, hafter⟩ := (hnext hmid.symm hsingle).mpr heach
      exact ⟨out, ⟨mid, hitem, hrest⟩, hafter⟩

/-- Comparing two arrays of as many items in one walk passes exactly if comparing the items pair by
pair, each time under the symbols that are bound by then, passes every time; and both leave the same
scenario. -/
theorem compare_items_iff (s : Scenario) (pairs : List (Json.Value × Json.Value))
    (after : Scenario) :
    (∃ captured, s.compare .json (.json (.array (pairs.map Prod.fst)))
        (.json (.array (pairs.map Prod.snd))) = (.ok (.passed captured), after)) ↔
      s.compareEach pairs = some after := by
  rw [← compareItems_iff_compareEach (.ofTable s.symbols) .root 0]
  have hlen : (pairs.map Prod.fst).length = (pairs.map Prod.snd).length := by
    rw [List.length_map, List.length_map]
  constructor
  · rintro ⟨captured, h⟩
    obtain ⟨out, hwalk, rfl, rfl⟩ := compare_eq_passed.mp h
    obtain ⟨_, _, hsame⟩ :=
      (Walk.isAlike _ _ .root .root _ _ (.ofTable s.symbols)).exists_passed hwalk
    have hafter := sameSymbols_committed hsame.refl_left (Walk.extends_of_compareNode hwalk)
    rw [Walk.compareNode_items hlen] at hwalk
    exact ⟨out, hwalk, hafter, rfl⟩
  · rintro ⟨out, hitems, hafter, hconfig⟩
    have hwalk := (Walk.compareNode_items hlen).trans hitems
    have hend := sameSymbols_committed hafter.refl_left (Walk.extends_of_compareNode hwalk)
    exact ⟨out.pending, compare_eq_passed.mpr
      ⟨out, hwalk, rfl, (eq_of_sameSymbols hend hafter hconfig).symm⟩⟩

end Scenario

end TemplateMatch
