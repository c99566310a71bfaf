import TemplateMatch.Proofs.Entries
import TemplateMatch.Scope

/-!
Scopes only grow: what a comparison captures is added behind what was captured before, and only
under names that were unbound. So a symbol keeps its value from then on.
-/

namespace TemplateMatch

/-- A scope with more captured, each name unbound before. -/
structure Scope.Extends (s t : Scope) : Prop where
  base : t.base = s.base
  added : ∃ new, t.pending.entries = s.pending.entries ++ new ∧ ∀ e ∈ new, s.bindings e.1 = none

namespace Scope

theorem bindings_eq_none {s : Scope} {name : String} :
    s.bindings name = none ↔ s.pending.get? name = none ∧ s.base.get? name = none := by
  rw [bindings, Option.orElse_eq_orElse, Option.orElse_eq_or, Option.or_eq_none_iff]

/-- What is captured hides what was bound before; of two values of a name the last counts. -/
theorem bindings_bindAll (s : Scope) (captures : List (String × String)) (name : String) :
    (s.bindAll captures).bindings name =
      (Bindings.ofPairs captures name <|> s.bindings name) := by
  change ((s.pending.insertAll captures).get? name <|> s.base.get? name) = _
  rw [SymbolTable.get?_insertAll]
  cases Bindings.ofPairs captures name <;> rfl

theorem bindings_bindAll_eq_none {s : Scope} {captures : List (String × String)} {name : String} :
    (s.bindAll captures).bindings name = none ↔
      name ∉ captures.map Prod.fst ∧ s.bindings name = none := by
  rw [bindings_bindAll, Option.orElse_eq_orElse, Option.orElse_eq_or, Option.or_eq_none_iff,
    Bindings.ofPairs, lookup_eq_none, List.map_reverse, List.mem_reverse]

/-- Captures of unbound symbols are added behind what was captured before. -/
theorem pending_bindAll {s : Scope} {captures : List (String × String)}
    (h : ∀ c ∈ captures, s.bindings c.1 = none) :
    (s.bindAll captures).pending.entries = s.pending.entries ++ lastWriteWins captures := by
  have hpending : ∀ c ∈ captures, c.1 ∉ s.pending.entries.map Prod.fst := by
    intro c hc
    exact SymbolTable.get?_eq_none.mp (bindings_eq_none.mp (h c hc)).1
  change (s.pending.insertAll captures).entries = _
  rw [SymbolTable.entries_insertAll, foldl_assign_append hpending]

namespace Extends

variable {s t u : Scope}

theorem refl (s : Scope) : s.Extends s :=
  ⟨rfl, [], (List.append_nil _).symm, fun _ h => absurd h List.not_mem_nil⟩

/-- A symbol keeps its value. -/
theorem bindings_eq (h : s.Extends t) {name value : String} (hb : s.bindings name = some value) :
    t.bindings name = some value := by
  obtain ⟨new, hnew, hunbound⟩ := h.added
  -- A new name was unbound, so it is not this one.
  have hfresh : new.lookup name = none := by
    rw [lookup_eq_none]
    intro hmem
    obtain ⟨e, he, rfl⟩ := List.mem_map.mp hmem
    rw [hunbound e he] at hb
    cases hb
  have hpending : t.pending.get? name = s.pending.get? name := by
    rw [SymbolTable.get?_eq_lookup, SymbolTable.get?_eq_lookup, hnew, List.lookup_append, hfresh,
      Option.or_none]
  rw [bindings, hpending, h.base]
  exact hb

theorem bindings_eq_none (h : s.Extends t) {name : String} (hb : t.bindings name = none) :
    s.bindings name = none := by
  cases hs : s.bindings name with
  | none => rfl
  | some value => rw [h.bindings_eq hs] at hb; cases hb

theorem trans (h₁ : s.Extends t) (h₂ : t.Extends u) : s.Extends u := by
  obtain ⟨new₁, hnew₁, hunbound₁⟩ := h₁.added
  obtain ⟨new₂, hnew₂, hunbound₂⟩ := h₂.added
  refine ⟨h₂.base.trans h₁.base, new₁ ++ new₂, ?_, ?_⟩
  · rw [hnew₂, hnew₁, List.append_assoc]
  · intro e he
    rcases List.mem_append.mp he with he | he
    · exact hunbound₁ e he
    · exact h₁.bindings_eq_none (hunbound₂ e he)

/-- Captures of unbound symbols extend a scope. -/
theorem bindAll {captures : List (String × String)}
    (h : ∀ c ∈ captures, s.bindings c.1 = none) : s.Extends (s.bindAll captures) := by
  refine ⟨rfl, lastWriteWins captures, pending_bindAll h, ?_⟩
  intro e he
  have hname := mem_map_fst_lastWriteWins.mp (List.mem_map_of_mem (f := Prod.fst) he)
  obtain ⟨c, hc, hce⟩ := List.mem_map.mp hname
  rw [← hce]
  exact h c hc

/-- What has been captured over a table is bound in neither. -/
theorem not_bound {table : SymbolTable} (h : (ofTable table).Extends t) :
    ∀ e ∈ t.pending.entries, table.get? e.1 = none := by
  obtain ⟨new, hnew, hunbound⟩ := h.added
  intro e he
  rw [hnew] at he
  exact (Scope.bindings_eq_none.mp (hunbound e he)).2

/-- Inserted into the table, what has been captured over it stands behind its entries. -/
theorem entries_insertAll {table : SymbolTable} (h : (ofTable table).Extends t) :
    (table.insertAll t.pending.entries).entries = table.entries ++ t.pending.entries := by
  rw [SymbolTable.entries_insertAll, foldl_assign_append, lastWriteWins_of_nodup t.pending.nodup]
  exact fun e he => SymbolTable.get?_eq_none.mp (h.not_bound e he)

end Extends

end Scope

end TemplateMatch
