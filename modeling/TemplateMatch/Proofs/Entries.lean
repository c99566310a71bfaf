import Mathlib.Data.List.Nodup
import TemplateMatch.SymbolTable

/-!
Entries with distinct names. Assigning to names that are not there yet adds them at the end, so what
was there keeps its place and its value: `foldl_assign_append`.
-/

namespace TemplateMatch

variable {α β : Type}

theorem lookup_map_snd (f : α → β) (name : String) (entries : List (String × α)) :
    (entries.map fun e => (e.1, f e.2)).lookup name = (entries.lookup name).map f := by
  induction entries with
  | nil => rfl
  | cons e rest ih =>
    rw [List.map_cons, List.lookup_cons, List.lookup_cons, ih]
    split <;> rfl

/-- Where a list is mapped to distinct things, what is mapped to the same is at the same place. -/
theorem index_eq_of_nodup {f : α → β} {l : List α} (hn : (l.map f).Nodup) {i j : Nat} {x y : α}
    (hx : l[i]? = some x) (hy : l[j]? = some y) (h : f x = f y) : i = j := by
  have hi : i < (l.map f).length := by
    rw [List.length_map]
    exact (List.getElem?_eq_some_iff.mp hx).1
  refine (List.getElem?_inj hi hn).mp ?_
  rw [List.getElem?_map, List.getElem?_map, hx, hy, Option.map_some, Option.map_some, h]

theorem map_fst_assign_grow (name : String) (value : α) (entries : List (String × α)) :
    entries.map Prod.fst <+: (assign name value entries).map Prod.fst := by
  induction entries with
  | nil => exact List.nil_prefix
  | cons e rest ih =>
    rw [assign]
    split
    · next he =>
      subst he
      exact List.prefix_rfl
    · rw [List.map_cons, List.map_cons, List.prefix_cons_inj]
      exact ih

/-- The last pair of each name is added, at the place of the first. -/
theorem foldl_assign_append {entries pairs : List (String × String)}
    (h : ∀ c ∈ pairs, c.1 ∉ entries.map Prod.fst) :
    pairs.foldl (fun entries pair => assign pair.1 pair.2 entries) entries =
      entries ++ lastWriteWins pairs := by
  -- The entries at the front are never touched, whatever has been added behind them.
  suffices hadded : ∀ added : List (String × String),
      pairs.foldl (fun entries pair => assign pair.1 pair.2 entries) (entries ++ added) =
        entries ++ pairs.foldl (fun entries pair => assign pair.1 pair.2 entries) added by
    have hnil := hadded []
    rwa [List.append_nil] at hnil
  induction pairs with
  | nil => exact fun added => rfl
  | cons pair rest ih =>
    intro added
    rw [List.foldl_cons, List.foldl_cons, assign_append (h pair List.mem_cons_self)]
    exact ih (fun c hc => h c (List.mem_cons_of_mem _ hc)) _

theorem mem_map_fst_lastWriteWins {pairs : List (String × String)} {name : String} :
    name ∈ (lastWriteWins pairs).map Prod.fst ↔ name ∈ pairs.map Prod.fst := by
  suffices hfrom : ∀ entries : List (String × String),
      name ∈ (pairs.foldl (fun entries pair => assign pair.1 pair.2 entries) entries).map Prod.fst ↔
        name ∈ entries.map Prod.fst ∨ name ∈ pairs.map Prod.fst by
    rw [lastWriteWins, hfrom, List.map_nil]
    exact or_iff_right List.not_mem_nil
  induction pairs with
  | nil => simp
  | cons pair rest ih =>
    intro entries
    rw [List.foldl_cons, ih, mem_map_fst_assign, List.map_cons, List.mem_cons]
    tauto

theorem nodup_lastWriteWins (pairs : List (String × String)) :
    ((lastWriteWins pairs).map Prod.fst).Nodup := by
  rw [← SymbolTable.entries_ofPairs]
  exact (SymbolTable.ofPairs pairs).nodup

theorem mem_lastWriteWins {pairs : List (String × String)} {name value : String} :
    (name, value) ∈ lastWriteWins pairs ↔ Bindings.ofPairs pairs name = some value := by
  rw [← lookup_lastWriteWins]
  exact ⟨lookup_of_mem (nodup_lastWriteWins pairs), mem_of_lookup⟩

/-- Pairs with distinct names are all kept as they are. -/
theorem lastWriteWins_of_nodup {pairs : List (String × String)}
    (h : (pairs.map Prod.fst).Nodup) : lastWriteWins pairs = pairs := by
  induction pairs with
  | nil => rfl
  | cons pair rest ih =>
    rw [List.map_cons, List.nodup_cons] at h
    have hrest : ∀ c ∈ rest, c.1 ∉ [pair].map Prod.fst := by
      intro c hc hname
      rw [List.map_singleton, List.mem_singleton] at hname
      exact h.1 (hname ▸ List.mem_map_of_mem hc)
    rw [lastWriteWins, List.foldl_cons]
    change rest.foldl _ [pair] = _
    rw [foldl_assign_append hrest, ih h.2]
    rfl

end TemplateMatch
