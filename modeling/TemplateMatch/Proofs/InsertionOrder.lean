import Mathlib
import TemplateMatch.Mismatch
import TemplateMatch.Proofs.Entries

/-!
What a table holds after any changes: the names since it was last empty in the order in which they
first came, each with its latest value, and an index that agrees. All is read off one equation:
changing a table step by step is inserting, into an empty one, what has been written since it was
last empty (`run_eq_insertAll`).
-/

namespace TemplateMatch

inductive TableStep
  | insert (name value : String)
  | extend (pairs : List (String × String))
  /-- A new table, of these pairs, takes the place of the old one. -/
  | collect (pairs : List (String × String))
  | clear

namespace TableStep

def apply (t : IndexedEntries) : TableStep → IndexedEntries
  | insert name value => (t.insert name value).2
  | extend pairs => t.insertAll pairs
  | collect pairs => IndexedEntries.empty.insertAll pairs
  | clear => .empty

/-- The table after all steps, from the empty one. -/
def run (steps : List TableStep) : IndexedEntries := steps.foldl apply .empty

/-- What has been written since the table was last empty, after one more step. -/
def record (pairs : List (String × String)) : TableStep → List (String × String)
  | insert name value => pairs ++ [(name, value)]
  | extend more => pairs ++ more
  | collect pairs => pairs
  | clear => []

/-- The pairs that have been written since the table was last empty. -/
def written (steps : List TableStep) : List (String × String) := steps.foldl record []

end TableStep

/-- The names in the order of their first pairs, each with the value of its last. -/
def latest (pairs : List (String × String)) : List (String × String) :=
  (pairs.map Prod.fst).eraseDups.filterMap fun name =>
    (Bindings.ofPairs pairs name).map fun value => (name, value)

theorem map_fst_assign_of_mem {α : Type} {name : String} {value : α} {entries : List (String × α)}
    (h : name ∈ entries.map Prod.fst) :
    (assign name value entries).map Prod.fst = entries.map Prod.fst := by
  induction entries with
  | nil => cases h
  | cons e rest ih =>
    rw [assign]
    split
    · next he => rw [List.map_cons, List.map_cons, he]
    · next hne =>
      rw [List.map_cons, List.mem_cons] at h
      rw [List.map_cons, List.map_cons, ih (h.resolve_left (Ne.symm hne))]

/-- Names keep the places of their first pairs. -/
theorem map_fst_lastWriteWins (pairs : List (String × String)) :
    (lastWriteWins pairs).map Prod.fst = (pairs.map Prod.fst).eraseDups := by
  induction pairs using List.reverseRecOn with
  | nil => rfl
  | append_singleton pairs pair ih =>
    have hlast : lastWriteWins (pairs ++ [pair]) = assign pair.1 pair.2 (lastWriteWins pairs) := by
      rw [lastWriteWins, List.foldl_append]
      rfl
    rw [hlast, List.map_append, List.eraseDups_append, ← ih]
    by_cases hmem : pair.1 ∈ (lastWriteWins pairs).map Prod.fst
    · have hmem' := mem_map_fst_lastWriteWins.mp hmem
      rw [map_fst_assign_of_mem hmem]
      simp [List.removeAll, hmem']
    · have hmem' := mem_map_fst_lastWriteWins.not.mp hmem
      rw [assign_of_not_mem hmem, List.map_append]
      simp [List.removeAll, List.eraseDups_cons, hmem']

/-- Entries with distinct names are told by their names and what is found under them. -/
theorem filterMap_lookup {entries : List (String × String)} (h : (entries.map Prod.fst).Nodup) :
    ((entries.map Prod.fst).filterMap fun name =>
      (entries.lookup name).map fun value => (name, value)) = entries := by
  rw [List.filterMap_map]
  refine (List.filterMap_congr fun e he => ?_).trans List.filterMap_some
  show (entries.lookup e.1).map _ = some e
  rw [lookup_of_mem h he]
  rfl

theorem lastWriteWins_eq_latest (pairs : List (String × String)) :
    lastWriteWins pairs = latest pairs := by
  rw [← filterMap_lookup (nodup_lastWriteWins pairs), map_fst_lastWriteWins, latest]
  refine List.filterMap_congr fun name _ => ?_
  rw [lookup_lastWriteWins]

namespace TableStep

theorem apply_insertAll (pairs : List (String × String)) (step : TableStep) :
    apply (IndexedEntries.empty.insertAll pairs) step =
      IndexedEntries.empty.insertAll (record pairs step) := by
  cases step with
  | insert name value =>
    rw [record, IndexedEntries.insertAll, IndexedEntries.insertAll, List.foldl_append]
    rfl
  | extend more => exact List.foldl_append.symm
  | collect _ => rfl
  | clear => rfl

/-- Only what has been written since the table was last empty tells in it. -/
theorem run_eq_insertAll (steps : List TableStep) :
    run steps = IndexedEntries.empty.insertAll (written steps) := by
  suffices hfrom : ∀ pairs, steps.foldl apply (IndexedEntries.empty.insertAll pairs) =
      IndexedEntries.empty.insertAll (steps.foldl record pairs) from hfrom []
  induction steps with
  | nil => exact fun pairs => rfl
  | cons step rest ih =>
    intro pairs
    rw [List.foldl_cons, List.foldl_cons, apply_insertAll]
    exact ih _

/-- So it is a symbol table. -/
theorem run_eq_ofPairs (steps : List TableStep) :
    run steps = (SymbolTable.ofPairs (written steps)).toIndexedEntries := by
  rw [run_eq_insertAll]
  generalize written steps = pairs
  suffices hfrom : ∀ t : SymbolTable,
      t.toIndexedEntries.insertAll pairs = (t.insertAll pairs).toIndexedEntries from hfrom .empty
  induction pairs with
  | nil => exact fun t => rfl
  | cons pair rest ih => exact fun t => ih (t.insert pair.1 pair.2)

/-- After any changes a table is a map in order of insertion. Its names are distinct, and the index
has the place of each and nothing else. It is asked for the last value of a name since it was last
empty, which binding the name again gives back; it has one entry for each name since then, in the
order of the first values, with the last ones, and so it is written out. What its entries are tells
all of it. -/
theorem run_in_order (steps : List TableStep) :
    (run steps).names.Nodup ∧
    (∀ (name : String) (slot : Nat),
      (run steps).index[name]? = some slot ↔ (run steps).names[slot]? = some name) ∧
    (∀ name, (run steps).get? name = Bindings.ofPairs (written steps) name ∧
      ((run steps).contains name = true ↔ name ∈ (written steps).map Prod.fst) ∧
      ∀ value, ((run steps).insert name value).1 = Bindings.ofPairs (written steps) name) ∧
    (run steps).size = ((written steps).map Prod.fst).toFinset.card ∧
    (run steps).entries = latest (written steps) ∧
    (run steps).toJson =
      .object ((latest (written steps)).map fun entry => (entry.1, .string entry.2)) ∧
    ∀ others, run others = run steps ↔ (run others).entries = (run steps).entries := by
  have hindexed (steps : List TableStep) : (run steps).WellIndexed := by
    rw [run_eq_ofPairs]
    exact (SymbolTable.ofPairs _).wellIndexed
  have hentries : (run steps).entries = lastWriteWins (written steps) := by
    rw [run_eq_ofPairs, SymbolTable.entries_ofPairs]
  have hnames : (run steps).names = (lastWriteWins (written steps)).map Prod.fst := by
    rw [IndexedEntries.names, hentries]
  have hget (name : String) : (run steps).get? name = Bindings.ofPairs (written steps) name := by
    rw [run_eq_ofPairs]
    exact SymbolTable.get?_ofPairs _ name
  refine ⟨(hindexed steps).nodup, hindexed steps, fun name => ⟨hget name, ?_, fun value => ?_⟩,
    ?_, ?_, ?_, fun others => ⟨congrArg _, (hindexed others).eq_of_entries_eq (hindexed steps)⟩⟩
  · rw [(hindexed steps).contains_iff, hnames, mem_map_fst_lastWriteWins]
  · rw [IndexedEntries.insert_fst, hget]
  · have hsame : ((written steps).map Prod.fst).toFinset = (run steps).names.toFinset := by
      ext name
      rw [List.mem_toFinset, List.mem_toFinset, hnames, mem_map_fst_lastWriteWins]
    rw [hsame, List.toFinset_card_of_nodup (hindexed steps).nodup]
    exact (List.length_map _).symm
  · rw [hentries, lastWriteWins_eq_latest]
  · rw [IndexedEntries.toJson, hentries, lastWriteWins_eq_latest]

end TableStep

end TemplateMatch
