import TemplateMatch.IndexedEntries

/-! Symbol tables: names bound to values, in the order in which the names were first bound. -/

namespace TemplateMatch

/-- Entries with an index that agrees with them, so their names are distinct. -/
structure SymbolTable extends IndexedEntries where
  wellIndexed : toIndexedEntries.WellIndexed

namespace SymbolTable

def empty : SymbolTable := ⟨.empty, .empty⟩

instance : Inhabited SymbolTable := ⟨empty⟩

theorem nodup (t : SymbolTable) : (t.entries.map Prod.fst).Nodup := t.wellIndexed.nodup

@[ext] theorem ext {s t : SymbolTable} (h : s.entries = t.entries) : s = t := by
  obtain ⟨s, hs⟩ := s
  obtain ⟨t, ht⟩ := t
  obtain rfl := hs.eq_of_entries_eq ht h
  rfl

instance : DecidableEq SymbolTable := fun _ _ => decidable_of_iff _ SymbolTable.ext_iff.symm

def size (t : SymbolTable) : Nat := t.entries.length

def isEmpty (t : SymbolTable) : Bool := t.entries.isEmpty

def names (t : SymbolTable) : List String := t.entries.map Prod.fst

def get? (t : SymbolTable) (name : String) : Option String := t.toIndexedEntries.get? name

def contains (t : SymbolTable) (name : String) : Bool := t.toIndexedEntries.contains name

/-- Binds a name; a bound one keeps its place. -/
def insert (t : SymbolTable) (name value : String) : SymbolTable :=
  ⟨(t.toIndexedEntries.insert name value).2, t.wellIndexed.insert name value⟩

def insertAll (t : SymbolTable) (pairs : List (String × String)) : SymbolTable :=
  pairs.foldl (fun t pair => t.insert pair.1 pair.2) t

def ofPairs (pairs : List (String × String)) : SymbolTable := empty.insertAll pairs

def bindings (t : SymbolTable) : Bindings := t.get?

theorem get?_eq_lookup (t : SymbolTable) (name : String) : t.get? name = t.entries.lookup name :=
  t.wellIndexed.get?_eq_lookup name

@[simp] theorem entries_insert (t : SymbolTable) (name value : String) :
    (t.insert name value).entries = assign name value t.entries :=
  t.wellIndexed.entries_insert name value

theorem get?_eq_none {t : SymbolTable} {name : String} :
    t.get? name = none ↔ name ∉ t.entries.map Prod.fst := by
  rw [get?_eq_lookup, lookup_eq_none]

@[simp] theorem get?_empty (name : String) : empty.get? name = none := get?_eq_none.mpr nofun

theorem get?_insert (t : SymbolTable) (name value n : String) :
    (t.insert name value).get? n = if n = name then some value else t.get? n := by
  rw [get?_eq_lookup, get?_eq_lookup, entries_insert, lookup_assign]

theorem entries_insertAll (t : SymbolTable) (pairs : List (String × String)) :
    (t.insertAll pairs).entries =
      pairs.foldl (fun entries pair => assign pair.1 pair.2 entries) t.entries := by
  induction pairs generalizing t with
  | nil => rfl
  | cons pair rest ih =>
    rw [insertAll, List.foldl_cons, List.foldl_cons, ← entries_insert]
    exact ih (t.insert pair.1 pair.2)

theorem entries_ofPairs (pairs : List (String × String)) :
    (ofPairs pairs).entries = lastWriteWins pairs := entries_insertAll empty pairs

theorem get?_insertAll (t : SymbolTable) (pairs : List (String × String)) (name : String) :
    (t.insertAll pairs).get? name = (Bindings.ofPairs pairs name <|> t.get? name) := by
  rw [get?_eq_lookup, get?_eq_lookup, entries_insertAll, lookup_foldl_assign]

theorem get?_ofPairs (pairs : List (String × String)) (name : String) :
    (ofPairs pairs).get? name = Bindings.ofPairs pairs name := by
  rw [get?_eq_lookup, entries_ofPairs, lookup_lastWriteWins]

end SymbolTable

end TemplateMatch
