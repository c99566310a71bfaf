import Std.Data.ExtHashMap
import TemplateMatch.Bindings

/-!
Entries in the order in which their names came, and beside them an index of where each name stands.
The two are changed one after the other; `WellIndexed` says that they agree.
-/

namespace TemplateMatch

structure IndexedEntries where
  entries : List (String × String)
  index : Std.ExtHashMap String Nat

namespace IndexedEntries

def empty : IndexedEntries := ⟨[], ∅⟩

instance : Inhabited IndexedEntries := ⟨empty⟩

def size (t : IndexedEntries) : Nat := t.entries.length

def isEmpty (t : IndexedEntries) : Bool := t.entries.isEmpty

def names (t : IndexedEntries) : List String := t.entries.map Prod.fst

/-- Where the entry of a name stands, by the index. -/
def slot? (t : IndexedEntries) (name : String) : Option Nat := t.index[name]?

def get? (t : IndexedEntries) (name : String) : Option String :=
  (t.slot? name).bind fun slot => t.entries[slot]?.map Prod.snd

def contains (t : IndexedEntries) (name : String) : Bool := t.index.contains name

/-- A new entry at the end. -/
def push (t : IndexedEntries) (name value : String) : IndexedEntries :=
  ⟨t.entries ++ [(name, value)], t.index.insert name t.entries.length⟩

/-- Entries with the index that belongs to them. -/
def ofEntries (entries : List (String × String)) : IndexedEntries :=
  entries.foldl (fun t entry => t.push entry.1 entry.2) empty

instance : Coe (List (String × String)) IndexedEntries := ⟨ofEntries⟩

/-- Binds a name, and gives what it was bound to. A bound one keeps its place. -/
def insert (t : IndexedEntries) (name value : String) : Option String × IndexedEntries :=
  match t.slot? name with
  | some slot =>
    match t.entries[slot]? with
    | some entry => (some entry.2, { t with entries := t.entries.set slot (entry.1, value) })
    | none => (none, t.push name value)
  | none => (none, t.push name value)

def insertAll (t : IndexedEntries) (pairs : List (String × String)) : IndexedEntries :=
  pairs.foldl (fun t pair => (t.insert pair.1 pair.2).2) t

theorem names_push (t : IndexedEntries) (name value : String) :
    (t.push name value).names = t.names ++ [name] := List.map_append

/-- The index has the place of each name of an entry, and nothing else. -/
def WellIndexed (t : IndexedEntries) : Prop :=
  ∀ (name : String) (slot : Nat), t.slot? name = some slot ↔ t.names[slot]? = some name

/-- The first entry of a name is the one that stands at its place. -/
theorem set_eq_assign {entries : List (String × String)} {slot : Nat} {name old : String}
    (hn : (entries.map Prod.fst).Nodup) (h : entries[slot]? = some (name, old)) (value : String) :
    entries.set slot (name, value) = assign name value entries := by
  induction entries generalizing slot with
  | nil => cases h
  | cons e rest ih =>
    rw [List.map_cons, List.nodup_cons] at hn
    cases slot with
    | zero =>
      obtain rfl := Option.some.inj h
      rw [assign, if_pos rfl, List.set_cons_zero]
    | succ slot =>
      rw [List.getElem?_cons_succ] at h
      have hne : e.1 ≠ name := fun he =>
        hn.1 (he ▸ List.mem_map_of_mem (f := Prod.fst) (List.mem_of_getElem? h))
      rw [assign, if_neg hne, List.set_cons_succ, ih hn.2 h]

/-- What was bound is what is overwritten, whether the two parts agree or not. -/
theorem insert_fst (t : IndexedEntries) (name value : String) :
    (t.insert name value).1 = t.get? name := by
  rw [insert, get?]
  cases t.slot? name with
  | none => rfl
  | some slot => cases hentry : t.entries[slot]? <;> simp [hentry]

namespace WellIndexed

variable {s t : IndexedEntries} {name : String}

theorem empty : IndexedEntries.empty.WellIndexed := by
  intro name slot
  simp [IndexedEntries.empty, names, slot?]

theorem nodup (h : t.WellIndexed) : t.names.Nodup := by
  rw [List.nodup_iff_pairwise_ne, List.pairwise_iff_getElem]
  intro i j hi hj hlt heq
  have hslot := (h _ i).mpr (List.getElem?_eq_getElem hi)
  rw [heq, (h _ j).mpr (List.getElem?_eq_getElem hj)] at hslot
  exact absurd (Option.some.inj hslot) (Nat.ne_of_gt hlt)

theorem exists_entry (h : t.WellIndexed) {slot : Nat} (hslot : t.slot? name = some slot) :
    ∃ value, t.entries[slot]? = some (name, value) := by
  have hname := (h name slot).mp hslot
  rw [names, List.getElem?_map, Option.map_eq_some_iff] at hname
  obtain ⟨⟨_, value⟩, hentry, rfl⟩ := hname
  exact ⟨value, hentry⟩

theorem slot?_eq_none (h : t.WellIndexed) : t.slot? name = none ↔ name ∉ t.names := by
  rw [Option.eq_none_iff_forall_ne_some, List.mem_iff_getElem?, not_exists]
  exact forall_congr' fun slot => not_congr (h name slot)

theorem get?_eq_lookup (h : t.WellIndexed) (name : String) :
    t.get? name = t.entries.lookup name := by
  rw [get?]
  cases hslot : t.slot? name with
  | none => exact (lookup_eq_none.mpr (h.slot?_eq_none.mp hslot)).symm
  | some slot =>
    obtain ⟨value, hentry⟩ := h.exists_entry hslot
    rw [lookup_of_mem h.nodup (List.mem_of_getElem? hentry), Option.bind_some, hentry,
      Option.map_some]

theorem contains_iff (h : t.WellIndexed) : t.contains name = true ↔ name ∈ t.names := by
  have hslot : t.contains name = true ↔ (t.slot? name).isSome := by
    rw [contains, Std.ExtHashMap.contains_iff_mem, ← Std.ExtHashMap.isSome_getElem?_iff_mem, slot?]
  rw [hslot, Option.isSome_iff_ne_none, ne_eq, h.slot?_eq_none, Classical.not_not]

/-- Where the entries are the same the index is too. -/
theorem eq_of_entries_eq (hs : s.WellIndexed) (ht : t.WellIndexed) (h : s.entries = t.entries) :
    s = t := by
  obtain ⟨entries, index⟩ := s
  obtain ⟨_, index'⟩ := t
  subst h
  congr 1
  refine Std.ExtHashMap.ext_getElem? fun name => Option.ext fun slot => ?_
  exact (hs name slot).trans (ht name slot).symm

/-- All that binding a name can do: a bound one is overwritten, another one comes at the end. The
index never points past the entries. -/
theorem insert_cases (h : t.WellIndexed) (name value : String) :
    (∃ slot old, t.entries[slot]? = some (name, old) ∧
      t.insert name value =
        (some old, { t with entries := t.entries.set slot (name, value) })) ∨
    (name ∉ t.names ∧ t.insert name value = (none, t.push name value)) := by
  rw [IndexedEntries.insert]
  cases hslot : t.slot? name with
  | none => exact .inr ⟨h.slot?_eq_none.mp hslot, rfl⟩
  | some slot =>
    obtain ⟨old, hentry⟩ := h.exists_entry hslot
    exact .inl ⟨slot, old, hentry, by simp only [hentry]⟩

theorem push (h : t.WellIndexed) (hname : name ∉ t.names) (value : String) :
    (t.push name value).WellIndexed := by
  intro n slot
  have hlength : t.entries.length = t.names.length := (List.length_map _).symm
  have hpush : (t.push name value).slot? n =
      if name = n then some t.names.length else t.slot? n := by
    simp only [slot?, IndexedEntries.push, Std.ExtHashMap.getElem?_insert, beq_iff_eq, hlength]
  rw [names_push, hpush]
  by_cases hn : name = n
  · subst hn
    -- The name stands nowhere before its new place.
    have hfree (slot : Nat) : t.names[slot]? ≠ some name :=
      fun hslot => hname (List.mem_of_getElem? hslot)
    rw [if_pos rfl, Option.some.injEq]
    grind
  · rw [if_neg hn, h n slot]
    grind

protected theorem insert (h : t.WellIndexed) (name value : String) :
    (t.insert name value).2.WellIndexed := by
  obtain ⟨slot, old, hentry, hinsert⟩ | ⟨hname, hinsert⟩ := h.insert_cases name value
  · rw [hinsert]
    have hnames : (t.entries.set slot (name, value)).map Prod.fst = t.names := by
      refine List.ext_getElem? fun i => ?_
      rw [names, List.getElem?_map, List.getElem?_map, List.getElem?_set]
      split
      · next hi => subst hi; grind
      · rfl
    intro n slot
    refine (h n slot).trans ?_
    rw [← hnames]
    rfl
  · rw [hinsert]
    exact h.push hname value

theorem entries_insert (h : t.WellIndexed) (name value : String) :
    (t.insert name value).2.entries = assign name value t.entries := by
  obtain ⟨slot, old, hentry, hinsert⟩ | ⟨hname, hinsert⟩ := h.insert_cases name value
  · rw [hinsert, set_eq_assign h.nodup hentry]
  · rw [hinsert]
    exact (assign_of_not_mem hname).symm

end WellIndexed

theorem entries_foldl_push (t : IndexedEntries) (entries : List (String × String)) :
    (entries.foldl (fun t entry => t.push entry.1 entry.2) t).entries = t.entries ++ entries := by
  induction entries generalizing t with
  | nil => exact (List.append_nil _).symm
  | cons e rest ih => rw [List.foldl_cons, ih, push, List.append_assoc, List.singleton_append]

theorem WellIndexed.foldl_push {t : IndexedEntries} (h : t.WellIndexed)
    {entries : List (String × String)} (hn : (t.names ++ entries.map Prod.fst).Nodup) :
    (entries.foldl (fun t entry => t.push entry.1 entry.2) t).WellIndexed := by
  induction entries generalizing t with
  | nil => exact h
  | cons e rest ih =>
    have hname : e.1 ∉ t.names := fun hmem =>
      (List.nodup_append.mp hn).2.2 _ hmem _ List.mem_cons_self rfl
    refine ih (h.push hname e.2) ?_
    change ((t.push e.1 e.2).names ++ _).Nodup
    rwa [names_push, List.append_assoc, List.singleton_append]

@[simp] theorem entries_ofEntries (entries : List (String × String)) :
    (ofEntries entries).entries = entries := entries_foldl_push empty entries

theorem wellIndexed_ofEntries {entries : List (String × String)} :
    (ofEntries entries).WellIndexed ↔ (entries.map Prod.fst).Nodup := by
  refine ⟨fun h => ?_, fun hn => WellIndexed.empty.foldl_push hn⟩
  have hn := h.nodup
  rwa [names, entries_ofEntries] at hn

instance (entries : List (String × String)) : Decidable (ofEntries entries).WellIndexed :=
  decidable_of_iff _ wellIndexed_ofEntries.symm

end IndexedEntries

end TemplateMatch
