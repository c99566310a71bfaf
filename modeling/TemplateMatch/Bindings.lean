/-! What symbols are bound to. -/

namespace TemplateMatch

/-- The value of each bound symbol. -/
abbrev Bindings := String → Option String

namespace Bindings

def none : Bindings := fun _ => .none

/-- The last pair of a name counts. -/
def ofPairs (pairs : List (String × String)) : Bindings := fun name => pairs.reverse.lookup name

@[simp] theorem none_apply (name : String) : none name = .none := rfl

end Bindings

/-- Sets the value of a name, at its place if it has one and at the end if not. -/
def assign {α : Type} (name : String) (value : α) : List (String × α) → List (String × α)
  | [] => [(name, value)]
  | entry :: rest =>
    if entry.1 = name then (name, value) :: rest else entry :: assign name value rest

/-- One entry for each name: the place of its first pair and the value of its last. -/
def lastWriteWins (pairs : List (String × String)) : List (String × String) :=
  pairs.foldl (fun entries pair => assign pair.1 pair.2 entries) []

theorem mem_map_fst_assign {α : Type} {name n : String} {value : α}
    {entries : List (String × α)} :
    n ∈ (assign name value entries).map Prod.fst ↔ n = name ∨ n ∈ entries.map Prod.fst := by
  induction entries with
  | nil => simp [assign]
  | cons entry rest ih =>
    rw [assign]
    split
    · next h => subst h; simp
    · simp only [List.map_cons, List.mem_cons, ih]; grind

theorem nodup_assign {α : Type} {name : String} {value : α} {entries : List (String × α)}
    (h : (entries.map Prod.fst).Nodup) : ((assign name value entries).map Prod.fst).Nodup := by
  induction entries with
  | nil => simp [assign]
  | cons entry rest ih =>
    rw [List.map_cons, List.nodup_cons] at h
    rw [assign]
    split
    · next he => subst he; simpa using h
    · next hne =>
      rw [List.map_cons, List.nodup_cons]
      refine ⟨?_, ih h.2⟩
      rw [mem_map_fst_assign]
      rintro (he | hm)
      · exact hne he
      · exact h.1 hm

theorem lookup_assign {α : Type} (name : String) (value : α) (n : String)
    (entries : List (String × α)) :
    (assign name value entries).lookup n = if n = name then some value else entries.lookup n := by
  induction entries with
  | nil => simp only [assign, List.lookup_cons, List.lookup_nil]; grind
  | cons entry rest ih =>
    obtain ⟨k, v⟩ := entry
    rw [assign]
    split
    · next h => simp only at h; subst h; simp only [List.lookup_cons]; grind
    · simp only [List.lookup_cons, ih]; grind

theorem assign_append {α : Type} {name : String} {value : α} {entries : List (String × α)}
    (h : name ∉ entries.map Prod.fst) (added : List (String × α)) :
    assign name value (entries ++ added) = entries ++ assign name value added := by
  induction entries with
  | nil => rfl
  | cons e rest ih =>
    rw [List.map_cons, List.mem_cons, not_or] at h
    rw [List.cons_append, assign, if_neg (Ne.symm h.1), ih h.2]
    rfl

theorem assign_of_not_mem {α : Type} {name : String} {value : α} {entries : List (String × α)}
    (h : name ∉ entries.map Prod.fst) : assign name value entries = entries ++ [(name, value)] := by
  rw [← List.append_nil entries, assign_append h, List.append_nil, assign]

/-- Pairs that are assigned hide the entries there were; of two values of a name the last counts. -/
theorem lookup_foldl_assign (pairs entries : List (String × String)) (name : String) :
    (pairs.foldl (fun entries pair => assign pair.1 pair.2 entries) entries).lookup name =
      (Bindings.ofPairs pairs name <|> entries.lookup name) := by
  induction pairs generalizing entries with
  | nil => rfl
  | cons pair rest ih =>
    obtain ⟨n, value⟩ := pair
    rw [List.foldl_cons, ih, lookup_assign, Bindings.ofPairs, Bindings.ofPairs, List.reverse_cons,
      List.lookup_append]
    cases hlater : rest.reverse.lookup name with
    | some value => rfl
    | none =>
      by_cases hname : name = n
      · simp [hname]
      · simp [List.lookup_cons, hname, beq_false_of_ne hname]

theorem lookup_lastWriteWins (pairs : List (String × String)) (name : String) :
    (lastWriteWins pairs).lookup name = Bindings.ofPairs pairs name := by
  rw [lastWriteWins, lookup_foldl_assign]
  cases Bindings.ofPairs pairs name <;> rfl

theorem mem_of_lookup {α : Type} {entries : List (String × α)} {name : String} {value : α}
    (h : entries.lookup name = some value) : (name, value) ∈ entries := by
  obtain ⟨before, after, hentries, _⟩ := List.lookup_eq_some_iff.mp h
  rw [hentries]
  exact List.mem_append_right _ List.mem_cons_self

theorem lookup_of_mem {α : Type} {entries : List (String × α)} (hn : (entries.map Prod.fst).Nodup)
    {name : String} {value : α} (h : (name, value) ∈ entries) :
    entries.lookup name = some value := by
  induction entries with
  | nil => cases h
  | cons e rest ih =>
    rw [List.map_cons, List.nodup_cons] at hn
    rw [List.lookup_cons]
    rcases List.mem_cons.mp h with rfl | hmem
    · rw [beq_self_eq_true]
    · have hne : name ≠ e.1 := fun he => hn.1 (he ▸ List.mem_map_of_mem hmem)
      rw [beq_false_of_ne hne]
      exact ih hn.2 hmem

theorem lookup_eq_none {α : Type} {entries : List (String × α)} {name : String} :
    entries.lookup name = none ↔ name ∉ entries.map Prod.fst := by
  rw [List.lookup_eq_none_iff]
  simp only [bne_iff_ne, List.mem_map, not_exists, not_and]
  exact ⟨fun h e he hname => h e he hname.symm, fun h e he hname => h e he hname.symm⟩

end TemplateMatch
