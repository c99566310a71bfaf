import TemplateMatch.Proofs.Json.Grammar

/-!
Trees without fractions are read back from what is written for them, without spaces (`read_compact`)
and in lines (`read_pretty`).
-/

namespace TemplateMatch.Json.Value

/-- The numbers of the tree are whole, its objects are maps, and its arrays and objects are nested
so deep at most. -/
inductive Writable : Nat → Value → Prop
  | null {d : Nat} : Writable d null
  | bool {d : Nat} (b : Bool) : Writable d (bool b)
  | integer {d : Nat} {n : Int} : IsWord n → Writable d (number (.integer n))
  | string {d : Nat} (s : String) : Writable d (string s)
  | array {d : Nat} {items : List Value} :
    (∀ v ∈ items, Writable d v) → Writable (d + 1) (array items)
  | object {d : Nat} {fields : List (String × Value)} :
    (fields.map Prod.fst).Nodup → (∀ f ∈ fields, Writable d f.2) → Writable (d + 1) (object fields)

variable {d : Nat} {text rest : List Char}

/-- The text stands for the value, whatever follows that ends a number. -/
def IsTextOf (d : Nat) (text : List Char) (v : Value) : Prop :=
  ∀ rest, EndsNumber rest → Begins d (.value v) (text ++ rest) rest

theorem isTextOf_number {n : Int} (h : IsWord n) :
    IsTextOf d (Number.integer n).text.toList (number (.integer n)) :=
  fun _ hrest => .number (.integer h) hrest

/-! ## Without spaces -/

theorem begins_compactItems {items : List Value}
    (h : ∀ v ∈ items, IsTextOf d v.compactChars v) (rest : List Char) :
    Begins d (.items items) (compactItems items ++ ']' :: rest) rest := by
  induction items with
  | nil => exact .noItems
  | cons v items ih =>
    rw [List.forall_mem_cons] at h
    cases items with
    | nil => exact .item (h.1 _ (endsNumber_cons (by decide))) .lastItem
    | cons w items =>
      rw [compactItems, List.append_assoc, List.cons_append]
      · exact .item (h.1 _ (endsNumber_cons (by decide))) (.nextItem (ih h.2))
      · nofun

theorem begins_compactFields {fields : List (String × Value)}
    (h : ∀ f ∈ fields, IsTextOf d f.2.compactChars f.2) (rest : List Char) :
    Begins d (.fields fields) (compactFields fields ++ '\x7d' :: rest) rest := by
  induction fields with
  | nil => exact .noFields
  | cons f fields ih =>
    obtain ⟨key, v⟩ := f
    rw [List.forall_mem_cons] at h
    cases fields with
    | nil =>
      rw [compactFields, List.append_assoc]
      exact .field (.fieldValue (h.1 _ (endsNumber_cons (by decide)))) .lastField
    | cons g fields =>
      rw [compactFields, List.append_assoc, List.cons_append, List.append_assoc]
      · exact .field (.fieldValue (h.1 _ (endsNumber_cons (by decide)))) (.nextField (ih h.2))
      · nofun

theorem Writable.compact {v : Value} (h : Writable d v) : IsTextOf d v.compactChars v := by
  induction h with
  | null => exact fun _ _ => .null
  | bool b => exact fun _ _ => .bool b
  | integer h => exact isTextOf_number h
  | string s => exact fun _ _ => .string s
  | array _ ih =>
    intro rest _
    rw [compactChars, List.cons_append, List.append_assoc]
    exact .array (begins_compactItems ih rest)
  | object hkeys _ ih =>
    intro rest _
    rw [compactChars, List.cons_append, List.append_assoc]
    exact .object hkeys (begins_compactFields ih rest)

/-! ## In lines -/

theorem isSpace_of_mem_newLine {n : Nat} {c : Char} (h : c ∈ newLine n) : isSpace c = true := by
  rcases List.mem_cons.mp h with rfl | h
  · rfl
  · rw [List.eq_of_mem_replicate h]
    rfl

theorem endsNumber_newLine (n : Nat) (rest : List Char) : EndsNumber (newLine n ++ rest) :=
  endsNumber_space rfl _

/-- The items on lines of their own, and the bracket on another one. -/
theorem begins_prettyItems {n : Nat} {items : List Value} (hne : items ≠ [])
    (h : ∀ v ∈ items, IsTextOf d (v.prettyChars n) v) (m : Nat) (rest : List Char) :
    Begins d (.items items) (prettyItems n items ++ newLine m ++ ']' :: rest) rest := by
  induction items with
  | nil => exact absurd rfl hne
  | cons v items ih =>
    rw [List.forall_mem_cons] at h
    cases items with
    | nil =>
      rw [prettyItems, List.append_assoc, List.append_assoc]
      refine .spaces (fun _ => isSpace_of_mem_newLine) (.item (h.1 _ (endsNumber_newLine m _)) ?_)
      exact .spaces (fun _ => isSpace_of_mem_newLine) .lastItem
    | cons w items =>
      rw [prettyItems, List.append_assoc, List.append_assoc, List.append_assoc, List.cons_append]
      · refine .spaces (fun _ => isSpace_of_mem_newLine)
          (.item (h.1 _ (endsNumber_cons (by decide))) (.nextItem ?_))
        rw [← List.append_assoc]
        exact ih (List.cons_ne_nil _ _) h.2
      · nofun

theorem begins_prettyFields {n : Nat} {fields : List (String × Value)} (hne : fields ≠ [])
    (h : ∀ f ∈ fields, IsTextOf d (f.2.prettyChars n) f.2) (m : Nat) (rest : List Char) :
    Begins d (.fields fields) (prettyFields n fields ++ newLine m ++ '\x7d' :: rest) rest := by
  induction fields with
  | nil => exact absurd rfl hne
  | cons f fields ih =>
    obtain ⟨key, v⟩ := f
    rw [List.forall_mem_cons] at h
    cases fields with
    | nil =>
      rw [prettyFields]
      simp only [List.append_assoc, List.cons_append]
      refine .spaces (fun _ => isSpace_of_mem_newLine)
        (.field (.fieldValue (.space rfl (h.1 _ (endsNumber_newLine m _)))) ?_)
      exact .spaces (fun _ => isSpace_of_mem_newLine) .lastField
    | cons g fields =>
      rw [prettyFields]
      · simp only [List.append_assoc, List.cons_append]
        refine .spaces (fun _ => isSpace_of_mem_newLine)
          (.field (.fieldValue (.space rfl (h.1 _ (endsNumber_cons (by decide))))) (.nextField ?_))
        rw [← List.append_assoc]
        exact ih (List.cons_ne_nil _ _) h.2
      · nofun

theorem Writable.pretty {v : Value} (h : Writable d v) (n : Nat) :
    IsTextOf d (v.prettyChars n) v := by
  induction h generalizing n with
  | null => exact fun _ _ => .null
  | bool b => exact fun _ _ => .bool b
  | integer h => exact isTextOf_number h
  | string s => exact fun _ _ => .string s
  | @array d items _ ih =>
    intro rest _
    cases items with
    | nil => exact .array .noItems
    | cons v items =>
      rw [prettyChars, List.cons_append, List.append_assoc]
      · exact .array
          (begins_prettyItems (List.cons_ne_nil _ _) (fun v hv => ih v hv (n + 1)) n rest)
      · nofun
  | @object d fields hkeys _ ih =>
    intro rest _
    cases fields with
    | nil => exact .object hkeys .noFields
    | cons f fields =>
      rw [prettyChars, List.cons_append, List.append_assoc]
      · exact .object hkeys
          (begins_prettyFields (List.cons_ne_nil _ _) (fun f hf => ih f hf (n + 1)) n rest)
      · nofun

/-! ## Reading back -/

theorem read_of_isTextOf {v : Value} (h : IsTextOf depthLimit text v)
    (hrest : ∀ c ∈ rest, isSpace c = true) : read (String.ofList (text ++ rest)) = .ok v := by
  refine read_of_begins (h rest ?_) hrest
  cases rest with
  | nil => exact endsNumber_nil
  | cons c rest => exact endsNumber_space (hrest c List.mem_cons_self) rest

theorem read_compact {v : Value} (h : Writable depthLimit v) : read v.compact = .ok v := by
  have hread := read_of_isTextOf h.compact (List.forall_mem_nil _)
  rwa [List.append_nil] at hread

theorem read_pretty {v : Value} (h : Writable depthLimit v) : read v.pretty = .ok v := by
  have hread := read_of_isTextOf (h.pretty 0) (List.forall_mem_nil _)
  rwa [List.append_nil] at hread

/-- A line break at the end makes no difference. -/
theorem read_pretty_line {v : Value} (h : Writable depthLimit v) :
    read (v.pretty ++ "\n") = .ok v := by
  have hline : ∀ c ∈ ['\n'], isSpace c = true := List.forall_mem_singleton.mpr rfl
  have hread := read_of_isTextOf (h.pretty 0) hline
  rwa [String.ofList_append] at hread

end TemplateMatch.Json.Value
