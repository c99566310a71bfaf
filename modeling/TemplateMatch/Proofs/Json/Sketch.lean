import TemplateMatch.Pointer
import TemplateMatch.Proofs.Json.Grammar

/-!
Texts of arrays, whole numbers, booleans and nulls in which numbers are left open. With any number
of 64 bits in the open places such a text is read as the tree it is drawn from (`Sketch.read_text`),
as long as it is not nested too deep for the reader (`Sketch.read_text_of_deep`).
-/

namespace TemplateMatch.Json

/-- White space between the parts of a text. -/
abbrev Blank := {text : List Char // ∀ c ∈ text, isSpace c = true}

def Blank.none : Blank := ⟨[], nofun⟩

mutual

/-- A value without the white space around it. -/
inductive Sketch
  | null
  | bool (b : Bool)
  | integer (n : Int) (h : IsWord n)
  /-- Zero with a sign. -/
  | negativeZero
  /-- A place for a whole number. -/
  | hole
  | empty (inner : Blank)
  | array (items : SketchItems)

/-- The items of an array, with the white space before and after each. -/
inductive SketchItems
  | last (before : Blank) (item : Sketch) (after : Blank)
  | next (before : Blank) (item : Sketch) (after : Blank) (more : SketchItems)

end

mutual

/-- The characters, with a number in the open places. -/
def Sketch.chars (k : Int) : Sketch → List Char
  | .null => "null".toList
  | .bool b => if b then "true".toList else "false".toList
  | .integer n _ => (toString n).toList
  | .negativeZero => ['-', '0']
  | .hole => (toString k).toList
  | .empty inner => '[' :: (inner.val ++ [']'])
  | .array items => '[' :: (items.chars k ++ [']'])

def SketchItems.chars (k : Int) : SketchItems → List Char
  | .last before item after => before.val ++ (item.chars k ++ after.val)
  | .next before item after more =>
    before.val ++ (item.chars k ++ (after.val ++ ',' :: more.chars k))

end

mutual

/-- The tree that is drawn. -/
def Sketch.value (k : Int) : Sketch → Value
  | .null => .null
  | .bool b => .bool b
  | .integer n _ => .number (.integer n)
  | .negativeZero => .number .negativeZero
  | .hole => .number (.integer k)
  | .empty _ => .array []
  | .array items => .array (items.values k)

def SketchItems.values (k : Int) : SketchItems → List Value
  | .last _ item _ => [item.value k]
  | .next _ item _ more => item.value k :: more.values k

end

mutual

/-- How deep arrays are nested. -/
def Sketch.depth : Sketch → Nat
  | .empty _ => 1
  | .array items => items.depth + 1
  | _ => 0

def SketchItems.depth : SketchItems → Nat
  | .last _ item _ => item.depth
  | .next _ item _ more => max item.depth more.depth

end

mutual

/-- The paths to the open places below a path, in their order. -/
def Sketch.holes (path : Pointer) : Sketch → List Pointer
  | .hole => [path]
  | .array items => items.holes path 0
  | _ => []

def SketchItems.holes (path : Pointer) (index : Nat) : SketchItems → List Pointer
  | .last _ item _ => item.holes (path.child (.item index))
  | .next _ item _ more =>
    item.holes (path.child (.item index)) ++ more.holes path (index + 1)

end

/-- A whole text. -/
def Sketch.text (before after : Blank) (s : Sketch) (k : Int) : String :=
  String.ofList (before.val ++ (s.chars k ++ after.val))

variable {k : Int} {d : Nat} {rest : List Char}

theorem SketchItems.exists_values (k : Int) (items : SketchItems) :
    ∃ v vs, items.values k = v :: vs := by
  cases items with
  | last _ item _ => exact ⟨item.value k, [], rfl⟩
  | next _ item _ more => exact ⟨item.value k, more.values k, rfl⟩

theorem endsNumber_blank (b : Blank) (h : EndsNumber rest) : EndsNumber (b.val ++ rest) := by
  obtain ⟨text, htext⟩ := b
  cases text with
  | nil => exact h
  | cons c text => exact endsNumber_space (htext c List.mem_cons_self) _

/-! ## Texts that are read -/

mutual

/-- A sketch that is not nested too deep is a text of its tree. -/
theorem Sketch.begins {k : Int} (hk : IsWord k) (s : Sketch) {d : Nat} {rest : List Char}
    (hd : s.depth ≤ d) (hrest : EndsNumber rest) :
    Begins d (.value (s.value k)) (s.chars k ++ rest) rest := by
  cases s with
  | null => exact .null
  | bool b => exact .bool b
  | integer n h => exact .number (.integer h) hrest
  | negativeZero => exact .number .negativeZero hrest
  | hole => exact .number (.integer hk) hrest
  | empty inner =>
    obtain ⟨d, rfl⟩ : ∃ n, d = n + 1 := ⟨d - 1, (Nat.sub_add_cancel hd).symm⟩
    rw [Sketch.chars, List.cons_append, List.append_assoc]
    exact .array (.spaces inner.property .noItems)
  | array items =>
    rw [Sketch.depth] at hd
    obtain ⟨d, rfl⟩ : ∃ n, d = n + 1 := ⟨d - 1, by omega⟩
    rw [Sketch.chars, List.cons_append, List.append_assoc]
    exact .array (SketchItems.begins hk items (Nat.le_of_succ_le_succ hd) rest)

theorem SketchItems.begins {k : Int} (hk : IsWord k) (items : SketchItems) {d : Nat}
    (hd : items.depth ≤ d) (rest : List Char) :
    Begins d (.items (items.values k)) (items.chars k ++ ']' :: rest) rest := by
  cases items with
  | last before item after =>
    simp only [SketchItems.chars, List.append_assoc]
    refine .spaces before.property (.item (Sketch.begins hk item hd ?_) ?_)
    · exact endsNumber_blank after (endsNumber_cons (by decide))
    · exact .spaces after.property .lastItem
  | next before item after more =>
    rw [SketchItems.depth, Nat.max_le] at hd
    simp only [SketchItems.chars, List.append_assoc, List.cons_append]
    refine .spaces before.property (.item (Sketch.begins hk item hd.1 ?_) ?_)
    · exact endsNumber_blank after (endsNumber_cons (by decide))
    · have hmore := SketchItems.begins hk more hd.2 rest
      obtain ⟨v, vs, hvs⟩ := more.exists_values k
      rw [hvs] at hmore ⊢
      exact .spaces after.property (.nextItem hmore)

end

theorem Sketch.read_text (s : Sketch) (before after : Blank) (hk : IsWord k)
    (hd : s.depth ≤ depthLimit) : Value.read (s.text before after k) = .ok (s.value k) := by
  have hafter : EndsNumber after.val := by
    have hend := endsNumber_blank after endsNumber_nil
    rwa [List.append_nil] at hend
  exact Value.read_of_begins (.spaces before.property (s.begins hk hd hafter)) after.property

/-! ## Texts that are refused -/

section

variable {fuel : Nat} {p q : Place} {text : List Char}

theorem skipSpace_blank (b : Blank) (p : Place) :
    ∃ q, ∀ text, skipSpace p (b.val ++ text) = skipSpace q text := by
  obtain ⟨front, hfront⟩ := b
  induction front generalizing p with
  | nil => exact ⟨p, fun _ => rfl⟩
  | cons c front ih =>
    rw [List.forall_mem_cons] at hfront
    obtain ⟨q, hskip⟩ := ih (p.after c) hfront.2
    exact ⟨q, fun text => (skipSpace_space hfront.1 p _).trans (hskip text)⟩

theorem readItems_blank (b : Blank) (fuel d : Nat) (first : Bool) (done : List Value) (p : Place)
    (text : List Char) :
    ∃ q, readItems (fuel + 1) d first done p (b.val ++ text) =
      readItems (fuel + 1) d first done q text := by
  obtain ⟨q, hskip⟩ := skipSpace_blank b p
  exact ⟨q, by rw [readItems, readItems, hskip]⟩

/-- An array whose first item is nested too deep is. -/
theorem readItems_of_deep (done : List Value)
    (h : readValue (fuel + 1) d p text = .error ⟨.nestedTooDeep, q⟩) :
    readItems (fuel + 2) d true done p text = .error ⟨.nestedTooDeep, q⟩ := by
  obtain ⟨_, _, _, hskip, hc⟩ := skipSpace_of_readValue h nofun nofun
  rw [readItems_first done hskip hc, nextItem, h]

end

mutual

/-- The reader gives up at the bracket that it may not open any more, whatever stands before it. -/
theorem Sketch.readValue_deep {k : Int} (hk : IsWord k) (s : Sketch) {d fuel : Nat}
    (hd : d < s.depth) (rest : List Char) (hfuel : 2 * (s.chars k ++ rest).length ≤ fuel)
    (p : Place) :
    ∃ q, readValue (fuel + 1) d p (s.chars k ++ rest) = .error ⟨.nestedTooDeep, q⟩ := by
  cases s with
  | empty inner =>
    obtain rfl : d = 0 := Nat.lt_one_iff.mp hd
    exact ⟨_, rfl⟩
  | array items =>
    cases d with
    | zero => exact ⟨_, rfl⟩
    | succ d =>
      rw [Sketch.chars, List.cons_append, List.append_assoc, List.singleton_append] at hfuel ⊢
      rw [List.length_cons] at hfuel
      obtain ⟨fuel, rfl⟩ : ∃ n, fuel = n + 2 := ⟨fuel - 2, by omega⟩
      have hfuel : 2 * (items.chars k ++ ']' :: rest).length ≤ fuel := by omega
      obtain ⟨q, hread⟩ := SketchItems.readItems_deep hk items (Nat.lt_of_succ_lt_succ hd) rest
        hfuel [] (p.after '[')
      refine ⟨q, ?_⟩
      rw [readValue_bracket, hread]
      rfl
  | _ => exact absurd hd (Nat.not_lt_zero d)

theorem SketchItems.readItems_deep {k : Int} (hk : IsWord k) (items : SketchItems) {d fuel : Nat}
    (hd : d < items.depth) (rest : List Char)
    (hfuel : 2 * (items.chars k ++ ']' :: rest).length ≤ fuel) (done : List Value) (p : Place) :
    ∃ q, readItems (fuel + 2) d true done p (items.chars k ++ ']' :: rest) =
      .error ⟨.nestedTooDeep, q⟩ := by
  cases items with
  | last before item after =>
    simp only [SketchItems.chars, List.append_assoc] at hfuel ⊢
    rw [List.length_append] at hfuel
    obtain ⟨p, hblank⟩ := readItems_blank before (fuel + 1) d true done p _
    have hfuel : 2 * (item.chars k ++ (after.val ++ ']' :: rest)).length ≤ fuel := by omega
    obtain ⟨q, hitem⟩ := Sketch.readValue_deep hk item hd _ hfuel p
    exact ⟨q, hblank.trans (readItems_of_deep done hitem)⟩
  | next before item after more =>
    simp only [SketchItems.chars, List.append_assoc, List.cons_append] at hfuel ⊢
    rw [List.length_append] at hfuel
    obtain ⟨p, hblank⟩ := readItems_blank before (fuel + 1) d true done p _
    rw [hblank]
    have hfuel : 2 * (item.chars k ++
        (after.val ++ ',' :: (more.chars k ++ ']' :: rest))).length ≤ fuel := by omega
    by_cases hitem : d < item.depth
    · obtain ⟨q, hitem⟩ := Sketch.readValue_deep hk item hitem _ hfuel p
      exact ⟨q, readItems_of_deep done hitem⟩
    · -- The item is read, and one behind it is nested too deep.
      have hmore : d < more.depth := by
        rw [SketchItems.depth] at hd
        omega
      have hcomma : EndsNumber (',' :: (more.chars k ++ ']' :: rest)) :=
        endsNumber_cons (by decide)
      have hbegins := Sketch.begins hk item (Nat.le_of_not_lt hitem)
        (endsNumber_blank after hcomma)
      obtain ⟨q, hread⟩ := hbegins.isRead fuel p hfuel
      obtain ⟨_, _, _, hskip, hc⟩ := skipSpace_of_readValue hread nofun nofun
      rw [readItems_first done hskip hc, nextItem, hread]
      simp only [List.length_append, List.length_cons] at hfuel
      obtain ⟨fuel, rfl⟩ : ∃ n, fuel = n + 1 := ⟨fuel - 1, by omega⟩
      have hfuel : 2 * (more.chars k ++ ']' :: rest).length ≤ fuel := by
        rw [List.length_append, List.length_cons]
        omega
      obtain ⟨p, hblank⟩ := readItems_blank after (fuel + 1) d false (item.value k :: done) q _
      obtain ⟨q, hdeep⟩ := SketchItems.readItems_deep hk more hmore rest hfuel
        (item.value k :: done) (p.after ',')
      obtain ⟨_, _, _, hskip, hc⟩ := skipSpace_of_readItems hdeep nofun nofun
      exact ⟨q, hblank.trans ((readItems_comma _ hskip hc).trans hdeep)⟩

end

theorem Sketch.read_text_of_deep (s : Sketch) (before after : Blank) (hk : IsWord k)
    (hd : depthLimit < s.depth) :
    ∃ place, Value.read (s.text before after k) = .error ⟨.nestedTooDeep, place⟩ := by
  obtain ⟨p, hblank⟩ := skipSpace_blank before {}
  have hfuel : 2 * (s.chars k ++ after.val).length ≤
      2 * (before.val ++ (s.chars k ++ after.val)).length + 1 := by
    simp only [List.length_append]
    omega
  obtain ⟨place, hread⟩ := Sketch.readValue_deep hk s hd _ hfuel p
  refine ⟨place, ?_⟩
  rw [Value.read, Sketch.text, String.length_ofList, String.toList_ofList, readValue, hblank,
    ← readValue, hread]

end TemplateMatch.Json
