import TemplateMatch.Proofs.Json.Numbers
import TemplateMatch.Proofs.Json.Parts
import TemplateMatch.Proofs.Json.Strings

/-!
A grammar of JSON texts with whole numbers, laid out in any way, and that the reader takes whatever
it derives (`Begins.read`). Like the reader it counts how many more arrays and objects may be
opened.
-/

namespace TemplateMatch.Json

/-- What a text can begin with. -/
inductive Portion
  | value (v : Value)
  /-- The items of an array up to its bracket. -/
  | items (vs : List Value)
  /-- What follows an item up to the bracket. -/
  | moreItems (vs : List Value)
  /-- The fields of an object up to its brace. -/
  | fields (fs : List (String × Value))
  /-- What follows a field up to the brace. -/
  | moreFields (fs : List (String × Value))
  /-- The value of a field, behind a colon. -/
  | fieldValue (v : Value)

/-- The text begins with such a portion and goes on with `rest`, and so many arrays and objects may
be nested in it. -/
inductive Begins : Nat → Portion → List Char → List Char → Prop
  | space {d : Nat} {x : Portion} {c : Char} {text rest : List Char} :
    isSpace c = true → Begins d x text rest → Begins d x (c :: text) rest
  | null {d : Nat} {rest : List Char} : Begins d (.value .null) ("null".toList ++ rest) rest
  | bool {d : Nat} (b : Bool) {rest : List Char} :
    Begins d (.value (.bool b)) ((if b then "true".toList else "false".toList) ++ rest) rest
  | number {d : Nat} {n : Number} {text rest : List Char} :
    NumberText n text → EndsNumber rest → Begins d (.value (.number n)) (text ++ rest) rest
  | string {d : Nat} (s : String) {rest : List Char} :
    Begins d (.value (.string s)) (quoted s ++ rest) rest
  | array {d : Nat} {vs : List Value} {text rest : List Char} :
    Begins d (.items vs) text rest → Begins (d + 1) (.value (.array vs)) ('[' :: text) rest
  | noItems {d : Nat} {rest : List Char} : Begins d (.items []) (']' :: rest) rest
  | item {d : Nat} {v : Value} {vs : List Value} {text mid rest : List Char} :
    Begins d (.value v) text mid → Begins d (.moreItems vs) mid rest →
    Begins d (.items (v :: vs)) text rest
  | lastItem {d : Nat} {rest : List Char} : Begins d (.moreItems []) (']' :: rest) rest
  | nextItem {d : Nat} {v : Value} {vs : List Value} {text rest : List Char} :
    Begins d (.items (v :: vs)) text rest → Begins d (.moreItems (v :: vs)) (',' :: text) rest
  | object {d : Nat} {fs : List (String × Value)} {text rest : List Char} :
    (fs.map Prod.fst).Nodup → Begins d (.fields fs) text rest →
    Begins (d + 1) (.value (.object fs)) ('\x7b' :: text) rest
  | noFields {d : Nat} {rest : List Char} : Begins d (.fields []) ('\x7d' :: rest) rest
  | field {d : Nat} {k : String} {v : Value} {fs : List (String × Value)}
    {text mid rest : List Char} :
    Begins d (.fieldValue v) text mid → Begins d (.moreFields fs) mid rest →
    Begins d (.fields ((k, v) :: fs)) (quoted k ++ text) rest
  | lastField {d : Nat} {rest : List Char} : Begins d (.moreFields []) ('\x7d' :: rest) rest
  | nextField {d : Nat} {f : String × Value} {fs : List (String × Value)}
    {text rest : List Char} :
    Begins d (.fields (f :: fs)) text rest → Begins d (.moreFields (f :: fs)) (',' :: text) rest
  | fieldValue {d : Nat} {v : Value} {text rest : List Char} :
    Begins d (.value v) text rest → Begins d (.fieldValue v) (':' :: text) rest

variable {d : Nat} {x : Portion} {text rest : List Char}

theorem Begins.length_lt (h : Begins d x text rest) : rest.length < text.length := by
  -- A word, a number or a quoted string is not empty.
  have hfront {front rest : List Char} (hfront : front ≠ []) :
      rest.length < (front ++ rest).length := by
    rw [List.length_append]
    exact Nat.lt_add_of_pos_left (List.length_pos_iff.mpr hfront)
  induction h with
  | null => exact hfront (by decide)
  | bool b => exact hfront (by cases b <;> decide)
  | number h => exact hfront h.ne_nil
  | string => exact hfront (List.cons_ne_nil _ _)
  | noItems | lastItem | noFields | lastField => exact Nat.lt_succ_self _
  | item _ _ ihvalue ihmore => exact Nat.lt_trans ihmore ihvalue
  | field _ _ ihvalue ihmore =>
    rw [List.length_append]
    omega
  | space _ _ ih | array _ ih | object _ _ ih | nextItem _ ih | nextField _ ih | fieldValue _ ih =>
    exact Nat.lt_succ_of_lt ih

theorem Begins.spaces {front : List Char} (hfront : ∀ c ∈ front, isSpace c = true)
    (h : Begins d x text rest) : Begins d x (front ++ text) rest := by
  induction front with
  | nil => exact h
  | cons c front ih =>
    rw [List.forall_mem_cons] at hfront
    exact .space hfront.1 (ih hfront.2)

/-! ## What the readers do with the first character -/

section

variable {fuel : Nat} {p q : Place} {c : Char} {more : List Char}

theorem skipSpace_space (hc : isSpace c = true) (p : Place) (text : List Char) :
    skipSpace p (c :: text) = skipSpace (p.after c) text := by
  rw [skipSpace, if_pos hc]

theorem readValue_space (hc : isSpace c = true) (fuel d : Nat) (p : Place) (text : List Char) :
    readValue (fuel + 1) d p (c :: text) = readValue (fuel + 1) d (p.after c) text := by
  rw [readValue, readValue, skipSpace_space hc]

theorem readItems_space (hc : isSpace c = true) (fuel d : Nat) (first : Bool) (done : List Value)
    (p : Place) (text : List Char) :
    readItems (fuel + 1) d first done p (c :: text) =
      readItems (fuel + 1) d first done (p.after c) text := by
  rw [readItems, readItems, skipSpace_space hc]

theorem readFields_space (hc : isSpace c = true) (fuel d : Nat) (first : Bool)
    (done : List (String × Value)) (p : Place) (text : List Char) :
    readFields (fuel + 1) d first done p (c :: text) =
      readFields (fuel + 1) d first done (p.after c) text := by
  rw [readFields, readFields, skipSpace_space hc]

theorem isSpace_of_skipSpace (h : skipSpace p text = (q, c :: more)) : isSpace c = false := by
  fun_induction skipSpace p text with
  | case1 => cases h
  | case2 p c' text hc ih => exact ih h
  | case3 p c' text hc =>
    cases h
    exact Bool.eq_false_iff.mpr hc

/-- A value is read behind the white space in front of it. -/
theorem readValue_skipSpace (h : skipSpace p text = (q, c :: more)) (fuel d : Nat) :
    readValue (fuel + 1) d q (c :: more) = readValue (fuel + 1) d p text := by
  have hmore : skipSpace q (c :: more) = (q, c :: more) := by
    rw [skipSpace, isSpace_of_skipSpace h]
    rfl
  rw [readValue, readValue, h, hmore]

/-- A value begins with some character, and not with a bracket that closes. -/
theorem skipSpace_of_readValue {r : ReadResult Value} (h : readValue (fuel + 1) d p text = r)
    (hend : ∀ q, r ≠ .error ⟨.endInValue, q⟩) (hvalue : ∀ q, r ≠ .error ⟨.expectedValue, q⟩) :
    ∃ q c more, skipSpace p text = (q, c :: more) ∧ c ≠ ']' := by
  rw [readValue] at h
  split at h
  · exact absurd h.symm (hend _)
  · next q c more heq =>
    refine ⟨q, c, more, heq, ?_⟩
    rintro rfl
    exact hvalue _ h.symm

theorem readValue_bracket (fuel d : Nat) (p : Place) (text : List Char) :
    readValue (fuel + 1) (d + 1) p ('[' :: text) =
      (readItems fuel d true [] (p.after '[') text).map fun r => (.array r.1, r.2) := rfl

theorem readValue_brace (fuel d : Nat) (p : Place) (text : List Char) :
    readValue (fuel + 1) (d + 1) p ('\x7b' :: text) =
      (readFields fuel d true [] (p.after '\x7b') text).map fun r => (.object r.1, r.2) := rfl

theorem readItems_bracket (fuel d : Nat) (first : Bool) (done : List Value) (p : Place)
    (text : List Char) :
    readItems (fuel + 1) d first done p (']' :: text) =
      .ok (done.reverse, p.after ']', text) := rfl

/-- An array begins with its first item. -/
theorem readItems_first (done : List Value) (h : skipSpace p text = (q, c :: more)) (hc : c ≠ ']') :
    readItems (fuel + 2) d true done p text = nextItem (fuel + 1) d done p text := by
  rw [readItems, h, nextItem, ← readValue_skipSpace h]
  exact (if_neg hc).trans (if_pos rfl)

/-- Behind a comma an array goes on as it begins. -/
theorem readItems_comma (done : List Value) (h : skipSpace (p.after ',') text = (q, c :: more))
    (hc : c ≠ ']') :
    readItems (fuel + 1) d false done p (',' :: text) =
      readItems (fuel + 1) d true done (p.after ',') text := by
  have hcomma : skipSpace p (',' :: text) = (p, ',' :: text) := rfl
  rw [readItems, readItems, hcomma]
  simp [h, hc]

/-- An array that has another item does not begin with the bracket. -/
theorem skipSpace_of_readItems {done : List Value} {r : ReadResult (List Value)}
    (h : readItems (fuel + 1) d true done p text = r) (hend : ∀ q, r ≠ .error ⟨.endInList, q⟩)
    (hnone : ∀ x, r ≠ .ok (done.reverse, x)) :
    ∃ q c more, skipSpace p text = (q, c :: more) ∧ c ≠ ']' := by
  rw [readItems] at h
  split at h
  · exact absurd h.symm (hend _)
  · next q c more heq =>
    refine ⟨q, c, more, heq, ?_⟩
    rintro rfl
    exact hnone _ h.symm

theorem readFields_brace (fuel d : Nat) (first : Bool) (done : List (String × Value)) (p : Place)
    (text : List Char) :
    readFields (fuel + 1) d first done p ('\x7d' :: text) = .ok (done, p.after '\x7d', text) := rfl

/-- The first field of an object. -/
theorem readFields_field {key : String} {v : Value} {q' q'' : Place} {rest after : List Char}
    (done : List (String × Value))
    (hkey : readString fuel (p.after '"') text = .ok (key, q, rest))
    (hcolon : skipSpace q rest = (q', ':' :: more))
    (hvalue : readValue fuel d (q'.after ':') more = .ok (v, q'', after)) :
    readFields (fuel + 1) d true done p ('"' :: text) =
      readFields fuel d false (assign key v done) q'' after := by
  have hquote : skipSpace p ('"' :: text) = (p, '"' :: text) := rfl
  rw [readFields, hquote]
  simp [hkey, hcolon, hvalue]

/-- Behind a comma an object goes on as it begins, if there is a field. -/
theorem readFields_comma {done fs : List (String × Value)} {f : String × Value}
    {r : Place × List Char}
    (h : readFields (fuel + 1) d true done (p.after ',') text = .ok (done ++ f :: fs, r)) :
    readFields (fuel + 1) d false done p (',' :: text) = .ok (done ++ f :: fs, r) := by
  have hcomma : skipSpace p (',' :: text) = (p, ',' :: text) := rfl
  rw [readFields] at h ⊢
  rw [hcomma]
  split at h
  · cases h
  · next q c more heq =>
    split at h
    · simp at h
    · next hc =>
      rw [if_pos rfl] at h
      split at h
      · next hquote => simpa [heq, hc, hquote] using h
      · cases h

end

/-! ## Reading -/

/-- What the reader makes of such a text, with fuel for its length. What has been read before stands
in front of the items or the fields. -/
def IsRead (d : Nat) (text rest : List Char) : Portion → Prop
  | .value v => ∀ fuel p, 2 * text.length ≤ fuel →
    ∃ q, readValue (fuel + 1) d p text = .ok (v, q, rest)
  | .items vs => ∀ fuel done p, 2 * text.length < fuel →
    ∃ q, readItems (fuel + 1) d true done p text = .ok (done.reverse ++ vs, q, rest)
  | .moreItems vs => ∀ fuel done p, 2 * text.length < fuel →
    ∃ q, readItems (fuel + 1) d false done p text = .ok (done.reverse ++ vs, q, rest)
  | .fields fs => ∀ fuel done p, 2 * text.length < fuel → ((done ++ fs).map Prod.fst).Nodup →
    ∃ q, readFields (fuel + 1) d true done p text = .ok (done ++ fs, q, rest)
  | .moreFields fs => ∀ fuel done p, 2 * text.length < fuel → ((done ++ fs).map Prod.fst).Nodup →
    ∃ q, readFields (fuel + 1) d false done p text = .ok (done ++ fs, q, rest)
  | .fieldValue v => ∀ fuel p, 2 * text.length ≤ fuel →
    ∃ q more q', skipSpace p text = (q, ':' :: more) ∧
      readValue (fuel + 1) d (q.after ':') more = .ok (v, q', rest)

theorem IsRead.space {c : Char} (hc : isSpace c = true) (h : IsRead d text rest x) :
    IsRead d (c :: text) rest x := by
  have hlength : text.length < (c :: text).length := Nat.lt_succ_self _
  cases x with
  | value v =>
    intro fuel p hfuel
    rw [readValue_space hc]
    exact h fuel (p.after c) (by omega)
  | items vs =>
    intro fuel done p hfuel
    rw [readItems_space hc]
    exact h fuel done (p.after c) (by omega)
  | moreItems vs =>
    intro fuel done p hfuel
    rw [readItems_space hc]
    exact h fuel done (p.after c) (by omega)
  | fields fs =>
    intro fuel done p hfuel hkeys
    rw [readFields_space hc]
    exact h fuel done (p.after c) (by omega) hkeys
  | moreFields fs =>
    intro fuel done p hfuel hkeys
    rw [readFields_space hc]
    exact h fuel done (p.after c) (by omega) hkeys
  | fieldValue v =>
    intro fuel p hfuel
    rw [skipSpace_space hc]
    exact h fuel (p.after c) (by omega)

theorem IsRead.string (s : String) : IsRead d (quoted s ++ rest) rest (.value (.string s)) := by
  intro fuel p hfuel
  rw [List.length_append] at hfuel
  have hstring : (quoted s).length ≤ fuel + 1 := by omega
  obtain ⟨more, q, hquoted, hread⟩ := readString_quoted s hstring (p.after '"') _
  refine ⟨q, ?_⟩
  rw [hquoted]
  exact congrArg (Except.map _) hread

theorem IsRead.array {vs : List Value} (h : IsRead d text rest (.items vs)) :
    IsRead (d + 1) ('[' :: text) rest (.value (.array vs)) := by
  intro fuel p hfuel
  rw [List.length_cons] at hfuel
  obtain ⟨fuel, rfl⟩ : ∃ n, fuel = n + 1 := ⟨fuel - 1, by omega⟩
  obtain ⟨q, hread⟩ := h fuel [] (p.after '[') (by omega)
  refine ⟨q, ?_⟩
  rw [readValue_bracket, hread]
  rfl

theorem IsRead.item {v : Value} {vs : List Value} {mid : List Char}
    (hlength : mid.length < text.length) (hv : IsRead d text mid (.value v))
    (hvs : IsRead d mid rest (.moreItems vs)) : IsRead d text rest (.items (v :: vs)) := by
  intro fuel done p hfuel
  obtain ⟨fuel, rfl⟩ : ∃ n, fuel = n + 1 := ⟨fuel - 1, by omega⟩
  obtain ⟨q, hread⟩ := hv fuel p (by omega)
  obtain ⟨q', hmore⟩ := hvs fuel (v :: done) q (by omega)
  obtain ⟨_, _, _, hskip, hc⟩ := skipSpace_of_readValue hread nofun nofun
  refine ⟨q', ?_⟩
  rw [readItems_first done hskip hc, nextItem, hread]
  simp only [hmore, List.reverse_cons, List.append_assoc, List.singleton_append]

/-- Behind a comma there has to be an item. -/
theorem IsRead.nextItem {v : Value} {vs : List Value} (h : IsRead d text rest (.items (v :: vs))) :
    IsRead d (',' :: text) rest (.moreItems (v :: vs)) := by
  intro fuel done p hfuel
  rw [List.length_cons] at hfuel
  obtain ⟨q, hread⟩ := h fuel done (p.after ',') (by omega)
  obtain ⟨_, _, _, hskip, hc⟩ := skipSpace_of_readItems hread nofun (by simp)
  exact ⟨q, (readItems_comma done hskip hc).trans hread⟩

theorem IsRead.object {fs : List (String × Value)} (hkeys : (fs.map Prod.fst).Nodup)
    (h : IsRead d text rest (.fields fs)) :
    IsRead (d + 1) ('\x7b' :: text) rest (.value (.object fs)) := by
  intro fuel p hfuel
  rw [List.length_cons] at hfuel
  obtain ⟨fuel, rfl⟩ : ∃ n, fuel = n + 1 := ⟨fuel - 1, by omega⟩
  obtain ⟨q, hread⟩ := h fuel [] (p.after '\x7b') (by omega) hkeys
  refine ⟨q, ?_⟩
  rw [readValue_brace, hread]
  rfl

theorem IsRead.field {k : String} {v : Value} {fs : List (String × Value)} {mid : List Char}
    (hlength : mid.length < text.length) (hv : IsRead d text mid (.fieldValue v))
    (hfs : IsRead d mid rest (.moreFields fs)) :
    IsRead d (quoted k ++ text) rest (.fields ((k, v) :: fs)) := by
  intro fuel done p hfuel hkeys
  rw [List.length_append] at hfuel
  obtain ⟨fuel, rfl⟩ : ∃ n, fuel = n + 1 := ⟨fuel - 1, by omega⟩
  have hkeyfuel : (quoted k).length ≤ fuel + 1 + 1 := by omega
  obtain ⟨more, q, hquoted, hkey⟩ := readString_quoted k hkeyfuel (p.after '"') text
  obtain ⟨q', more', q'', hcolon, hvalue⟩ := hv fuel q (by omega)
  have hnew : k ∉ done.map Prod.fst := fun hk => by
    rw [List.map_append] at hkeys
    exact (List.nodup_append.mp hkeys).2.2 k hk k List.mem_cons_self rfl
  obtain ⟨r, hmore⟩ := hfs fuel (done ++ [(k, v)]) q'' (by omega) (by simpa using hkeys)
  refine ⟨r, ?_⟩
  rw [hquoted, readFields_field done hkey hcolon hvalue, assign_of_not_mem hnew, hmore,
    List.append_assoc, List.singleton_append]

theorem IsRead.nextField {f : String × Value} {fs : List (String × Value)}
    (h : IsRead d text rest (.fields (f :: fs))) :
    IsRead d (',' :: text) rest (.moreFields (f :: fs)) := by
  intro fuel done p hfuel hkeys
  rw [List.length_cons] at hfuel
  obtain ⟨q, hread⟩ := h fuel done (p.after ',') (by omega) hkeys
  exact ⟨q, readFields_comma hread⟩

theorem IsRead.fieldValue {v : Value} (h : IsRead d text rest (.value v)) :
    IsRead d (':' :: text) rest (.fieldValue v) := by
  intro fuel p hfuel
  rw [List.length_cons] at hfuel
  obtain ⟨q, hread⟩ := h fuel (p.after ':') (by omega)
  exact ⟨p, _, q, rfl, hread⟩

/-- Whatever the grammar derives the reader takes, and it stops at the same place. -/
theorem Begins.isRead (h : Begins d x text rest) : IsRead d text rest x := by
  induction h with
  | space hc _ ih => exact ih.space hc
  | null =>
    intro fuel p _
    exact ⟨_, rfl⟩
  | bool b =>
    intro fuel p _
    cases b <;> exact ⟨_, rfl⟩
  | number h hrest =>
    intro fuel p _
    exact h.read hrest fuel _ p
  | string s => exact .string s
  | array _ ih => exact ih.array
  | noItems =>
    intro fuel done p _
    refine ⟨p.after ']', ?_⟩
    rw [readItems_bracket, List.append_nil]
  | item h _ ihv ihvs => exact ihv.item h.length_lt ihvs
  | lastItem =>
    intro fuel done p _
    refine ⟨p.after ']', ?_⟩
    rw [readItems_bracket, List.append_nil]
  | nextItem _ ih => exact ih.nextItem
  | object hkeys _ ih => exact ih.object hkeys
  | noFields =>
    intro fuel done p _ _
    refine ⟨p.after '\x7d', ?_⟩
    rw [readFields_brace, List.append_nil]
  | field h _ ihv ihfs => exact ihv.field h.length_lt ihfs
  | lastField =>
    intro fuel done p _ _
    refine ⟨p.after '\x7d', ?_⟩
    rw [readFields_brace, List.append_nil]
  | nextField _ ih => exact ih.nextField
  | fieldValue _ ih => exact ih.fieldValue

theorem skipSpace_layout {text : List Char} (h : ∀ c ∈ text, isSpace c = true) (p : Place) :
    ∃ q, skipSpace p text = (q, []) := by
  induction text generalizing p with
  | nil => exact ⟨p, rfl⟩
  | cons c text ih =>
    rw [List.forall_mem_cons] at h
    rw [skipSpace_space h.1]
    exact ih h.2 (p.after c)

/-- A text of a value, with white space behind it, is read as the value. -/
theorem Value.read_of_begins {v : Value} (h : Begins depthLimit (.value v) text rest)
    (hrest : ∀ c ∈ rest, isSpace c = true) : read (String.ofList text) = .ok v := by
  have hfuel : 2 * text.length ≤ 2 * text.length + 1 := Nat.le_succ _
  obtain ⟨q, hread⟩ := h.isRead _ {} hfuel
  obtain ⟨q', hskip⟩ := skipSpace_layout hrest q
  rw [read, String.length_ofList, String.toList_ofList, hread]
  simp only [hskip]

end TemplateMatch.Json
