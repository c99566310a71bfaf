import TemplateMatch.Pointer
import TemplateMatch.Proofs.Entries
import TemplateMatch.Proofs.Json.Parts

/-!
Nodes and the paths that lead to them. A path written as the text of a JSON pointer is read back by
splitting it at its slashes, and leads to the same node (`pointer?_text`).
-/

namespace TemplateMatch

namespace Pointer

variable {path p : Pointer} {s t : Step}

/-- Nothing is below two children at once. -/
theorem step_eq_of_prefix (hs : path.child s <+: p) (ht : path.child t <+: p) : s = t := by
  have hlen : (path.child s).length ≤ (path.child t).length := by simp [child]
  have hprefix := List.prefix_of_prefix_length_le hs ht hlen
  rw [child, child, List.prefix_append_right_inj] at hprefix
  simpa using hprefix

theorem ne_of_child_prefix (h : path.child s <+: p) : p ≠ path := by
  rintro rfl
  have hlen := h.length_le
  rw [child, List.length_append, List.length_singleton] at hlen
  omega

end Pointer

namespace Json.Value

/-- One step down in a tree. -/
def child? : Value → Step → Option Value
  | object fields, .field key => fields.lookup key
  | array items, .item index => items[index]?
  | _, _ => none

/-- The node that a path leads to. -/
def at? (v : Value) : Pointer → Option Value
  | [] => some v
  | step :: path => (v.child? step).bind fun w => w.at? path

variable {v w : Value} {path : Pointer}

theorem at?_item {items : List Value} {index : Nat} (h : items[index]? = some v) :
    (array items).at? (.item index :: path) = v.at? path := by
  rw [at?, child?, h, Option.bind_some]

theorem at?_field {fields : List (String × Value)} {key : String} (h : fields.lookup key = some v) :
    (object fields).at? (.field key :: path) = v.at? path := by
  rw [at?, child?, h, Option.bind_some]

theorem at?_child {step : Step} (h : v.at? path = some w) :
    v.at? (path.child step) = w.child? step := by
  induction path generalizing v with
  | nil =>
    cases h
    exact Option.bind_fun_some _
  | cons first path ih =>
    rw [at?, Option.bind_eq_some_iff] at h
    obtain ⟨u, hu, h⟩ := h
    rw [Pointer.child, List.cons_append, at?, hu, Option.bind_some]
    exact ih h

/-- The items of an array or the values of the fields of an object, with the steps to them. -/
def children : Value → List (Step × Value)
  | array items => items.zipIdx.map fun x => (.item x.2, x.1)
  | object fields => fields.map fun f => (.field f.1, f.2)
  | _ => []

theorem exists_of_field_mem_children {key : String} (h : (.field key, w) ∈ v.children) :
    ∃ fields, v = .object fields ∧ (key, w) ∈ fields := by
  cases v with
  | array items =>
    obtain ⟨_, _, heq⟩ := List.mem_map.mp h
    cases heq
  | object fields =>
    obtain ⟨f, hf, heq⟩ := List.mem_map.mp h
    cases heq
    exact ⟨fields, rfl, hf⟩
  | _ => cases h

theorem Part.child {x : Step × Value} (hx : x ∈ v.children) : Part x.2 v := by
  cases v with
  | array items =>
    obtain ⟨⟨w, index⟩, hmem, rfl⟩ := List.mem_map.mp hx
    exact .item (List.mem_of_getElem? (List.mem_zipIdx_iff_getElem?.mp hmem)) (.self w)
  | object fields =>
    obtain ⟨f, hf, rfl⟩ := List.mem_map.mp hx
    exact .field hf (.self f.2)
  | _ => cases hx

theorem Everywhere.child {P : Value → Prop} (h : Everywhere P v) {x : Step × Value}
    (hx : x ∈ v.children) : Everywhere P x.2 :=
  fun w hw => h w (hw.trans (.child hx))

/-- Induction over trees, from the children. -/
theorem induction_children {P : Value → Prop} (h : ∀ v, (∀ x ∈ v.children, P x.2) → P v)
    (v : Value) : P v := by
  induction v using induction with
  | leaf v hitems hfields =>
    refine h v fun x hx => ?_
    cases v with
    | array items => exact absurd rfl (hitems items)
    | object fields => exact absurd rfl (hfields fields)
    | _ => cases hx
  | array items ih =>
    refine h _ fun x hx => ?_
    obtain ⟨⟨v, index⟩, hmem, rfl⟩ := List.mem_map.mp hx
    exact ih v (List.mem_of_getElem? (List.mem_zipIdx_iff_getElem?.mp hmem))
  | object fields ih =>
    refine h _ fun x hx => ?_
    obtain ⟨f, hf, rfl⟩ := List.mem_map.mp hx
    exact ih f hf

/-- The steps to the children of a node are distinct. -/
theorem nodup_children (h : IsMap v) : (v.children.map Prod.fst).Nodup := by
  cases v with
  | array items =>
    have hsteps : (children (array items)).map Prod.fst =
        (items.zipIdx.map Prod.snd).map Step.item := by
      rw [children, List.map_map, List.map_map]
      rfl
    rw [hsteps, List.zipIdx_map_snd]
    exact List.Nodup.map (fun _ _ heq => Step.item.inj heq) List.nodup_range'
  | object fields =>
    have hsteps : (children (object fields)).map Prod.fst =
        (fields.map Prod.fst).map Step.field := by
      rw [children, List.map_map, List.map_map]
      rfl
    rw [hsteps]
    exact List.Nodup.map (fun _ _ heq => Step.field.inj heq) h
  | _ => exact .nil

theorem child?_of_mem (h : IsMap v) {x : Step × Value} (hx : x ∈ v.children) :
    v.child? x.1 = some x.2 := by
  cases v with
  | array items =>
    obtain ⟨⟨v, index⟩, hmem, rfl⟩ := List.mem_map.mp hx
    exact List.mem_zipIdx_iff_getElem?.mp hmem
  | object fields =>
    obtain ⟨f, hf, rfl⟩ := List.mem_map.mp hx
    exact lookup_of_mem h hf
  | _ => cases hx

/-- The path to a node, and a step to one of its children, lead to the child. -/
theorem at?_of_mem_children {root : Value} (hat : root.at? path = some v) (hmap : IsMap v)
    {x : Step × Value} (hx : x ∈ v.children) : root.at? (path.child x.1) = some x.2 := by
  rw [at?_child hat, child?_of_mem hmap hx]

end Json.Value

/-! ## Pointers as texts -/

namespace Step

/-- The text of a step before it is escaped. -/
def name : Step → String
  | field key => key
  | item index => toString index

end Step

namespace Pointer

/-- Puts one character in the place of a pair of them, from left to right. -/
def replacePair (first second new : Char) : List Char → List Char
  | c :: c' :: rest =>
    if c = first ∧ c' = second then new :: replacePair first second new rest
    else c :: replacePair first second new (c' :: rest)
  | text => text

/-- What a segment of a pointer stands for: `~1` is a slash, and after that `~0` is a tilde. -/
def decode (segment : List Char) : List Char :=
  replacePair '~' '0' '~' (replacePair '~' '1' '/' segment)

/-- The segments of a pointer's text, decoded. The text is empty or has a slash in front. -/
def segments? (text : String) : Option (List String) :=
  match text.toList.splitOn '/' with
  | [] :: segments => some (segments.map fun s => String.ofList (decode s))
  | _ => none

end Pointer

namespace Json.Value

/-- The child that a segment of a pointer names: a key, or an index in decimal digits without
leading zeros. -/
def segment? (v : Value) (segment : String) : Option Value :=
  match v with
  | object fields => fields.lookup segment
  | array items =>
    let index := Nat.ofDigitChars 10 segment.toList 0
    if toString index = segment then items[index]? else none
  | _ => none

/-- The node that the segments of a pointer lead to. -/
def follow? (v : Value) : List String → Option Value
  | [] => some v
  | segment :: segments => (v.segment? segment).bind fun w => w.follow? segments

/-- The node that the text of a pointer leads to. -/
def pointer? (v : Value) (text : String) : Option Value :=
  (Pointer.segments? text).bind v.follow?

end Json.Value

/-! ## Reading back what is written -/

namespace Pointer

theorem replacePair_of_not_mem {first second new : Char} {text : List Char} (h : first ∉ text) :
    replacePair first second new text = text := by
  fun_induction replacePair first second new text with
  | case1 c c' rest hpair => exact absurd (hpair.1 ▸ List.mem_cons_self) h
  | case2 c c' rest _ ih => rw [ih (List.not_mem_of_not_mem_cons h)]
  | case3 => rfl

theorem replacePair_cons_of_ne {first second new c : Char} (h : c ≠ first) (rest : List Char) :
    replacePair first second new (c :: rest) = c :: replacePair first second new rest := by
  cases rest with
  | nil => rfl
  | cons c' rest => rw [replacePair, if_neg fun hpair => h hpair.1]

/-- With slashes in place again, only tildes are left to decode. -/
theorem replacePair_escapeKey (key : List Char) :
    replacePair '~' '1' '/' (Step.escapeKey key) =
      key.flatMap fun c => if c = '~' then ['~', '0'] else [c] := by
  induction key with
  | nil => rfl
  | cons c key ih =>
    rw [Step.escapeKey, List.flatMap_cons, ← Step.escapeKey, List.flatMap_cons]
    split
    · -- The zero behind the tilde keeps it from pairing up with what follows.
      rw [List.cons_append, List.singleton_append, replacePair, if_neg (by decide),
        replacePair_cons_of_ne (by decide), ih]
      rfl
    · next htilde =>
      split
      · next hslash =>
        rw [hslash, List.cons_append, List.singleton_append, replacePair, if_pos ⟨rfl, rfl⟩, ih]
        rfl
      · rw [List.singleton_append, replacePair_cons_of_ne htilde, ih]
        rfl

theorem decode_escapeKey (key : List Char) : decode (Step.escapeKey key) = key := by
  rw [decode, replacePair_escapeKey]
  induction key with
  | nil => rfl
  | cons c key ih =>
    rw [List.flatMap_cons]
    split
    · next htilde =>
      rw [htilde, List.cons_append, List.singleton_append, replacePair, if_pos ⟨rfl, rfl⟩, ih]
    · next htilde => rw [List.singleton_append, replacePair_cons_of_ne htilde, ih]

theorem not_mem_toDigits {c : Char} (h : c.isDigit = false) (n : Nat) : c ∉ Nat.toDigits 10 n := by
  intro hc
  rw [Nat.isDigit_of_mem_toDigits (by decide) (by decide) hc] at h
  cases h

theorem slash_not_mem_chars (s : Step) : '/' ∉ s.chars := by
  cases s with
  | item index => exact not_mem_toDigits rfl index
  | field key =>
    rw [Step.chars, Step.escapeKey, List.mem_flatMap]
    rintro ⟨c, _, hc⟩
    split at hc
    · simp at hc
    · split at hc
      · simp at hc
      · next hslash => exact hslash (List.mem_singleton.mp hc).symm

theorem decode_chars (s : Step) : String.ofList (decode s.chars) = s.name := by
  cases s with
  | field key => rw [Step.chars, decode_escapeKey, String.ofList_toList, Step.name]
  | item index =>
    have htilde : '~' ∉ Nat.toDigits 10 index := not_mem_toDigits rfl index
    rw [Step.chars, decode, replacePair_of_not_mem htilde, replacePair_of_not_mem htilde, Step.name,
      Nat.toString_eq_ofList_toDigits]

theorem splitOn_chars (p : Pointer) {front : List Char} (hfront : '/' ∉ front) :
    (front ++ p.flatMap fun s => '/' :: s.chars).splitOn '/' = front :: p.map Step.chars := by
  induction p generalizing front with
  | nil => rw [List.flatMap_nil, List.append_nil, List.splitOn_eq_singleton hfront, List.map_nil]
  | cons s p ih =>
    rw [List.flatMap_cons, List.cons_append, List.splitOn_append_cons_self_of_not_mem hfront,
      ih (slash_not_mem_chars s), List.map_cons]

/-- The segments of a path's text name its steps. -/
theorem segments?_text (p : Pointer) : segments? p.text = some (p.map Step.name) := by
  have hsplit := @splitOn_chars p [] List.not_mem_nil
  rw [List.nil_append] at hsplit
  simp only [segments?, text, String.toList_ofList, hsplit, List.map_map, Option.some.injEq]
  exact List.map_congr_left fun s _ => decode_chars s

theorem segments?_child (p : Pointer) (s : Step) :
    segments? (p.child s).text = some (p.map Step.name ++ [s.name]) := by
  rw [segments?_text, child, List.map_append, List.map_singleton]

end Pointer

namespace Json.Value

variable {v w : Value}

theorem segment?_name {step : Step} (h : v.child? step = some w) :
    v.segment? step.name = some w := by
  cases v with
  | array items =>
    cases step with
    | field key => cases h
    | item index =>
      have hread : Nat.ofDigitChars 10 (toString index).toList 0 = index := by
        rw [Nat.toString_eq_ofList_toDigits, String.toList_ofList]
        exact Nat.ofDigitChars_ten_toDigits
      rw [segment?, Step.name, hread, if_pos rfl]
      exact h
  | object fields =>
    cases step with
    | field key => exact h
    | item index => cases h
  | _ => cases h

theorem follow?_map_name {path : Pointer} (h : v.at? path = some w) :
    v.follow? (path.map Step.name) = some w := by
  induction path generalizing v with
  | nil => exact h
  | cons step path ih =>
    rw [at?, Option.bind_eq_some_iff] at h
    obtain ⟨u, hu, h⟩ := h
    rw [List.map_cons, follow?, segment?_name hu, Option.bind_some]
    exact ih h

/-- The text of a path leads where the path does. -/
theorem pointer?_text {path : Pointer} (h : v.at? path = some w) :
    v.pointer? path.text = some w := by
  rw [pointer?, Pointer.segments?_text, Option.bind_some, follow?_map_name h]

end Json.Value

end TemplateMatch
