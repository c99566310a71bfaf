import TemplateMatch.Proofs.Regex.Closing

/-!
Reading back from a closed text: the base. A reader leaves an end of its text. If it leaves all of
the closing, it has read the text in front alone, and reads the same without the closing; such a
reader `Returns`. This is the other half of `Steady`, where the text alone is read first.
-/

namespace TemplateMatch.Regex

/-! ## Ends of a closed text -/

variable {a b rest text : List Char} {c : Char}

/-- What ends with the closing, in front of something, ends with it. -/
theorem exists_append_closing (h : rest ++ closing <:+ b) : ∃ a, b = a ++ closing := by
  obtain ⟨front, rfl⟩ := h
  exact ⟨front ++ rest, (List.append_assoc _ _ _).symm⟩

/-- The closing is not left when its first character has been read. -/
theorem not_suffix_behind_closing : ¬rest ++ closing <:+ ['\\', 'z'] := by
  intro h
  have hlen := h.length_le
  simp only [closing, List.length_append, List.length_cons, List.length_nil] at hlen
  omega

/-- A character in front of what ends with the closing is one of the text. -/
theorem exists_cons_of_closed (h : a ++ closing = c :: text) (hrest : rest ++ closing <:+ text) :
    ∃ a', a = c :: a' ∧ text = a' ++ closing := by
  cases a with
  | nil =>
    cases h
    exact absurd hrest not_suffix_behind_closing
  | cons d a =>
    cases h
    exact ⟨a, rfl, rfl⟩

theorem append_closing_ne_nil (a : List Char) : a ++ closing ≠ [] := by
  simp [closing]

theorem append_closing_inj : a ++ closing = b ++ closing ↔ a = b := List.append_left_inj closing

theorem head?_append_closing (h : a.head? = some c) : (a ++ closing).head? = some c := by
  obtain ⟨a, rfl⟩ := List.head?_eq_some_iff.mp h
  rfl

/-- What has been closed by all of the closing. -/
theorem eq_of_closed (h : Closed .closing a (rest ++ closing)) : a = rest := by
  rcases h with happend | ⟨_, _, hnil⟩
  · exact (append_closing_inj.mp happend).symm
  · exact absurd hnil (append_closing_ne_nil rest)

/-! ## Layout -/

/-- Layout in front of the closing is that of the text alone, unless it takes the closing in. -/
theorem layout_back {spaced : Bool} (h : layout spaced (a ++ closing) = rest ++ closing) :
    layout spaced a = rest := by
  have hclosed : Closed .closing (layout spaced a) (layout spaced (a ++ closing)) :=
    closed_layout (fun _ => rfl) (.append .closing a)
  rw [h] at hclosed
  exact eq_of_closed hclosed

/-- In the closing alone there is nothing to gather. -/
theorem gather_closing_back {spaced : Bool} {p : Char → Bool} {fuel : Nat} {found : List Char}
    (h : gather spaced p (fuel + 1) closing = (found, rest ++ closing)) :
    found = [] ∧ rest = [] := by
  change gather spaced p (fuel + 1) (')' :: ['\\', 'z']) = _ at h
  rw [gather] at h
  split at h
  · -- What is behind the parenthesis is too short.
    obtain ⟨-, hmore⟩ := Prod.mk.inj h
    have hleft : rest ++ closing <:+ ['\\', 'z'] := by
      rw [← hmore]
      exact (gather_suffix _ _ _ _).trans (layout_suffix _ _)
    exact absurd hleft not_suffix_behind_closing
  · obtain ⟨hfound, hrest⟩ := Prod.mk.inj h
    exact ⟨hfound.symm, (append_closing_inj (a := []).mp hrest).symm⟩

theorem gather_back {spaced : Bool} {p : Char → Bool} {fuel fuel' : Nat} {found : List Char}
    (h : gather spaced p fuel (a ++ closing) = (found, rest ++ closing))
    (hfuel : (a ++ closing).length ≤ fuel) (hfuel' : a.length ≤ fuel') :
    gather spaced p fuel' a = (found, rest) := by
  induction fuel generalizing fuel' a found with
  | zero =>
    have hnil : a ++ closing = [] := List.eq_nil_of_length_eq_zero (Nat.le_zero.mp hfuel)
    exact absurd hnil (append_closing_ne_nil a)
  | succ fuel ih =>
    cases a with
    | nil =>
      obtain ⟨rfl, rfl⟩ := gather_closing_back h
      cases fuel' <;> rfl
    | cons c a =>
      obtain ⟨fuel', rfl⟩ := Nat.exists_eq_succ_of_ne_zero (Nat.ne_zero_of_lt hfuel')
      rw [List.cons_append, gather] at h
      rw [gather]
      split at h
      · next hc =>
        obtain ⟨rfl, hmore⟩ := Prod.mk.inj h
        rw [if_pos hc]
        have hleft : rest ++ closing <:+ layout spaced (a ++ closing) := by
          rw [← hmore]
          exact gather_suffix _ _ _ _
        obtain ⟨a', ha'⟩ := exists_append_closing hleft
        have hlen := length_layout_le spaced (a ++ closing)
        have hlen' := length_layout_le spaced a
        simp only [List.cons_append, List.length_cons] at hfuel hfuel'
        rw [ha'] at hmore hlen ⊢
        rw [layout_back ha'] at hlen' ⊢
        rw [ih (Prod.ext rfl hmore) (by omega) (show a'.length ≤ fuel' by omega)]
      · next hc =>
        obtain ⟨rfl, hrest⟩ := Prod.mk.inj h
        obtain rfl : c :: a = rest := append_closing_inj.mp hrest
        rw [if_neg hc]

theorem gatherAll_back {spaced : Bool} {p : Char → Bool} {found : List Char}
    (h : gatherAll spaced p (a ++ closing) = (found, rest ++ closing)) :
    gatherAll spaced p a = (found, rest) :=
  gather_back h (Nat.le_refl _) (Nat.le_refl _)

/-- Where a character ends what is gathered and all of the closing is left behind it, all of this is
in front of the closing. -/
theorem gathered_back {spaced : Bool} {p : Char → Bool} {found mid : List Char}
    (h : gatherAll spaced p (layout spaced b) = (found, c :: mid))
    (hrest : rest ++ closing <:+ mid) :
    ∃ a mid', b = a ++ closing ∧ mid = mid' ++ closing ∧
      gatherAll spaced p (layout spaced a) = (found, c :: mid') := by
  obtain ⟨mid', rfl⟩ := exists_append_closing hrest
  rw [← List.cons_append] at h
  have hgathered := gatherAll_suffix h
  obtain ⟨a, rfl⟩ := exists_append_closing (hgathered.trans (layout_suffix spaced b))
  obtain ⟨text, htext⟩ := exists_append_closing hgathered
  rw [htext] at h
  exact ⟨a, mid', rfl, rfl, by rw [layout_back htext, gatherAll_back h]⟩

theorem gathered_suffix {spaced : Bool} {p : Char → Bool} {found mid : List Char}
    (h : gatherAll spaced p (layout spaced b) = (found, c :: mid)) : mid <:+ b :=
  ((List.suffix_cons c mid).trans (gatherAll_suffix h)).trans (layout_suffix spaced b)

/-- Characters that the closing does not begin with are passed over up to where they are in the text
alone. -/
theorem dropWhile_back {p : Char → Bool} (hp : p ')' = false)
    (h : (a ++ closing).dropWhile p = rest ++ closing) : a.dropWhile p = rest := by
  have hclosed : Closed .closing (a.dropWhile p) ((a ++ closing).dropWhile p) :=
    closed_dropWhile (.append .closing a) (.inl fun _ hc => Option.some.inj hc ▸ hp)
  rw [h] at hclosed
  exact eq_of_closed hclosed

/-- Up to a character that is not of the closing. -/
theorem span_back {p : Char → Bool} (hp : closing.dropWhile p = [])
    (h : (a ++ closing).dropWhile p = c :: (rest ++ closing)) :
    a.dropWhile p = c :: rest ∧ (a ++ closing).takeWhile p = a.takeWhile p := by
  cases ha : a.dropWhile p with
  | nil =>
    rw [List.dropWhile_append, ha, hp] at h
    cases h
  | cons d left =>
    obtain ⟨hdrop, htake⟩ := span_append ha closing
    rw [h] at hdrop
    obtain ⟨rfl, hleft⟩ := List.cons.inj hdrop
    exact ⟨by rw [append_closing_inj.mp hleft], htake⟩

/-- A character behind layout, with all of the closing left behind it. -/
theorem layout_cons_back {spaced : Bool} (h : layout spaced (a ++ closing) = c :: text)
    (hrest : rest ++ closing <:+ text) :
    ∃ a', layout spaced a = c :: a' ∧ text = a' ++ closing := by
  obtain ⟨a', rfl⟩ := exists_append_closing hrest
  exact ⟨a', layout_back h, rfl⟩

/-! ## Readers -/

/-- What is left of a text is an end of it. Where it has all of the closing, it is left in the same
way without the closing. -/
def Leaves (reads : List Char → List Char → Prop) : Prop :=
  ∀ b rest, reads b rest → rest <:+ b ∧
    ∀ a rest', b = a ++ closing → rest = rest' ++ closing → reads a rest'

namespace Leaves

variable {reads : List Char → List Char → Prop}

theorem suffix (h : Leaves reads) (hb : reads b rest) : rest <:+ b := (h b rest hb).1

theorem back (h : Leaves reads) (hb : reads (a ++ closing) (rest ++ closing)) : reads a rest :=
  (h _ _ hb).2 a rest rfl rfl

theorem behindLayout (h : Leaves reads) (spaced : Bool) :
    Leaves fun b rest => reads (layout spaced b) rest := by
  intro b rest hb
  have hsuffix := h.suffix hb
  refine ⟨hsuffix.trans (layout_suffix spaced b), ?_⟩
  rintro a rest' rfl rfl
  obtain ⟨mid, hmid⟩ := exists_append_closing hsuffix
  rw [hmid] at hb
  rw [layout_back hmid]
  exact h.back hb

end Leaves

/-- A reader that reads the text in front of the closing alone, wherever it leaves the closing. -/
def Returns {α : Type} (read : List Char → Except Fault (α × List Char)) : Prop :=
  ∀ x, Leaves fun b rest => read b = .ok (x, rest)

namespace Returns

variable {α β : Type} {read : List Char → Except Fault (α × List Char)}

theorem suffix (h : Returns read) {x : α} (hx : read b = .ok (x, rest)) : rest <:+ b :=
  (h x).suffix hx

theorem back (h : Returns read) {x : α} (hx : read (a ++ closing) = .ok (x, rest ++ closing)) :
    read a = .ok (x, rest) :=
  (h x).back hx

theorem error (e : Fault) : Returns (α := α) fun _ => .error e :=
  fun _ _ _ h => by cases h

theorem ok (x : α) : Returns fun text => .ok (x, text) := by
  intro y b rest h
  cases h
  refine ⟨List.suffix_rfl, fun a rest' hb hrest => ?_⟩
  rw [append_closing_inj.mp (hb.symm.trans hrest)]

theorem map (h : Returns read) (f : α → β) :
    Returns fun text => (read text).map fun r => (f r.1, r.2) := by
  intro y b rest hy
  obtain ⟨⟨x, mid⟩, hx, heq⟩ := map_eq_ok.mp hy
  cases heq
  refine ⟨h.suffix hx, ?_⟩
  rintro a rest' rfl rfl
  exact map_eq_ok.mpr ⟨_, h.back hx, rfl⟩

theorem bind (h : Returns read) {next : α → List Char → Except Fault (β × List Char)}
    (hnext : ∀ x, Returns (next x)) :
    Returns fun text => read text >>= fun r => next r.1 r.2 := by
  intro y b rest hread
  obtain ⟨⟨x, mid⟩, hx, hy⟩ := bind_eq_ok.mp hread
  have hsuffix := (hnext x).suffix hy
  refine ⟨hsuffix.trans (h.suffix hx), ?_⟩
  rintro a rest' rfl rfl
  obtain ⟨mid, rfl⟩ := exists_append_closing hsuffix
  exact bind_eq_ok.mpr ⟨_, h.back hx, (hnext x).back hy⟩

/-- What is computed before the text is read. -/
theorem after (e : Except Fault α) {next : α → List Char → Except Fault (β × List Char)}
    (hnext : ∀ x, Returns (next x)) : Returns fun text => e >>= fun x => next x text := by
  cases e with
  | error e => exact .error e
  | ok x => exact hnext x

theorem ite {p : Prop} [Decidable p] {read' : List Char → Except Fault (α × List Char)}
    (h : Returns read) (h' : Returns read') :
    Returns fun text => if p then read text else read' text := by
  by_cases hp : p
  · simpa only [if_pos hp] using h
  · simpa only [if_neg hp] using h'

theorem behindLayout (h : Returns read) (spaced : Bool) :
    Returns fun text => read (layout spaced text) :=
  fun x => (h x).behindLayout spaced

/-- Reading what is not empty by its first character. -/
theorem of_cons (hnil : ∀ r, read [] ≠ .ok r)
    (hcons : ∀ c, Returns fun text => read (c :: text)) : Returns read := by
  intro x b rest h
  cases b with
  | nil => exact absurd h (hnil _)
  | cons c b =>
    have hsuffix := (hcons c).suffix h
    refine ⟨hsuffix.trans (List.suffix_cons c b), ?_⟩
    rintro a rest' hb rfl
    obtain ⟨a, rfl, rfl⟩ := exists_cons_of_closed hb.symm hsuffix
    exact (hcons c).back h

end Returns

end TemplateMatch.Regex
