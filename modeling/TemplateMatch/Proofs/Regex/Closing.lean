import TemplateMatch.Proofs.Results
import TemplateMatch.Regex.Reader

/-!
Reading a text with a tail behind it: the base. Layout is dropped and characters are gathered from
such a text as from the text alone, unless a comment swallows the tail. A reader for which this
holds is `Steady`. The tail of a template is the closing of its anchored group.
-/

namespace TemplateMatch.Regex

/-- What closes the group around a template. -/
def closing : List Char := [')', '\\', 'z']

/-- What may stand behind a text: it does not make an operator lazy or go on with a brace, and where
layout may be spaced it neither begins with layout nor ends a comment. -/
structure Tail where
  text : List Char
  /-- Whether layout may be spaced in front of it. -/
  spaced : Bool
  ne_question : text.head? ≠ some '?'
  ne_brace : text.head? ≠ some '\x7b'
  ne_layout : spaced = true →
    ∀ c ∈ text.head?, Unicode.isBlank c = false ∧ c ≠ '#' ∧ c ≠ ']' ∧ c ≠ '-'
  ends_no_comment : spaced = true → dropLayout true text = []

def Tail.closing : Tail where
  text := Regex.closing
  spaced := true
  ne_question := by decide
  ne_brace := by decide
  ne_layout := fun _ c hc => by
    cases hc
    exact ⟨rfl, by decide, by decide, by decide⟩
  ends_no_comment := by decide

/-- Layout of this kind may stand in front of the tail. -/
def Tail.Allows (t : Tail) (spaced : Bool) : Prop := spaced = true → t.spaced = true

theorem Tail.allows_false (t : Tail) : t.Allows false := nofun

/-- A text and the same text in front of the tail. Where a comment has run on over the tail, both
are empty. -/
def Closed (t : Tail) (a b : List Char) : Prop :=
  b = a ++ t.text ∨ t.spaced = true ∧ a = [] ∧ b = []

namespace Closed

variable {t : Tail}

theorem append (t : Tail) (a : List Char) : Closed t a (a ++ t.text) := .inl rfl

theorem of_nil {b : List Char} (h : Closed t [] b) : b = t.text ∨ b = [] :=
  h.imp id fun h => h.2.2

theorem exists_cons {c : Char} {a b : List Char} (h : Closed t (c :: a) b) :
    ∃ b', b = c :: b' ∧ Closed t a b' := by
  rcases h with rfl | ⟨_, h, _⟩
  · exact ⟨a ++ t.text, rfl, .append t a⟩
  · cases h

theorem of_cons {c : Char} {a b : List Char} (h : Closed t a (c :: b))
    (hc : t.text.head? ≠ some c) : ∃ a', a = c :: a' ∧ Closed t a' b := by
  cases a with
  | nil =>
    rcases h.of_nil with hb | hb
    · rw [← hb] at hc
      exact absurd rfl hc
    · cases hb
  | cons d a =>
    obtain ⟨b', hb, ha⟩ := h.exists_cons
    cases hb
    exact ⟨a, rfl, ha⟩

/-- What both texts begin with, where the shorter one begins at all. -/
theorem cons_of_ne_nil {c : Char} {a b : List Char} (h : Closed t a (c :: b)) (ha : a ≠ []) :
    ∃ a', a = c :: a' ∧ Closed t a' b := by
  obtain ⟨d, a, rfl⟩ := List.exists_cons_of_ne_nil ha
  obtain ⟨b', hb, ha⟩ := h.exists_cons
  cases hb
  exact ⟨a, rfl, ha⟩

theorem ne_nil {a b : List Char} (h : Closed t a b) (ha : a ≠ []) : b ≠ [] := by
  obtain ⟨c, a, rfl⟩ := List.exists_cons_of_ne_nil ha
  obtain ⟨b, rfl, _⟩ := h.exists_cons
  exact List.cons_ne_nil c b

/-- A sign is doubled in front of the tail only where it is doubled in the text itself. -/
theorem ne_double {c d : Char} {a b : List Char} (h : Closed t a b) (ha : a ≠ [])
    (hne : ∀ rest, c :: a ≠ d :: d :: rest) (rest : List Char) : c :: b ≠ d :: d :: rest := by
  intro hb
  cases hb
  obtain ⟨a, rfl, _⟩ := h.cons_of_ne_nil ha
  exact hne a rfl

theorem length_le {a b : List Char} (h : Closed t a b) : a.length ≤ b.length := by
  rcases h with rfl | ⟨_, rfl, rfl⟩
  · rw [List.length_append]
    exact Nat.le_add_right _ _
  · exact Nat.le_refl _

theorem head?_iff {a b : List Char} (hab : Closed t a b) {c : Char}
    (hc : a ≠ [] ∨ t.text.head? ≠ some c) : b.head? = some c ↔ a.head? = some c := by
  cases a with
  | nil =>
    have hc := hc.resolve_left fun h => h rfl
    rcases hab.of_nil with rfl | rfl
    · exact ⟨fun h => absurd h hc, nofun⟩
    · rfl
  | cons d a =>
    obtain ⟨b', rfl, _⟩ := hab.exists_cons
    rfl

/-- Without spaced layout nothing swallows the tail. -/
theorem eq_append {a b : List Char} (h : Closed t a b) (ht : t.spaced = false) :
    b = a ++ t.text := by
  rcases h with h | ⟨hspaced, _⟩
  · exact h
  · rw [ht] at hspaced
    cases hspaced

end Closed

variable {t : Tail}

theorem dropLayout_tail (ht : t.spaced = true) : dropLayout false t.text = t.text := by
  cases htext : t.text with
  | nil => rfl
  | cons c rest =>
    obtain ⟨hblank, hcomment, _⟩ := t.ne_layout ht c (by rw [htext]; rfl)
    rw [dropLayout, if_neg (by decide), if_neg (by simp [hblank]), if_neg hcomment]

theorem closed_dropLayout (ht : t.spaced = true) (comment : Bool) (a : List Char) :
    Closed t (dropLayout comment a) (dropLayout comment (a ++ t.text)) := by
  induction a generalizing comment with
  | nil =>
    rw [List.nil_append]
    cases comment with
    | false => exact .inl (dropLayout_tail ht)
    | true => exact .inr ⟨ht, rfl, t.ends_no_comment ht⟩
  | cons c rest ih =>
    rw [List.cons_append, dropLayout, dropLayout]
    split
    · exact ih _
    · split
      · exact ih _
      · split
        · exact ih _
        · exact .append t (c :: rest)

theorem closed_layout {spaced : Bool} (hs : t.Allows spaced) {a b : List Char}
    (h : Closed t a b) : Closed t (layout spaced a) (layout spaced b) := by
  cases spaced with
  | false => exact h
  | true =>
    rcases h with rfl | ⟨ht, rfl, rfl⟩
    · exact closed_dropLayout (hs rfl) false a
    · exact .inr ⟨ht, rfl, rfl⟩

theorem dropWhile_tail {p : Char → Bool} (hp : ∀ c ∈ t.text.head?, p c = false) :
    t.text.dropWhile p = t.text := by
  cases htext : t.text with
  | nil => rfl
  | cons c rest => rw [List.dropWhile_cons_of_neg (by simp [hp c (by rw [htext]; rfl)])]

theorem closed_dropWhile {p : Char → Bool} {a b : List Char} (hab : Closed t a b)
    (hp : (∀ c ∈ t.text.head?, p c = false) ∨ a.dropWhile p ≠ []) :
    Closed t (a.dropWhile p) (b.dropWhile p) := by
  rcases hab with rfl | ⟨ht, rfl, rfl⟩
  · rw [List.dropWhile_append]
    split
    · next h =>
      rw [List.isEmpty_iff] at h
      rw [h, dropWhile_tail (hp.resolve_right fun hne => hne h)]
      exact .append t []
    · exact .append t _
  · exact .inr ⟨ht, rfl, rfl⟩

/-- Characters are passed over up to the first that is not, whatever stands behind it. -/
theorem span_append {p : Char → Bool} {text rest : List Char} {c : Char}
    (h : text.dropWhile p = c :: rest) (behind : List Char) :
    (text ++ behind).dropWhile p = c :: (rest ++ behind) ∧
      (text ++ behind).takeWhile p = text.takeWhile p := by
  induction text with
  | nil => cases h
  | cons d text ih =>
    cases hd : p d with
    | true =>
      rw [List.dropWhile_cons_of_pos hd] at h
      obtain ⟨hdrop, htake⟩ := ih h
      simp only [List.cons_append, List.dropWhile_cons_of_pos hd, List.takeWhile_cons_of_pos hd,
        hdrop, htake, and_self]
    | false =>
      rw [List.dropWhile_cons_of_neg (by simp [hd])] at h
      cases h
      simp [hd]

theorem dropLayout_suffix (comment : Bool) (text : List Char) :
    dropLayout comment text <:+ text := by
  induction text generalizing comment with
  | nil => exact List.suffix_rfl
  | cons c rest ih =>
    have hrest (comment : Bool) : dropLayout comment rest <:+ c :: rest :=
      (ih comment).trans (List.suffix_cons c rest)
    rw [dropLayout]
    split
    · exact hrest _
    · split
      · exact hrest _
      · split
        · exact hrest _
        · exact List.suffix_rfl

theorem layout_suffix (spaced : Bool) (text : List Char) : layout spaced text <:+ text := by
  cases spaced with
  | false => exact List.suffix_rfl
  | true => exact dropLayout_suffix false text

theorem suffix_of_layout {spaced : Bool} {c : Char} {text rest : List Char}
    (h : layout spaced text = c :: rest) : rest <:+ text :=
  (List.suffix_cons c rest).trans (h ▸ layout_suffix spaced text)

theorem length_layout_le (spaced : Bool) (text : List Char) :
    (layout spaced text).length ≤ text.length :=
  (layout_suffix spaced text).length_le

theorem gather_suffix (spaced : Bool) (p : Char → Bool) (fuel : Nat) (text : List Char) :
    (gather spaced p fuel text).2 <:+ text := by
  induction fuel generalizing text with
  | zero => exact List.suffix_rfl
  | succ fuel ih =>
    cases text with
    | nil => exact List.suffix_rfl
    | cons c rest =>
      rw [gather]
      split
      · exact ((ih _).trans (layout_suffix spaced rest)).trans (List.suffix_cons c rest)
      · exact List.suffix_rfl

theorem gatherAll_suffix {spaced : Bool} {p : Char → Bool} {found rest text : List Char}
    (h : gatherAll spaced p text = (found, rest)) : rest <:+ text := by
  have hsuffix := gather_suffix spaced p text.length text
  rw [gatherAll] at h
  rwa [h] at hsuffix

theorem layout_nil (spaced : Bool) : layout spaced [] = [] := by
  cases spaced <;> rfl

/-- Where characters are gathered up to one that is not, the tail takes no part. -/
theorem closed_gather {spaced : Bool} (hs : t.Allows spaced) {p : Char → Bool} {fuel fuel' : Nat}
    {a b : List Char} (hab : Closed t a b) (hfuel' : b.length ≤ fuel')
    (hleft : (gather spaced p fuel a).2 ≠ []) (hfuel : a.length ≤ fuel) :
    (gather spaced p fuel' b).1 = (gather spaced p fuel a).1 ∧
      Closed t (gather spaced p fuel a).2 (gather spaced p fuel' b).2 := by
  induction fuel generalizing fuel' a b with
  | zero =>
    have ha : a = [] := List.eq_nil_of_length_eq_zero (Nat.le_zero.mp hfuel)
    exact absurd ha hleft
  | succ fuel ih =>
    cases a with
    | nil => exact absurd rfl hleft
    | cons c rest =>
      obtain ⟨b', rfl, hrest⟩ := hab.exists_cons
      cases fuel' with
      | zero => cases hfuel'
      | succ fuel' =>
        rw [gather] at hleft
        rw [gather, gather]
        split
        · next hc =>
          rw [if_pos hc] at hleft
          have hlen := length_layout_le spaced rest
          have hlen' := length_layout_le spaced b'
          rw [List.length_cons] at hfuel hfuel'
          obtain ⟨hfound, hclosed⟩ := ih (closed_layout hs hrest)
            (show (layout spaced b').length ≤ fuel' by omega) hleft (by omega)
          exact ⟨congrArg (c :: ·) hfound, hclosed⟩
        · exact ⟨rfl, hab⟩

theorem closed_gatherAll {spaced : Bool} (hs : t.Allows spaced) {p : Char → Bool}
    {a b found rest : List Char} (hab : Closed t a b) (h : gatherAll spaced p a = (found, rest))
    (hrest : rest ≠ []) :
    ∃ rest', gatherAll spaced p b = (found, rest') ∧ Closed t rest rest' := by
  have hleft : (gather spaced p a.length a).2 = rest := congrArg Prod.snd h
  have hfound : (gather spaced p a.length a).1 = found := congrArg Prod.fst h
  obtain ⟨hsame, hclosed⟩ :=
    closed_gather hs hab (Nat.le_refl b.length) (by rwa [hleft]) (Nat.le_refl a.length)
  rw [hleft] at hclosed
  exact ⟨_, Prod.ext (hsame.trans hfound) rfl, hclosed⟩

theorem glance_spaced_iff {text : List Char} {c : Char} (hblank : Unicode.isBlank c = false)
    (hcomment : c ≠ '#') :
    glance true text = some c ↔
      (text.dropWhile Unicode.isBlank).head? = some c ∨
        ∃ rest, text.dropWhile Unicode.isBlank = '#' :: rest ∧
          (rest.dropWhile Unicode.isBlank).head? = some c := by
  -- Such a character in front is not passed over.
  have hfront (h : text.head? = some c) : (text.dropWhile Unicode.isBlank).head? = some c := by
    obtain ⟨rest, rfl⟩ := List.head?_eq_some_iff.mp h
    rw [List.dropWhile_cons_of_neg (by simp [hblank])]
    rfl
  simp only [glance, Bool.not_true, Bool.false_eq_true, if_false]
  split
  · next hnil =>
    rw [hnil] at hfront ⊢
    simpa using hfront
  · next rest hrest =>
    rw [hrest] at hfront ⊢
    split
    · next hnil =>
      simp only [List.cons.injEq, true_and, exists_eq_left', hnil]
      simpa [hcomment.symm] using hfront
    · next d more hmore =>
      simp only [List.cons.injEq, true_and, exists_eq_left', hmore]
      simp [hcomment.symm]
  · next d more hnot hmore =>
    rw [hmore]
    have hd : d ≠ '#' := fun h => hnot h
    simp [hd]

theorem closed_glance {spaced : Bool} (hs : t.Allows spaced) {a b : List Char}
    (hab : Closed t a b) (ha : spaced = true ∨ a ≠ []) {c : Char} (hc : c = ']' ∨ c = '-') :
    glance spaced b = some c ↔ glance spaced a = some c := by
  cases spaced with
  | false => exact hab.head?_iff (.inl (ha.resolve_left nofun))
  | true =>
    have hhead : t.text.head? ≠ some c := by
      intro hhead
      obtain ⟨_, _, hbracket, hhyphen⟩ := t.ne_layout (hs rfl) c hhead
      rcases hc with rfl | rfl
      · exact hbracket rfl
      · exact hhyphen rfl
    have hcalm : ∀ d ∈ t.text.head?, Unicode.isBlank d = false :=
      fun d hd => (t.ne_layout (hs rfl) d hd).1
    have hcomment : t.text.head? ≠ some '#' :=
      fun hhead => (t.ne_layout (hs rfl) '#' hhead).2.1 rfl
    rw [glance_spaced_iff (by rcases hc with rfl | rfl <;> decide)
        (by rcases hc with rfl | rfl <;> decide),
      glance_spaced_iff (by rcases hc with rfl | rfl <;> decide)
        (by rcases hc with rfl | rfl <;> decide)]
    have hdrop := closed_dropWhile (p := Unicode.isBlank) hab (.inl hcalm)
    refine or_congr (hdrop.head?_iff (.inr hhead)) ⟨?_, ?_⟩
    · rintro ⟨rest', hb, hfound⟩
      obtain ⟨rest, ha, hrest⟩ := (hb ▸ hdrop).of_cons hcomment
      have hclosed := closed_dropWhile (p := Unicode.isBlank) hrest (.inl hcalm)
      exact ⟨rest, ha, (hclosed.head?_iff (.inr hhead)).mp hfound⟩
    · rintro ⟨rest, ha, hfound⟩
      obtain ⟨rest', hb, hrest⟩ := (ha ▸ hdrop).exists_cons
      have hclosed := closed_dropWhile (p := Unicode.isBlank) hrest (.inl hcalm)
      exact ⟨rest', hb, (hclosed.head?_iff (.inr hhead)).mpr hfound⟩

/-- A reader that does with a text in front of the tail what it does with the text. -/
def Steady {α : Type} (t : Tail) (read : List Char → Except Fault (α × List Char)) : Prop :=
  ∀ a b x rest, Closed t a b → read a = .ok (x, rest) →
    ∃ rest', read b = .ok (x, rest') ∧ Closed t rest rest'

namespace Steady

variable {α β : Type} {read : List Char → Except Fault (α × List Char)}

theorem error (e : Fault) : Steady (α := α) t fun _ => .error e :=
  fun _ _ _ _ _ h => by cases h

theorem ok (x : α) : Steady t fun text => .ok (x, text) := by
  intro a b y rest hab h
  cases h
  exact ⟨b, rfl, hab⟩

theorem map (h : Steady t read) (f : α → β) :
    Steady t fun text => (read text).map fun r => (f r.1, r.2) := by
  intro a b y rest hab hy
  obtain ⟨⟨x, rest⟩, hx, heq⟩ := map_eq_ok.mp hy
  cases heq
  obtain ⟨rest', hx', hrest⟩ := h a b x rest hab hx
  exact ⟨rest', map_eq_ok.mpr ⟨_, hx', rfl⟩, hrest⟩

theorem bind (h : Steady t read) {next : α → List Char → Except Fault (β × List Char)}
    (hnext : ∀ x, Steady t (next x)) :
    Steady t fun text => read text >>= fun r => next r.1 r.2 := by
  intro a b y rest hab hread
  obtain ⟨⟨x, mid⟩, hx, hy⟩ := bind_eq_ok.mp hread
  obtain ⟨mid', hx', hmid⟩ := h a b x mid hab hx
  obtain ⟨rest', hy', hrest⟩ := hnext x mid mid' y rest hmid hy
  exact ⟨rest', bind_eq_ok.mpr ⟨_, hx', hy'⟩, hrest⟩

/-- What is computed before the text is read. -/
theorem after (e : Except Fault α) {next : α → List Char → Except Fault (β × List Char)}
    (hnext : ∀ x, Steady t (next x)) : Steady t fun text => e >>= fun x => next x text := by
  cases e with
  | error e => exact .error e
  | ok x => exact hnext x

theorem ite {p : Prop} [Decidable p] {read' : List Char → Except Fault (α × List Char)}
    (h : Steady t read) (h' : Steady t read') :
    Steady t fun text => if p then read text else read' text := by
  by_cases hp : p
  · simpa only [if_pos hp] using h
  · simpa only [if_neg hp] using h'

theorem behindLayout (h : Steady t read) {spaced : Bool} (hs : t.Allows spaced) :
    Steady t fun text => read (layout spaced text) :=
  fun _ _ _ _ hab hx => h _ _ _ _ (closed_layout hs hab) hx

/-- Reading what is not empty by its first character. -/
theorem of_cons (hnil : ∀ r, read [] ≠ .ok r)
    (hcons : ∀ c, Steady t fun text => read (c :: text)) : Steady t read := by
  intro a b x rest hab h
  cases a with
  | nil => exact absurd h (hnil _)
  | cons c a =>
    obtain ⟨b', rfl, hab'⟩ := hab.exists_cons
    exact hcons c a b' x rest hab' h

end Steady

end TemplateMatch.Regex
