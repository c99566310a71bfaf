import TemplateMatch.Proofs.Results
import TemplateMatch.Proofs.Regex.ClosingClasses
import TemplateMatch.Proofs.Regex.Returning

/-!
Escapes and classes in brackets return from a closed text. One escape does not: a boundary before a
brace with nothing behind it. In the text alone the brace begins a name that is never closed, and in
front of the closing it is left over (`readEscape_back`).
-/

namespace TemplateMatch.Regex

variable {spaced : Bool} {a b rest : List Char}

/-! ## Escapes -/

theorem returns_hexDigits (spaced : Bool) (count : Nat) : Returns (hexDigits spaced count) := by
  induction count with
  | zero => exact .ok []
  | succ count ih =>
    refine .of_cons nofun fun c => ?_
    simp only [hexDigits]
    refine .ite ?_ (.error _)
    have hmore := ih.behindLayout spaced
    intro x b rest h
    simp only at h ⊢
    split at h
    · next digits rest hdigits =>
      cases h
      refine ⟨hmore.suffix hdigits, ?_⟩
      rintro a rest' rfl rfl
      have hdigits' : hexDigits spaced count (layout spaced a) = .ok (digits, rest') :=
        hmore.back hdigits
      rw [hdigits']
    · cases h

theorem returns_readHex (spaced : Bool) (count : Nat) : Returns (readHex spaced (count + 1)) := by
  intro x b rest h
  rw [readHex] at h
  split at h
  · cases h
  · next b' hb =>
    -- Digits in braces.
    split at h
    · cases h
    · cases h
    · next digits b'' hne hgather =>
      have hcode := (Returns.after (codePoint digits)
        fun c => .ok (⟨c, false⟩ : Literal)).behindLayout spaced
      have hsuffix := hcode.suffix h
      refine ⟨(hsuffix.trans (gathered_suffix hgather)).trans (suffix_of_layout hb), ?_⟩
      rintro a rest' rfl rfl
      obtain ⟨b', b'', rfl, rfl, hgather'⟩ := gathered_back hgather hsuffix
      have ha : layout spaced a = '\x7b' :: b' := layout_back hb
      rw [readHex, ha]
      simp only
      rw [hgather']
      obtain ⟨d, digits, rfl⟩ := List.exists_cons_of_ne_nil hne
      exact hcode.back h
    · cases h
  · next hnil hopen =>
    have hdigits := (returns_hexDigits spaced (count + 1)).bind fun digits =>
      Returns.after (codePoint digits) fun c => .ok (⟨c, count + 1 == 2⟩ : Literal)
    have hsuffix := hdigits.suffix h
    refine ⟨hsuffix.trans (layout_suffix spaced b), ?_⟩
    rintro a rest' rfl rfl
    obtain ⟨a', ha'⟩ := exists_append_closing hsuffix
    rw [ha'] at h hopen
    have hread := hdigits.back h
    rw [readHex, layout_back ha']
    split
    · cases hread
    · exact absurd rfl (hopen _)
    · exact hread

theorem returns_readProperty (spaced negated : Bool) : Returns (readProperty spaced negated) := by
  intro x b rest h
  rw [readProperty] at h
  split at h
  · cases h
  · next b' hb =>
    split at h
    · cases h
    · next name c b'' hgather =>
      cases h
      refine ⟨(gathered_suffix hgather).trans (suffix_of_layout hb), ?_⟩
      rintro a rest' rfl rfl
      obtain ⟨b', b'', rfl, heq, hgather'⟩ := gathered_back hgather List.suffix_rfl
      obtain rfl := append_closing_inj.mp heq
      have ha : layout spaced a = '\x7b' :: b' := layout_back hb
      rw [readProperty, ha]
      simp only
      rw [hgather']
  · next c b' hopen hb =>
    have hletter : Returns fun text => if c = '\\' then .error .propertyNameInvalid
        else .ok (Primitive.property (.named (String.singleton c)) negated, layout spaced text) :=
      .ite (.error _) ((Returns.ok _).behindLayout spaced)
    have hsuffix := hletter.suffix h
    refine ⟨hsuffix.trans (suffix_of_layout hb), ?_⟩
    rintro a rest' rfl rfl
    obtain ⟨b', ha, rfl⟩ := layout_cons_back hb hsuffix
    rw [readProperty, ha]
    split
    · next heq => cases heq
    · next heq =>
      cases heq
      exact absurd rfl hopen
    · next heq =>
      cases heq
      exact hletter.back h

/-- A brace with nothing but layout behind it. -/
def OpenBrace (spaced : Bool) (text : List Char) : Prop :=
  ∃ rest, text = '\x7b' :: rest ∧ layout spaced rest = []

theorem readBoundary_suffix {edge : WordEdge} (h : readBoundary spaced b = .ok (edge, rest)) :
    rest <:+ b := by
  simp only [readBoundary] at h
  split at h
  · next b' =>
    split at h
    · cases h
    · next c more hb' =>
      split at h
      · split at h
        · next name b'' hgather =>
          rw [← hb'] at hgather
          have hsuffix := (gathered_suffix hgather).trans (List.suffix_cons '\x7b' b')
          split at h <;> cases h <;> exact hsuffix
        · cases h
      · cases h
        exact List.suffix_rfl
  · cases h
    exact List.suffix_rfl

theorem readBoundary_of_head (h : b.head? ≠ some '\x7b') :
    readBoundary spaced b = .ok (.either, b) := by
  simp only [readBoundary]
  split
  · exact absurd rfl h
  · rfl

/-- Where something is left behind layout, the closing does not decide what comes first. -/
theorem layout_cons_of_ne_nil {c : Char} {text : List Char}
    (h : layout spaced (a ++ closing) = c :: text) (ha : layout spaced a ≠ []) :
    ∃ a', layout spaced a = c :: a' := by
  have hclosed : Closed .closing (layout spaced a) (layout spaced (a ++ closing)) :=
    closed_layout (fun _ => rfl) (.append .closing a)
  rw [h] at hclosed
  obtain ⟨a', ha', _⟩ := hclosed.cons_of_ne_nil ha
  exact ⟨a', ha'⟩

theorem readBoundary_brace_back {edge : WordEdge}
    (h : readBoundary spaced ('\x7b' :: (a ++ closing)) = .ok (edge, rest ++ closing)) :
    readBoundary spaced ('\x7b' :: a) = .ok (edge, rest) ∨ OpenBrace spaced rest := by
  simp only [readBoundary] at h ⊢
  split at h
  · cases h
  · next c more hb =>
    split at h
    · next hc =>
      split at h
      · next name b hgather =>
        obtain rfl : b = rest ++ closing := by split at h <;> cases h <;> rfl
        rw [← hb] at hgather
        obtain ⟨a', rest', ha', hrest', hgather'⟩ := gathered_back hgather List.suffix_rfl
        obtain rfl := append_closing_inj.mp ha'
        obtain rfl := append_closing_inj.mp hrest'
        obtain ⟨more', hmore'⟩ := layout_cons_of_ne_nil hb fun hnil => by
          rw [hnil] at hgather'
          cases hgather'
        left
        rw [hmore'] at hgather' ⊢
        simp only
        rw [if_pos hc, hgather']
        simp only
        split at h <;> cases h <;> rfl
      · cases h
    · next hc =>
      obtain ⟨rfl, hrest⟩ := Prod.mk.inj (Except.ok.inj h)
      rw [← List.cons_append] at hrest
      obtain rfl := append_closing_inj.mp hrest
      by_cases hnil : layout spaced a = []
      · exact .inr ⟨a, rfl, hnil⟩
      · left
        obtain ⟨more', hmore'⟩ := layout_cons_of_ne_nil hb hnil
        rw [hmore']
        simp only
        rw [if_neg hc]

/-- A boundary without a name leaves its text as it is. -/
theorem readBoundary_back {edge : WordEdge}
    (h : readBoundary spaced (a ++ closing) = .ok (edge, rest ++ closing)) :
    readBoundary spaced a = .ok (edge, rest) ∨ OpenBrace spaced rest := by
  by_cases hopen : ∃ text, a = '\x7b' :: text
  · obtain ⟨a, rfl⟩ := hopen
    exact readBoundary_brace_back h
  · have hhead : a.head? ≠ some '\x7b' := fun hhead =>
      hopen ((List.head?_eq_some_iff.mp hhead).imp fun _ => id)
    have hhead' : (a ++ closing).head? ≠ some '\x7b' := by
      cases a with
      | nil => decide
      | cons c a => exact hhead
    rw [readBoundary_of_head hhead'] at h
    rw [readBoundary_of_head hhead]
    exact .inl ((Returns.ok _).back h)

theorem readEscape_boundary (text : List Char) : readEscape spaced ('b' :: text) =
    (readBoundary spaced text).map fun r => (.assertion (.word r.1), r.2) := by
  rw [readEscape, if_neg (by decide), if_neg (by decide), if_neg (by decide), if_neg (by decide),
    if_neg (by decide), if_neg (by decide), if_neg (by decide), if_pos rfl]

theorem returns_readEscape {c : Char} (hc : c ≠ 'b') :
    Returns fun text => readEscape spaced (c :: text) := by
  simp only [readEscape, if_neg hc]
  have hhex (count : Nat) := (returns_readHex spaced count).map Primitive.literal
  refine .ite (.error _) (.ite (.ok _) (.ite (hhex 1) (.ite (hhex 3) (.ite (hhex 7)
    (.ite (returns_readProperty spaced false) (.ite (returns_readProperty spaced true) ?_))))))
  cases letterEscapes.lookup c with
  | none => exact .error _
  | some primitive => exact .ok primitive

theorem readEscape_suffix {p : Primitive} (h : readEscape spaced b = .ok (p, rest)) :
    rest <:+ b.tail := by
  cases b with
  | nil => cases h
  | cons c b =>
    by_cases hc : c = 'b'
    · subst hc
      rw [readEscape_boundary] at h
      obtain ⟨⟨edge, b'⟩, hb, heq⟩ := map_eq_ok.mp h
      cases heq
      exact readBoundary_suffix hb
    · exact (returns_readEscape hc).suffix h

theorem readEscape_back {p : Primitive}
    (h : readEscape spaced (a ++ closing) = .ok (p, rest ++ closing)) :
    readEscape spaced a = .ok (p, rest) ∨ OpenBrace spaced rest ∧ ∃ e, p = .assertion e := by
  have hsuffix := readEscape_suffix h
  cases a with
  | nil => exact absurd hsuffix not_suffix_behind_closing
  | cons c a =>
    by_cases hc : c = 'b'
    · subst hc
      rw [List.cons_append, readEscape_boundary] at h
      obtain ⟨⟨edge, b⟩, hb, heq⟩ := map_eq_ok.mp h
      cases heq
      refine (readBoundary_back hb).imp (fun ha => ?_) fun hopen => ⟨hopen, _, rfl⟩
      rw [readEscape_boundary, ha]
      rfl
    · exact .inl ((returns_readEscape hc).back h)

/-! ## Members of classes -/

theorem readClassMember_suffix {p : Primitive} (h : readClassMember spaced b = .ok (p, rest)) :
    rest <:+ b.tail := by
  unfold readClassMember at h
  split at h
  · cases h
  · exact (readEscape_suffix h).trans (List.tail_suffix _)
  · cases h
    exact List.suffix_rfl

/-- No member of a class is an assertion, so boundaries do not matter here. -/
theorem readClassMember_back {p : Primitive}
    (h : readClassMember spaced (a ++ closing) = .ok (p, rest ++ closing)) :
    readClassMember spaced a = .ok (p, rest) ∨ ∃ e, p = .assertion e := by
  have hsuffix := readClassMember_suffix h
  cases a with
  | nil => exact absurd hsuffix not_suffix_behind_closing
  | cons c a =>
    by_cases hc : c = '\\'
    · subst hc
      exact (readEscape_back h).imp id fun hopen => hopen.2
    · have hliteral (text : List Char) :
          readClassMember spaced (c :: text) = .ok (.literal ⟨c, false⟩, text) := by
        simp [readClassMember]
      left
      rw [List.cons_append, hliteral] at h
      rw [hliteral]
      exact (Returns.ok _).back h

theorem readClassItem_suffix {item : ClassTree} (h : readClassItem spaced b = .ok (item, rest)) :
    rest <:+ b.tail := by
  cases readClassItem_eq_ok.mp h with
  | single hm => exact (layout_suffix _ _).trans (readClassMember_suffix hm)
  | range hm hleft _ hm' =>
    have hbehind := (readClassMember_suffix hm').trans (List.tail_suffix _)
    exact ((hbehind.trans (layout_suffix _ _)).trans (suffix_of_layout hleft)).trans
      (readClassMember_suffix hm)

/-- An item returns if it is not the last of its text, which no class ends with. -/
theorem readClassItem_back {item : ClassTree}
    (h : readClassItem spaced (a ++ closing) = .ok (item, rest ++ closing)) (hrest : rest ≠ []) :
    readClassItem spaced a = .ok (item, rest) := by
  have hs : Tail.closing.Allows spaced := fun _ => rfl
  rw [readClassItem_eq_ok] at h ⊢
  generalize hclosed : rest ++ closing = b at h
  cases h with
  | @single low _ left hm hitem hnil hhyphen =>
    obtain ⟨left, rfl⟩ := exists_append_closing (hclosed ▸ layout_suffix spaced left)
    obtain rfl := layout_back hclosed.symm
    obtain hm' | ⟨e, rfl⟩ := readClassMember_back hm
    · refine .single hm' hitem hrest fun behind hbehind => ?_
      rw [← hclosed, hbehind] at hhyphen
      have hends := hhyphen (behind ++ closing) rfl
      refine (hyphenEnds_of_closed hs (.append .closing behind) ?_).mp hends
      -- The closing does not begin with what ends the hyphen.
      cases spaced with
      | true => exact .inl rfl
      | false =>
        right
        rintro rfl
        simp [HyphenEnds, glance, closing] at hends
    · cases hitem
  | @range low high _ _ left behind _ hm hleft hend hm' hlow hhigh hle =>
    subst hclosed
    have hmember := readClassMember_suffix hm'
    obtain ⟨behind, rfl⟩ :=
      exists_append_closing ((hmember.trans (List.tail_suffix _)).trans (layout_suffix _ _))
    rw [← List.cons_append] at hleft
    obtain ⟨left, rfl⟩ := exists_append_closing (hleft ▸ layout_suffix spaced left)
    obtain ⟨text, htext⟩ := exists_append_closing (hmember.trans (List.tail_suffix _))
    rw [htext] at hm'
    have hbehind : behind ≠ [] := by
      rintro rfl
      have hlayout : layout spaced ([] ++ closing) = closing := by cases spaced <;> rfl
      rw [hlayout] at hmember
      exact not_suffix_behind_closing hmember
    obtain hlow' | ⟨e, rfl⟩ := readClassMember_back hm
    · obtain hhigh' | ⟨e, rfl⟩ := readClassMember_back hm'
      · rw [← layout_back htext] at hhigh'
        have hends := hyphenEnds_of_closed hs (.append .closing behind) (.inr hbehind)
        exact .range hlow' (layout_back hleft) (mt hends.mpr hend) hhigh' hlow hhigh hle
      · cases hhigh
    · cases hlow

/-! ## Classes -/

/-- An end of a text that is not all of it. -/
structure ProperEnd (text rest : List Char) : Prop where
  suffix : rest <:+ text
  length_lt : rest.length < text.length

namespace ProperEnd

variable {text mid : List Char}

theorem of_cons {c : Char} (h : rest <:+ text) : ProperEnd (c :: text) rest :=
  ⟨h.trans (List.suffix_cons c text), Nat.lt_succ_of_le h.length_le⟩

theorem of_tail (h : rest <:+ text.tail) (hne : text ≠ []) : ProperEnd text rest := by
  obtain ⟨c, text, rfl⟩ := List.exists_cons_of_ne_nil hne
  exact of_cons h

theorem trans_suffix (h : ProperEnd mid rest) (hmid : mid <:+ text) : ProperEnd text rest :=
  ⟨h.suffix.trans hmid, Nat.lt_of_lt_of_le h.length_lt hmid.length_le⟩

/-- What all of the closing is left of, and more has been read from, has a part in front. -/
theorem exists_append (h : ProperEnd b (rest ++ closing)) : ∃ a, b = a ++ closing ∧ a ≠ [] := by
  obtain ⟨a, rfl⟩ := exists_append_closing h.suffix
  refine ⟨a, rfl, ?_⟩
  rintro rfl
  have hlt := h.length_lt
  rw [List.length_append, List.nil_append] at hlt
  omega

end ProperEnd

theorem readAsciiClass?_properEnd {item : ClassTree} (h : readAsciiClass? b = some (item, rest)) :
    ProperEnd b rest := by
  obtain ⟨negated, name, rs, rfl, _, _⟩ := readAsciiClass?_eq_some h
  have hrest : rest <:+ name ++ ':' :: ']' :: rest :=
    (List.suffix_append [':', ']'] rest).trans (List.suffix_append name _)
  cases negated with
  | true => exact .of_cons (hrest.trans (List.suffix_cons '^' _))
  | false => exact .of_cons hrest

theorem readAsciiClass?_back {item : ClassTree}
    (h : readAsciiClass? (a ++ closing) = some (item, rest ++ closing)) :
    readAsciiClass? a = some (item, rest) := by
  obtain ⟨negated, name, rs, ha, hrs, rfl⟩ := readAsciiClass?_eq_some h
  have hsame : a = asciiSign negated ++ (name ++ ':' :: ']' :: rest) := by
    rw [← append_closing_inj, ha]
    simp
  rw [hsame]
  exact readAsciiClass?_of_name hrs negated rest

/-- What is a named class in the text is one in front of the closing. -/
theorem readAsciiClass?_none_back (h : readAsciiClass? (a ++ closing) = none) :
    readAsciiClass? a = none := by
  cases ha : readAsciiClass? a with
  | none => rfl
  | some r =>
    obtain ⟨item, rest⟩ := r
    have hclosed : Closed .closing a (a ++ closing) := .append .closing a
    obtain ⟨rest', hb, _⟩ := closed_readAsciiClass? hclosed ha
    rw [h] at hb
    cases hb

theorem firstItems_back {sign negated : Bool} {hyphens items : List ClassTree}
    (h : firstItems spaced sign hyphens (a ++ closing) = .ok (negated, items, rest ++ closing))
    (hrest : rest ≠ []) : firstItems spaced sign hyphens a = .ok (negated, items, rest) := by
  generalize hb : a ++ closing = b at h
  generalize hclosed : rest ++ closing = left at h
  unfold firstItems at h
  split at h
  · cases h
  · next text =>
    split at h
    · cases h
    · cases h
      obtain ⟨a', rfl, rfl⟩ :=
        exists_cons_of_closed hb (hclosed ▸ layout_suffix spaced text)
      have hlayout := layout_back hclosed.symm
      rw [firstItems, hlayout]
      split
      · exact absurd rfl hrest
      · rfl
  · next hnil hbracket =>
    cases h
    obtain rfl : a = rest := append_closing_inj.mp (hb.trans hclosed.symm)
    subst hb
    unfold firstItems
    split
    · exact absurd rfl hrest
    · exact absurd rfl (hbracket _ rfl)
    · rfl

section

variable {sign negated : Bool} {items : List ClassTree}

theorem openHyphens_back
    (h : openHyphens spaced sign (a ++ closing) = .ok (negated, items, rest ++ closing))
    (hrest : rest ≠ []) : openHyphens spaced sign a = .ok (negated, items, rest) := by
  obtain ⟨left, hleft⟩ := exists_append_closing (firstItems_suffix h)
  rw [openHyphens, hleft] at h
  have hgather : gatherAll spaced (· == '-') a =
      ((gatherAll spaced (· == '-') (a ++ closing)).1, left) := gatherAll_back (Prod.ext rfl hleft)
  rw [openHyphens, hgather]
  exact firstItems_back h hrest

theorem openClass_back
    (h : openClass spaced (a ++ closing) = .ok (negated, items, rest ++ closing))
    (hrest : rest ≠ []) : openClass spaced a = .ok (negated, items, rest) := by
  by_cases hsign : (layout spaced (a ++ closing)).head? = some '^'
  · obtain ⟨text, htext⟩ := List.head?_eq_some_iff.mp hsign
    rw [openClass_negated htext] at h
    have hsuffix := openHyphens_suffix h
    obtain ⟨text, ha, rfl⟩ := layout_cons_back htext (hsuffix.trans (layout_suffix _ _))
    obtain ⟨text', htext'⟩ := exists_append_closing hsuffix
    rw [htext'] at h
    rw [openClass_negated ha, layout_back htext']
    exact openHyphens_back h hrest
  · rw [openClass_plain hsign] at h
    obtain ⟨text, htext⟩ := exists_append_closing (openHyphens_suffix h)
    rw [htext] at h hsign
    have ha := layout_back htext
    have hread := openHyphens_back h hrest
    rw [← ha] at hread
    rw [openClass_plain ?_]
    · exact hread
    · intro hhead
      obtain ⟨more, hmore⟩ := List.head?_eq_some_iff.mp hhead
      rw [ha.symm.trans hmore] at hsign
      exact hsign rfl

end

theorem readClassBody_properEnd {fuel : Nat} {pending : Pending} {items : List ClassTree}
    {tree : ClassTree} (h : readClassBody spaced fuel pending items b = .ok (tree, rest)) :
    ProperEnd (layout spaced b) rest := by
  induction fuel generalizing pending items b rest tree with
  | zero => cases h
  | succ fuel ih =>
    have hsuffix {pending : Pending} {items : List ClassTree} {b rest : List Char}
        {tree : ClassTree} (h : readClassBody spaced fuel pending items b = .ok (tree, rest)) :
        rest <:+ b := (ih h).suffix.trans (layout_suffix spaced b)
    rw [readClassBody_eq_ok] at h
    generalize layout spaced b = b at h ⊢
    cases h with
    | close => exact .of_cons List.suffix_rfl
    | named hitem h => exact .of_cons ((hsuffix h).trans (readAsciiClass?_properEnd hitem).suffix)
    | nested _ hopen hbody h =>
      exact .of_cons (((hsuffix h).trans (hsuffix hbody)).trans (openClass_suffix hopen))
    | operator _ h => exact .of_cons ((hsuffix h).trans (List.suffix_cons _ _))
    | item _ hitem h =>
      refine .of_tail ((hsuffix h).trans (readClassItem_suffix hitem)) ?_
      rintro rfl
      cases hitem

/-- A class is never closed by the first character, so some of the text stands in front of the
closing. -/
theorem exists_append_of_readClassBody {fuel : Nat} {pending : Pending} {items : List ClassTree}
    {tree : ClassTree}
    (h : readClassBody spaced fuel pending items b = .ok (tree, rest ++ closing)) :
    ∃ a, b = a ++ closing ∧ a ≠ [] :=
  ((readClassBody_properEnd h).trans_suffix (layout_suffix spaced b)).exists_append

theorem BeginsItem.of_append (h : BeginsItem (a ++ closing)) : BeginsItem a where
  ne_open := mt head?_append_closing h.ne_open
  ne_close := mt head?_append_closing h.ne_close
  ne_operator sign op rest hop ha := by
    subst ha
    exact h.ne_operator sign op (rest ++ closing) hop rfl

theorem readClassBody_back {fuel fuel' : Nat} {pending : Pending} {items : List ClassTree}
    {tree : ClassTree}
    (h : readClassBody spaced fuel pending items (a ++ closing) = .ok (tree, rest ++ closing))
    (hfuel : a.length < fuel') :
    readClassBody spaced fuel' pending items a = .ok (tree, rest) := by
  induction fuel generalizing fuel' pending items a rest tree with
  | zero => cases h
  | succ fuel ih =>
    obtain ⟨fuel', rfl⟩ := Nat.exists_eq_succ_of_ne_zero (Nat.ne_zero_of_lt hfuel)
    have hlen := length_layout_le spaced a
    obtain ⟨text, htext, hne⟩ := (readClassBody_properEnd h).exists_append
    rw [readClassBody_eq_ok, htext] at h
    rw [layout_back htext] at hlen
    rw [readClassBody_eq_ok, layout_back htext]
    generalize hb : text ++ closing = b at h
    generalize hr : (tree, rest ++ closing) = r at h
    cases h with
    | close =>
      obtain ⟨rfl, rfl⟩ := Prod.mk.inj hr
      obtain ⟨text, rfl, hmore⟩ := exists_cons_of_closed hb List.suffix_rfl
      obtain rfl := append_closing_inj.mp hmore
      exact .close
    | named hitem h =>
      subst hr
      obtain ⟨left, rfl, -⟩ := exists_append_of_readClassBody h
      have hend := readAsciiClass?_properEnd hitem
      obtain ⟨text, rfl, rfl⟩ := exists_cons_of_closed hb hend.suffix
      have hlt := hend.length_lt
      simp only [List.length_append, List.length_cons] at hlen hlt
      exact .named (readAsciiClass?_back hitem) (ih h (by omega))
    | nested hnone hopen hbody h =>
      subst hr
      obtain ⟨left, rfl, -⟩ := exists_append_of_readClassBody h
      obtain ⟨inner, rfl, hinner⟩ := exists_append_of_readClassBody hbody
      have hopened := openClass_suffix hopen
      obtain ⟨text, rfl, rfl⟩ := exists_cons_of_closed hb hopened
      have hle := hopened.length_le
      have hlt := ((readClassBody_properEnd hbody).trans_suffix (layout_suffix spaced _)).length_lt
      simp only [List.length_append, List.length_cons] at hlen hle hlt
      exact .nested (readAsciiClass?_none_back hnone) (openClass_back hopen hinner)
        (ih hbody (by omega)) (ih h (by omega))
    | operator hop h =>
      subst hr
      obtain ⟨left, rfl, -⟩ := exists_append_of_readClassBody h
      obtain ⟨text, rfl, hsign⟩ := exists_cons_of_closed hb (List.suffix_cons _ _)
      obtain ⟨text, rfl, hmore⟩ := exists_cons_of_closed hsign.symm List.suffix_rfl
      obtain rfl := append_closing_inj.mp hmore
      simp only [List.length_cons] at hlen
      exact .operator hop (ih h (by omega))
    | item hbegins hitem h =>
      subst hr hb
      obtain ⟨left, rfl, hleft⟩ := exists_append_of_readClassBody h
      have hle := (readClassItem_suffix hitem).length_le
      obtain ⟨c, text, rfl⟩ := List.exists_cons_of_ne_nil hne
      simp only [List.cons_append, List.tail_cons, List.length_append, List.length_cons] at hlen hle
      exact .item hbegins.of_append (readClassItem_back hitem hleft) (ih h (by omega))

theorem returns_readClass : Returns (readClass spaced) := by
  intro x b rest h
  rw [readClass] at h
  split at h
  · cases h
  · next negated first left hopen =>
    split at h
    · cases h
    · next body left' hbody =>
      cases h
      have hend := (readClassBody_properEnd hbody).trans_suffix (layout_suffix spaced left)
      refine ⟨hend.suffix.trans (openClass_suffix hopen), ?_⟩
      rintro a rest' rfl rfl
      obtain ⟨left, rfl, hleft⟩ := hend.exists_append
      rw [readClass, openClass_back hopen hleft]
      simp only
      rw [readClassBody_back hbody (Nat.lt_succ_self _)]

end TemplateMatch.Regex
