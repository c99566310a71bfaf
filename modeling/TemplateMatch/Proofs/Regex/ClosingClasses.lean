import TemplateMatch.Proofs.Regex.ClassRounds
import TemplateMatch.Proofs.Regex.Closing

/-! Escapes and classes in brackets are read from a closed text as from the text alone. -/

namespace TemplateMatch.Regex

section

variable {t : Tail} {spaced : Bool} (hs : t.Allows spaced)

include hs

/-! ## Escapes -/

theorem steady_hexDigits (count : Nat) : Steady t (hexDigits spaced count) := by
  induction count with
  | zero => exact .ok []
  | succ count ih =>
    refine .of_cons nofun fun c => ?_
    simp only [hexDigits]
    refine .ite ?_ (.error _)
    intro a b x rest hab h
    simp only at h
    split at h
    · next digits rest hdigits =>
      cases h
      obtain ⟨rest', hdigits', hrest⟩ := ih _ _ _ _ (closed_layout hs hab) hdigits
      exact ⟨rest', by simp only [hdigits'], hrest⟩
    · cases h

theorem steady_readHex (count : Nat) : Steady t (readHex spaced count) := by
  intro a b x rest hab h
  have hl := closed_layout hs hab
  rw [readHex] at h ⊢
  generalize layout spaced a = a at h hl
  generalize layout spaced b = b at hl ⊢
  split at h
  · cases h
  · next a =>
    -- Digits in braces.
    obtain ⟨b', rfl, hab'⟩ := hl.exists_cons
    simp only
    split at h
    · cases h
    · cases h
    · next digits a hne hgather =>
      obtain ⟨b', hgather', hrest⟩ :=
        closed_gatherAll hs (closed_layout hs hab') hgather (List.cons_ne_nil _ _)
      obtain ⟨b', rfl, hb⟩ := hrest.exists_cons
      rw [hgather']
      obtain ⟨d, digits, rfl⟩ := List.exists_cons_of_ne_nil hne
      have hcode := Steady.after (t := t) (codePoint (d :: digits)) fun c =>
        .ok (⟨c, false⟩ : Literal)
      exact hcode.behindLayout hs _ _ _ _ hb h
    · cases h
  · next hnil hopen =>
    obtain ⟨c, a, rfl⟩ := List.exists_cons_of_ne_nil hnil
    obtain ⟨b', rfl, hab'⟩ := hl.exists_cons
    split
    · next hb => cases hb
    · next hb =>
      cases hb
      exact absurd rfl (hopen a)
    · have hcode (digits : List Char) :=
        Steady.after (t := t) (codePoint digits) fun c => .ok (⟨c, count == 2⟩ : Literal)
      exact (steady_hexDigits hs count).bind hcode _ _ _ _ hl h

theorem steady_readProperty (negated : Bool) : Steady t (readProperty spaced negated) := by
  intro a b x rest hab h
  have hl := closed_layout hs hab
  rw [readProperty] at h ⊢
  generalize layout spaced a = a at h hl
  generalize layout spaced b = b at hl ⊢
  split at h
  · cases h
  · next a =>
    obtain ⟨b', rfl, hab'⟩ := hl.exists_cons
    simp only
    split at h
    · cases h
    · next name c a hgather =>
      cases h
      obtain ⟨b', hgather', hrest⟩ :=
        closed_gatherAll hs (closed_layout hs hab') hgather (List.cons_ne_nil _ _)
      obtain ⟨b', rfl, hb⟩ := hrest.exists_cons
      rw [hgather']
      exact ⟨b', rfl, hb⟩
  · next c a hopen =>
    obtain ⟨b', rfl, hab'⟩ := hl.exists_cons
    split
    · next hb => cases hb
    · next hb =>
      cases hb
      exact absurd rfl hopen
    · next hb =>
      cases hb
      exact Steady.ite (.error _) (.behindLayout (.ok _) hs) _ _ _ _ hab' h

/-- A brace begins the name of a boundary only where a letter or a hyphen follows. -/
theorem closed_readBoundary_brace {a b rest : List Char} {edge : WordEdge}
    (hab : Closed t ('\x7b' :: a) b) (h : readBoundary spaced ('\x7b' :: a) = .ok (edge, rest)) :
    ∃ rest', readBoundary spaced b = .ok (edge, rest') ∧ Closed t rest rest' := by
  obtain ⟨b, rfl, hab'⟩ := hab.exists_cons
  simp only [readBoundary] at h ⊢
  have hl := closed_layout hs hab'
  split at h
  · cases h
  · next c more ha =>
    rw [ha] at hl
    obtain ⟨more', hb, _⟩ := hl.exists_cons
    rw [hb]
    simp only
    split at h
    · next hc =>
      rw [if_pos hc]
      split at h
      · next name left hgather =>
        obtain ⟨left', hgather', hrest⟩ :=
          closed_gatherAll hs (hb ▸ hl) hgather (List.cons_ne_nil _ _)
        obtain ⟨left', rfl, hleft⟩ := hrest.exists_cons
        rw [hgather']
        simp only
        split at h <;> cases h <;> exact ⟨_, rfl, hleft⟩
      · cases h
    · next hc =>
      rw [if_neg hc]
      cases h
      exact ⟨_, rfl, hab⟩

theorem steady_readBoundary : Steady t (readBoundary spaced) := by
  intro a b edge rest hab h
  by_cases hbrace : ∃ text, a = '\x7b' :: text
  · obtain ⟨a, rfl⟩ := hbrace
    exact closed_readBoundary_brace hs hab h
  · simp only [readBoundary] at h ⊢
    split at h
    · exact absurd ⟨_, rfl⟩ hbrace
    · cases h
      split
      · next b =>
        obtain ⟨a', rfl, _⟩ := hab.of_cons t.ne_brace
        exact absurd ⟨a', rfl⟩ hbrace
      · exact ⟨b, rfl, hab⟩

theorem steady_readEscape : Steady t (readEscape spaced) := by
  refine .of_cons nofun fun c => ?_
  simp only [readEscape]
  have hhex (count : Nat) := (steady_readHex hs count).map Primitive.literal
  have hboundary := (steady_readBoundary hs).map fun e => Primitive.assertion (.word e)
  refine .ite (.error _) (.ite (.ok _) (.ite (hhex 2) (.ite (hhex 4) (.ite (hhex 8)
    (.ite (steady_readProperty hs false) (.ite (steady_readProperty hs true)
      (.ite hboundary ?_)))))))
  cases letterEscapes.lookup c with
  | none => exact .error _
  | some primitive => exact .ok primitive

/-! ## Classes -/

theorem steady_readClassMember : Steady t (readClassMember spaced) := by
  refine .of_cons nofun fun c => ?_
  by_cases hc : c = '\\'
  · subst hc
    exact steady_readEscape hs
  · have hliteral (rest : List Char) :
        readClassMember spaced (c :: rest) = .ok (.literal ⟨c, false⟩, rest) := by
      simp [readClassMember]
    simp only [hliteral]
    exact .ok _

theorem hyphenEnds_of_closed {a b : List Char} (hab : Closed t a b) (ha : spaced = true ∨ a ≠ []) :
    HyphenEnds spaced b ↔ HyphenEnds spaced a :=
  or_congr (closed_glance hs hab ha (.inl rfl)) (closed_glance hs hab ha (.inr rfl))

theorem steady_readClassItem : Steady t (readClassItem spaced) := by
  intro a b item rest hab h
  simp only [readClassItem_eq_ok] at h ⊢
  cases h with
  | single hm hitem hnil hhyphen =>
    obtain ⟨left, hm', hleft⟩ := steady_readClassMember hs _ _ _ _ hab hm
    have hl := closed_layout hs hleft
    refine ⟨_, .single hm' hitem (hl.ne_nil hnil) fun behind hbehind => ?_, hl⟩
    rw [hbehind] at hl
    obtain ⟨behind', hbehind', hclosed⟩ := hl.cons_of_ne_nil hnil
    have hends := hhyphen behind' hbehind'
    refine (hyphenEnds_of_closed hs hclosed ?_).mpr hends
    -- Behind a hyphen at the end of the text the class would not be closed.
    cases spaced with
    | true => exact .inl rfl
    | false =>
      right
      rintro rfl
      simp [HyphenEnds, glance] at hends
  | @range low high _ _ left behind _ hm hleft hend hm' hlow hhigh hle =>
    have hne : behind ≠ [] := by
      rintro rfl
      rw [layout_nil] at hm'
      cases hm'
    obtain ⟨left', hm₁, hclosed⟩ := steady_readClassMember hs _ _ _ _ hab hm
    have hl := closed_layout hs hclosed
    rw [hleft] at hl
    obtain ⟨behind', hleft', hbehind⟩ := hl.exists_cons
    obtain ⟨rest', hm₂, hrest⟩ := steady_readClassMember hs _ _ _ _ (closed_layout hs hbehind) hm'
    have hend' := mt (hyphenEnds_of_closed hs hbehind (.inr hne)).mp hend
    exact ⟨rest', .range hm₁ hleft' hend' hm₂ hlow hhigh hle, hrest⟩

omit hs in
/-- An item is not the last of its text, since the class has to be closed. -/
theorem ne_nil_of_readClassItem {c : Char} {text rest : List Char} {item : ClassTree}
    (h : readClassItem spaced (c :: text) = .ok (item, rest)) : text ≠ [] := by
  rintro rfl
  rw [readClassItem] at h
  by_cases hc : c = '\\'
  · subst hc
    cases h
  · have hmember : readClassMember spaced [c] = .ok (.literal ⟨c, false⟩, []) := by
      simp [readClassMember]
    rw [hmember] at h
    simp only [bind, Except.bind, layout_nil] at h
    cases h

/-! ## Named classes -/

omit hs in
theorem all_isAlpha_of_asciiClass? {name : String} {rs : Unicode.Ranges}
    (h : asciiClass? name = some rs) : ∀ c ∈ name.toList, c.isAlpha = true := by
  rw [← List.all_eq_true]
  unfold asciiClass? at h
  split at h <;> first | decide | cases h

/-- What begins a named class behind its opening bracket. -/
def asciiSign (negated : Bool) : List Char := if negated then [':', '^'] else [':']

omit hs in
theorem readAsciiClass?_of_name {name : List Char} {rs : Unicode.Ranges}
    (h : asciiClass? (String.ofList name) = some rs) (negated : Bool) (rest : List Char) :
    readAsciiClass? (asciiSign negated ++ (name ++ ':' :: ']' :: rest)) =
      some (.ascii rs negated, rest) := by
  have halpha := all_isAlpha_of_asciiClass? h
  rw [String.toList_ofList] at halpha
  have hname : ∀ c ∈ name, (c != ':') = true := by
    intro c hc
    rw [bne_iff_ne]
    rintro rfl
    exact absurd (halpha _ hc) (by decide)
  have hdrop : (name ++ ':' :: ']' :: rest).dropWhile (· != ':') = ':' :: ']' :: rest := by
    rw [List.dropWhile_append_of_pos hname, List.dropWhile_cons_of_neg (by decide)]
  have htake : (name ++ ':' :: ']' :: rest).takeWhile (· != ':') = name := by
    rw [List.takeWhile_append_of_pos hname, List.takeWhile_cons_of_neg (by decide),
      List.append_nil]
  cases negated with
  | true =>
    simp only [asciiSign, if_true, List.cons_append, List.nil_append, readAsciiClass?, hdrop,
      htake, h, Option.map_some]
  | false =>
    -- Letters and a colon are not taken for the sign of negation.
    have hsign : ∀ text, name ++ ':' :: ']' :: rest ≠ '^' :: text := by
      intro text heq
      cases name with
      | nil => cases heq
      | cons c name =>
        cases heq
        exact absurd (halpha '^' List.mem_cons_self) (by decide)
    generalize name ++ ':' :: ']' :: rest = text at hdrop htake hsign ⊢
    change readAsciiClass? (':' :: text) = _
    rw [readAsciiClass?]
    · simp only [hdrop, htake, h, Option.map_some]
    · exact hsign

/-- What follows the sign of a named class. -/
def readAsciiName? (negated : Bool) (text : List Char) : Option (ClassTree × List Char) :=
  match text.dropWhile (· != ':') with
  | ':' :: ']' :: rest =>
    (asciiClass? (String.ofList (text.takeWhile (· != ':')))).map fun rs =>
      (.ascii rs negated, rest)
  | _ => none

omit hs in
theorem readAsciiClass?_eq_some {text rest : List Char} {item : ClassTree}
    (h : readAsciiClass? text = some (item, rest)) :
    ∃ negated name rs, text = asciiSign negated ++ (name ++ ':' :: ']' :: rest) ∧
      asciiClass? (String.ofList name) = some rs ∧ item = .ascii rs negated := by
  have hbody (negated : Bool) (body : List Char)
      (h : readAsciiName? negated body = some (item, rest)) :
      ∃ name rs, body = name ++ ':' :: ']' :: rest ∧
        asciiClass? (String.ofList name) = some rs ∧ item = .ascii rs negated := by
    rw [readAsciiName?] at h
    split at h
    · next rest' hdrop =>
      obtain ⟨rs, hrs, heq⟩ := Option.map_eq_some_iff.mp h
      cases heq
      exact ⟨_, rs, by rw [← hdrop, List.takeWhile_append_dropWhile], hrs, rfl⟩
    · cases h
  cases text with
  | nil => cases h
  | cons c text =>
    by_cases hc : c = ':'
    · subst hc
      by_cases hsign : ∃ body, text = '^' :: body
      · obtain ⟨body, rfl⟩ := hsign
        obtain ⟨name, rs, rfl, hrs, rfl⟩ := hbody true body h
        exact ⟨true, name, rs, rfl, hrs, rfl⟩
      · rw [readAsciiClass?] at h
        · obtain ⟨name, rs, rfl, hrs, rfl⟩ := hbody false text h
          exact ⟨false, name, rs, rfl, hrs, rfl⟩
        · exact fun body hbody => hsign ⟨body, hbody⟩
    · simp [readAsciiClass?, hc] at h

omit hs in
theorem closed_readAsciiClass? {a b rest : List Char} {item : ClassTree} (hab : Closed t a b)
    (h : readAsciiClass? a = some (item, rest)) :
    ∃ rest', readAsciiClass? b = some (item, rest') ∧ Closed t rest rest' := by
  obtain ⟨negated, name, rs, rfl, hrs, rfl⟩ := readAsciiClass?_eq_some h
  rcases hab with rfl | ⟨_, hnil, _⟩
  · refine ⟨rest ++ t.text, ?_, .append t rest⟩
    rw [List.append_assoc, List.append_assoc]
    exact readAsciiClass?_of_name hrs negated (rest ++ t.text)
  · cases negated <;> cases hnil

/-- What stands in a named class, apart from its end. -/
def isNaming (c : Char) : Bool := c.isAlpha || c == ':' || c == '^'

omit hs in
/-- A text that is only with its tail a named class is part of the name and its signs. -/
theorem isNaming_of_readAsciiClass? {a behind rest : List Char} {item : ClassTree}
    (hnone : readAsciiClass? a = none) (h : readAsciiClass? (a ++ behind) = some (item, rest)) :
    ∀ c ∈ a, isNaming c = true := by
  obtain ⟨negated, name, rs, heq, hrs, rfl⟩ := readAsciiClass?_eq_some h
  have halpha := all_isAlpha_of_asciiClass? hrs
  rw [String.toList_ofList] at halpha
  -- If all of the class were in the text, it would be one without the tail.
  have hlong : ¬asciiSign negated ++ (name ++ [':']) ++ [']'] <+: a := by
    rintro ⟨more, rfl⟩
    have hclass := readAsciiClass?_of_name hrs negated more
    simp only [List.append_assoc, List.cons_append, List.nil_append] at hnone
    rw [hnone] at hclass
    cases hclass
  have hshort : a <+: asciiSign negated ++ (name ++ [':']) := by
    have hfront : a <+: asciiSign negated ++ (name ++ ':' :: ']' :: rest) := ⟨behind, heq⟩
    have hwhole : asciiSign negated ++ (name ++ [':']) ++ [']'] <+:
        asciiSign negated ++ (name ++ ':' :: ']' :: rest) := ⟨rest, by simp⟩
    rcases List.prefix_or_prefix_of_prefix hfront hwhole with hle | hle
    · rcases List.prefix_concat_iff.mp hle with rfl | hle
      · exact absurd List.prefix_rfl hlong
      · exact hle
    · exact absurd hle hlong
  intro c hc
  have hmem := hshort.subset hc
  simp only [List.mem_append, List.mem_singleton] at hmem
  rcases hmem with hsign | hname | rfl
  · cases negated with
    | true =>
      simp only [asciiSign, if_true, List.mem_cons, List.not_mem_nil, or_false] at hsign
      rcases hsign with rfl | rfl <;> decide
    | false =>
      rw [List.mem_singleton.mp hsign]
      decide
  · rw [isNaming, halpha c hname]
    rfl
  · decide

omit hs in
/-- Such characters alone never close a class. -/
theorem readClassBody_of_isNaming {fuel : Nat} {pending : Pending} {items : List ClassTree}
    {text : List Char} (h : ∀ c ∈ text, isNaming c = true) (r : ClassTree × List Char) :
    readClassBody spaced fuel pending items text ≠ .ok r := by
  induction fuel generalizing items text with
  | zero => exact nofun
  | succ fuel ih =>
    have hl : ∀ c ∈ layout spaced text, isNaming c = true :=
      fun c hc => h c ((layout_suffix spaced text).subset hc)
    intro hread
    rw [readClassBody_eq_ok] at hread
    generalize layout spaced text = text at hl hread
    cases hread with
    | close => exact absurd (hl ']' List.mem_cons_self) (by decide)
    | named => exact absurd (hl '[' List.mem_cons_self) (by decide)
    | nested => exact absurd (hl '[' List.mem_cons_self) (by decide)
    | operator hop =>
      have hsign := hl _ List.mem_cons_self
      rcases classOp?_eq_some.mp hop with ⟨rfl, -⟩ | ⟨rfl, -⟩ | ⟨rfl, -⟩
      all_goals exact absurd hsign (by decide)
    | item _ hitem hread =>
      cases text with
      | nil => cases hitem
      | cons c rest =>
        -- An item is one character.
        have hmember : readClassMember spaced (c :: rest) = .ok (.literal ⟨c, false⟩, rest) := by
          rw [readClassMember]
          rintro rfl
          exact absurd (hl '\\' List.mem_cons_self) (by decide)
        have hrest : ∀ d ∈ layout spaced rest, isNaming d = true :=
          fun d hd => hl d (List.mem_cons_of_mem c ((layout_suffix spaced rest).subset hd))
        cases readClassItem_eq_ok.mp hitem with
        | single hm =>
          rw [hmember] at hm
          cases hm
          exact ih hrest hread
        | range hm hleft =>
          rw [hmember] at hm
          cases hm
          rw [hleft] at hrest
          exact absurd (hrest '-' List.mem_cons_self) (by decide)

omit hs in
/-- In a class that is closed in the text, what is no named class is none with the tail either. -/
theorem readAsciiClass?_of_closed {a b : List Char} (hab : Closed t a b)
    (h : readAsciiClass? a = none) (ha : a.all isNaming = false) : readAsciiClass? b = none := by
  rcases hab with rfl | ⟨_, rfl, rfl⟩
  · cases hb : readAsciiClass? (a ++ t.text) with
    | none => rfl
    | some r =>
      rw [List.all_eq_true.mpr (isNaming_of_readAsciiClass? h hb)] at ha
      cases ha
  · exact h

/-! ## Classes -/

theorem closed_firstItems {sign negated : Bool} {hyphens items : List ClassTree}
    {a b rest : List Char} (hab : Closed t a b)
    (h : firstItems spaced sign hyphens a = .ok (negated, items, rest)) :
    ∃ rest', firstItems spaced sign hyphens b = .ok (negated, items, rest') ∧
      Closed t rest rest' := by
  unfold firstItems at h ⊢
  split at h
  · cases h
  · next a =>
    obtain ⟨b, rfl, hab'⟩ := hab.exists_cons
    have hl := closed_layout hs hab'
    simp only
    generalize layout spaced a = a at h hl
    generalize layout spaced b = b at hl ⊢
    split at h
    · cases h
    · next hnil =>
      obtain ⟨c, a, rfl⟩ := List.exists_cons_of_ne_nil hnil
      obtain ⟨b, rfl, hab'⟩ := hl.exists_cons
      cases h
      exact ⟨_, rfl, hl⟩
  · next hnil hbracket =>
    obtain ⟨c, a, rfl⟩ := List.exists_cons_of_ne_nil hnil
    obtain ⟨b, rfl, hab'⟩ := hab.exists_cons
    cases h
    split
    · next hb => cases hb
    · next hb =>
      cases hb
      exact absurd rfl (hbracket a rfl)
    · exact ⟨_, rfl, hab⟩

theorem closed_openHyphens {sign negated : Bool} {items : List ClassTree} {a b rest : List Char}
    (hab : Closed t a b) (h : openHyphens spaced sign a = .ok (negated, items, rest)) :
    ∃ rest', openHyphens spaced sign b = .ok (negated, items, rest') ∧ Closed t rest rest' := by
  rw [openHyphens] at h ⊢
  have hne : (gatherAll spaced (· == '-') a).2 ≠ [] := by
    intro hnil
    rw [hnil] at h
    cases h
  obtain ⟨left, hleft, hclosed⟩ := closed_gatherAll hs hab rfl hne
  rw [hleft]
  exact closed_firstItems hs hclosed h

theorem closed_openClass {a b rest : List Char} {negated : Bool} {items : List ClassTree}
    (hab : Closed t a b) (h : openClass spaced a = .ok (negated, items, rest)) :
    ∃ rest', openClass spaced b = .ok (negated, items, rest') ∧ Closed t rest rest' := by
  have hl := closed_layout hs hab
  by_cases hsign : (layout spaced a).head? = some '^'
  · obtain ⟨a', ha⟩ := List.head?_eq_some_iff.mp hsign
    rw [ha] at hl
    obtain ⟨b', hb, hab'⟩ := hl.exists_cons
    rw [openClass_negated ha] at h
    rw [openClass_negated hb]
    exact closed_openHyphens hs (closed_layout hs hab') h
  · rw [openClass_plain hsign] at h
    have hne : layout spaced a ≠ [] := by
      intro hnil
      rw [hnil] at h
      cases h
    rw [openClass_plain (mt (hl.head?_iff (.inl hne)).mp hsign)]
    exact closed_openHyphens hs hl h

section

variable {sign negated : Bool} {hyphens items : List ClassTree} {text rest : List Char}

omit hs in
theorem firstItems_suffix (h : firstItems spaced sign hyphens text = .ok (negated, items, rest)) :
    rest <:+ text := by
  unfold firstItems at h
  split at h
  · cases h
  · split at h
    · cases h
    · cases h
      exact (layout_suffix _ _).trans (List.suffix_cons _ _)
  · cases h
    exact List.suffix_rfl

omit hs in
theorem openHyphens_suffix (h : openHyphens spaced sign text = .ok (negated, items, rest)) :
    rest <:+ text :=
  (firstItems_suffix h).trans (gather_suffix _ _ _ _)

omit hs in
theorem openClass_suffix (h : openClass spaced text = .ok (negated, items, rest)) :
    rest <:+ text := by
  by_cases hsign : (layout spaced text).head? = some '^'
  · obtain ⟨behind, hbehind⟩ := List.head?_eq_some_iff.mp hsign
    rw [openClass_negated hbehind] at h
    exact ((openHyphens_suffix h).trans (layout_suffix _ _)).trans (suffix_of_layout hbehind)
  · rw [openClass_plain hsign] at h
    exact (openHyphens_suffix h).trans (layout_suffix _ _)

end

omit hs in
/-- Where a class is read as one within a class, and not by a name, the tail gives it no name: a
name would run on to the end of the text, and nothing would close the class. -/
theorem readAsciiClass?_of_readClassBody {fuel : Nat} {pending : Pending}
    {items : List ClassTree} {a b left : List Char} {negated : Bool}
    {r : ClassTree × List Char} (hab : Closed t a b) (hnone : readAsciiClass? a = none)
    (hopen : openClass spaced a = .ok (negated, items, left))
    (hbody : readClassBody spaced fuel pending items left = .ok r) :
    readAsciiClass? b = none := by
  refine readAsciiClass?_of_closed hab hnone ?_
  cases hall : a.all isNaming with
  | false => rfl
  | true =>
    rw [List.all_eq_true] at hall
    exact absurd hbody (readClassBody_of_isNaming
      (fun c hc => hall c ((openClass_suffix hopen).subset hc)) _)

omit hs in
/-- What begins an item in the text begins it in front of the tail: the item is not the last of the
text, so no sign of the tail doubles one of the text. -/
theorem BeginsItem.closed {a b rest : List Char} {item : ClassTree} (h : BeginsItem a)
    (hab : Closed t a b) (hitem : readClassItem spaced a = .ok (item, rest)) : BeginsItem b := by
  cases a with
  | nil => cases hitem
  | cons c a =>
    obtain ⟨b, rfl, hab'⟩ := hab.exists_cons
    have hne := ne_nil_of_readClassItem hitem
    refine ⟨h.ne_open, h.ne_close, fun sign op left hop => ?_⟩
    exact hab'.ne_double hne (fun rest => h.ne_operator sign op rest hop) left

theorem closed_readClassBody {fuel fuel' : Nat} {pending : Pending} {items : List ClassTree}
    {a b rest : List Char} {tree : ClassTree} (hab : Closed t a b) (hfuel : fuel ≤ fuel')
    (h : readClassBody spaced fuel pending items a = .ok (tree, rest)) :
    ∃ rest', readClassBody spaced fuel' pending items b = .ok (tree, rest') ∧
      Closed t rest rest' := by
  induction fuel generalizing fuel' pending items a b rest tree with
  | zero => cases h
  | succ fuel ih =>
    obtain ⟨fuel', rfl⟩ := Nat.exists_eq_succ_of_ne_zero (Nat.ne_zero_of_lt hfuel)
    have hle := Nat.le_of_succ_le_succ hfuel
    have hl := closed_layout hs hab
    rw [readClassBody_eq_ok] at h
    simp only [readClassBody_eq_ok]
    generalize layout spaced a = a at h hl
    generalize layout spaced b = b at hl ⊢
    cases h with
    | close =>
      obtain ⟨b, rfl, hab'⟩ := hl.exists_cons
      exact ⟨b, .close, hab'⟩
    | named hitem h =>
      obtain ⟨b, rfl, hab'⟩ := hl.exists_cons
      obtain ⟨_, hitem', hleft⟩ := closed_readAsciiClass? hab' hitem
      obtain ⟨rest', h', hrest⟩ := ih hleft hle h
      exact ⟨rest', .named hitem' h', hrest⟩
    | nested hnone hopen hbody h =>
      obtain ⟨b, rfl, hab'⟩ := hl.exists_cons
      have hnone' := readAsciiClass?_of_readClassBody hab' hnone hopen hbody
      obtain ⟨_, hopen', hinner⟩ := closed_openClass hs hab' hopen
      obtain ⟨_, hbody', hleft⟩ := ih hinner hle hbody
      obtain ⟨rest', h', hrest⟩ := ih hleft hle h
      exact ⟨rest', .nested hnone' hopen' hbody' h', hrest⟩
    | operator hop h =>
      obtain ⟨b, rfl, hsign⟩ := hl.exists_cons
      obtain ⟨b, rfl, hab'⟩ := hsign.exists_cons
      obtain ⟨rest', h', hrest⟩ := ih hab' hle h
      exact ⟨rest', .operator hop h', hrest⟩
    | item hbegins hitem h =>
      obtain ⟨_, hitem', hleft⟩ := steady_readClassItem hs _ _ _ _ hl hitem
      obtain ⟨rest', h', hrest⟩ := ih hleft hle h
      exact ⟨rest', .item (hbegins.closed hl hitem) hitem' h', hrest⟩

theorem steady_readClass : Steady t (readClass spaced) := by
  intro a b x rest hab h
  rw [readClass] at h ⊢
  split at h
  · cases h
  · next negated first a hopen =>
    obtain ⟨b, hopen', hab'⟩ := closed_openClass hs hab hopen
    rw [hopen']
    simp only
    split at h
    · cases h
    · next body a hbody =>
      cases h
      obtain ⟨b, hbody', hab'⟩ :=
        closed_readClassBody hs hab' (Nat.succ_le_succ hab'.length_le) hbody
      rw [hbody']
      exact ⟨b, rfl, hab'⟩

end

end TemplateMatch.Regex
