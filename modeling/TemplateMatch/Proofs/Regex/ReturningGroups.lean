import TemplateMatch.Proofs.Regex.ClosingGroups
import TemplateMatch.Proofs.Regex.ReturningClasses

/-!
Groups, repetitions and expressions return from a closed text. So the anchors hide one fault of a
text only: what is an expression between them is one on its own or has a parenthesis that closes too
much (`Tree.read_of_between`).
-/

namespace TemplateMatch.Regex

variable {spaced : Bool} {a b rest : List Char}

/-! ## Groups -/

theorem readFlagItems_suffix {items found : List FlagItem}
    (h : readFlagItems items b = .ok (found, rest)) : rest <:+ b := by
  induction b generalizing items with
  | nil => cases h
  | cons c b ih =>
    rw [readFlagItems] at h
    split at h
    · split at h
      · cases h
      · cases h
        exact List.suffix_rfl
    · simp only at h
      split at h
      · cases h
      · split at h
        · cases h
        · exact (ih h).trans (List.suffix_cons c b)

/-- Switches return if the character that ends them is of the text. -/
theorem readFlagItems_back {items found : List FlagItem}
    (h : readFlagItems items (a ++ closing) = .ok (found, rest ++ closing)) (hrest : rest ≠ []) :
    readFlagItems items a = .ok (found, rest) := by
  induction a generalizing items with
  | nil =>
    have hlen := (readFlagItems_suffix h).length_le
    rw [List.length_append, List.length_append, List.length_nil] at hlen
    exact absurd (List.eq_nil_of_length_eq_zero (by omega)) hrest
  | cons c a ih =>
    rw [List.cons_append, readFlagItems] at h
    rw [readFlagItems]
    split at h
    · next hc =>
      rw [if_pos hc]
      exact ((Returns.error _).ite (Returns.ok _)).back h
    · next hc =>
      rw [if_neg hc]
      simp only at h ⊢
      split at h
      · cases h
      · split at h
        · cases h
        · next hfresh =>
          rw [if_neg hfresh]
          exact ih h

theorem returns_readGroupName (names : List String) : Returns (readGroupName names) := by
  intro name b rest h
  rw [readGroupName] at h
  split at h
  · cases h
  · cases h
  · next c cs d more htake hdrop =>
    have hname : Returns fun text : List Char =>
        if isNameStart c && cs.all isNamePart then
          let name := String.ofList (c :: cs)
          if names.contains name then .error .groupNameRepeated else .ok (name, text)
        else .error .groupNameInvalid :=
      .ite (.ite (.error _) (.ok _)) (.error _)
    have hsuffix := hname.suffix h
    have hmore : more <:+ b := (List.suffix_cons d more).trans (hdrop ▸ List.dropWhile_suffix _)
    refine ⟨hsuffix.trans hmore, ?_⟩
    rintro a rest' rfl rfl
    -- The closing has no angle bracket to end a name.
    obtain ⟨more, rfl⟩ := exists_append_closing hsuffix
    obtain ⟨hdrop', htake'⟩ := span_back (by decide) hdrop
    rw [readGroupName, ← htake', htake, hdrop']
    exact hname.back h

section

variable {st st' : Reading} {opening : Opening}

theorem leaves_readNamed : Leaves fun b rest => readNamed st b = .ok (opening, st', rest) := by
  intro b rest h
  obtain ⟨⟨name, left⟩, hname, heq⟩ := bind_eq_ok.mp h
  cases heq
  refine ⟨(returns_readGroupName st.names).suffix hname, ?_⟩
  rintro a rest' rfl rfl
  exact bind_eq_ok.mpr ⟨_, (returns_readGroupName st.names).back hname, rfl⟩

theorem leaves_readSwitches :
    Leaves fun b rest => readSwitches st b = .ok (opening, st', rest) := by
  intro b rest h
  obtain ⟨items, c, hflags, hread⟩ := exists_flags_of_readSwitches h
  refine ⟨(List.suffix_cons c rest).trans (readFlagItems_suffix hflags), ?_⟩
  rintro a rest' rfl rfl
  rw [← List.cons_append] at hflags
  exact hread a rest' (readFlagItems_back hflags (List.cons_ne_nil c rest'))

theorem leaves_openingRead : Leaves fun b rest => OpeningRead st b opening st' rest := by
  intro b rest h
  cases h with
  | plain hhead =>
    refine ⟨List.suffix_rfl, ?_⟩
    rintro a rest' rfl heq
    obtain rfl := append_closing_inj.mp heq
    exact .plain (mt head?_append_closing hhead)
  | lettered h =>
    have hname := leaves_readNamed.suffix h
    have hangle := hname.trans (List.suffix_cons '<' _)
    have hletter := hangle.trans (List.suffix_cons 'P' _)
    refine ⟨hletter.trans (List.suffix_cons '?' _), ?_⟩
    rintro a rest' ha rfl
    obtain ⟨a, rfl, hp⟩ := exists_cons_of_closed ha.symm hletter
    obtain ⟨a, rfl, hb⟩ := exists_cons_of_closed hp.symm hangle
    obtain ⟨a, rfl, rfl⟩ := exists_cons_of_closed hb.symm hname
    exact .lettered (leaves_readNamed.back h)
  | angled hhead h =>
    have hname := leaves_readNamed.suffix h
    have hangle := hname.trans (List.suffix_cons '<' _)
    refine ⟨hangle.trans (List.suffix_cons '?' _), ?_⟩
    rintro a rest' ha rfl
    obtain ⟨a, rfl, hb⟩ := exists_cons_of_closed ha.symm hangle
    obtain ⟨a, rfl, rfl⟩ := exists_cons_of_closed hb.symm hname
    exact .angled (fun c hc => hhead c (head?_append_closing hc)) (leaves_readNamed.back h)
  | switches hhead h =>
    have hswitches := leaves_readSwitches.suffix h
    refine ⟨hswitches.trans (List.suffix_cons '?' _), ?_⟩
    rintro a rest' ha rfl
    obtain ⟨a, rfl, rfl⟩ := exists_cons_of_closed ha.symm hswitches
    exact .switches (fun c hc => hhead c (head?_append_closing hc)) (leaves_readSwitches.back h)

theorem leaves_readOpening : Leaves fun b rest => readOpening st b = .ok (opening, st', rest) := by
  simp only [readOpening_eq_ok]
  exact leaves_openingRead.behindLayout st.spaced

end

/-! ## Repetition -/

theorem returns_readCount (spaced : Bool) : Returns (readCount spaced) := by
  intro n b rest h
  rw [readCount] at h
  split at h
  · cases h
  · next digits left hne hdigits =>
    simp only at h
    split at h
    · next hsmall =>
      cases h
      have hleft := gatherAll_suffix hdigits
      refine ⟨((List.dropWhile_suffix _).trans hleft).trans (List.dropWhile_suffix _), ?_⟩
      rintro a rest' rfl hrest
      obtain ⟨left, rfl⟩ := exists_append_closing (hrest ▸ List.dropWhile_suffix _)
      obtain ⟨text, htext⟩ := exists_append_closing (hleft.trans List.suffix_rfl)
      rw [htext] at hdigits
      rw [readCount, dropWhile_back rfl htext, gatherAll_back hdigits]
      split
      · next heq =>
        cases heq
        exact absurd rfl hne
      · next heq =>
        cases heq
        simp only
        rw [if_pos hsmall, dropWhile_back rfl hrest]
    · cases h

/-- A brace follows the upper bound, so this does not end with the text in front of the closing. -/
theorem returns_readUpper (spaced : Bool) (low : Nat) : Returns (readUpper spaced low) := by
  intro x b rest h
  rw [readUpper] at h
  split at h
  · next left hb =>
    cases h
    refine ⟨suffix_of_layout hb, ?_⟩
    rintro a rest' rfl rfl
    have ha : layout spaced a = '\x7d' :: rest' := layout_back hb
    rw [readUpper, ha]
    rfl
  · next hbrace =>
    obtain ⟨⟨high, left⟩, hhigh, h⟩ := bind_eq_ok.mp h
    split at h
    · next heq =>
      cases heq
      split at h
      · next hle =>
        cases h
        have hleft := (List.suffix_cons _ _).trans ((returns_readCount spaced).suffix hhigh)
        refine ⟨hleft.trans (layout_suffix spaced b), ?_⟩
        rintro a rest' rfl rfl
        obtain ⟨text, htext⟩ := exists_append_closing hleft
        rw [htext] at hhigh hbrace
        rw [← List.cons_append] at hhigh
        rw [readUpper, layout_back htext]
        split
        · exact absurd rfl (hbrace _)
        · exact bind_eq_ok.mpr ⟨_, (returns_readCount spaced).back hhigh, if_pos hle⟩
      · cases h
    · cases h

theorem returns_readBounds (spaced : Bool) : Returns (readBounds spaced) := by
  have hcount := (returns_readCount spaced).behindLayout spaced
  intro x b rest h
  obtain ⟨⟨low, left⟩, hlow, h⟩ := bind_eq_ok.mp h
  simp only at h
  split at h
  · cases h
    refine ⟨(List.suffix_cons _ _).trans (hcount.suffix hlow), ?_⟩
    rintro a rest' rfl rfl
    rw [← List.cons_append] at hlow
    exact bind_eq_ok.mpr ⟨_, hcount.back hlow, rfl⟩
  · next text =>
    have hupper := returns_readUpper spaced low
    have hsuffix := hupper.suffix h
    refine ⟨(hsuffix.trans (List.suffix_cons _ _)).trans (hcount.suffix hlow), ?_⟩
    rintro a rest' rfl rfl
    obtain ⟨text, rfl⟩ := exists_append_closing hsuffix
    rw [← List.cons_append] at hlow
    exact bind_eq_ok.mpr ⟨_, hcount.back hlow, hupper.back h⟩
  · cases h

theorem returns_readOperator (spaced : Bool) (op : Char) : Returns (readOperator spaced op) := by
  unfold readOperator
  split
  · exact .ok _
  · exact .ok _
  · exact .ok _
  · have hbounds := (returns_readBounds spaced).bind fun bounds =>
      (Returns.ok bounds).behindLayout spaced
    have hmap (text : List Char) : (readBounds spaced text >>= fun r =>
        (.ok (r.1, layout spaced r.2) : Except Fault _)) =
        (readBounds spaced text).map fun r => (r.1, layout spaced r.2) := by
      cases readBounds spaced text <;> rfl
    simpa only [hmap] using hbounds

theorem returns_readGreed (bounds : Nat × Option Nat) : Returns (readGreed bounds) := by
  intro x b rest h
  unfold readGreed at h
  split at h
  · cases h
    refine ⟨List.suffix_cons _ _, ?_⟩
    rintro a rest' hb rfl
    obtain ⟨a, rfl, hrest⟩ := exists_cons_of_closed hb.symm List.suffix_rfl
    obtain rfl := append_closing_inj.mp hrest
    rfl
  · next hquestion =>
    cases h
    refine ⟨List.suffix_rfl, ?_⟩
    rintro a rest' rfl hrest
    obtain rfl := append_closing_inj.mp hrest
    unfold readGreed
    split
    · exact absurd rfl (hquestion _)
    · rfl

theorem returns_readRepetition (spaced : Bool) (op : Char) :
    Returns (readRepetition spaced op) := by
  have h := (returns_readOperator spaced op).bind returns_readGreed
  simpa only [← readRepetition_eq] using h

/-! ## Items -/

theorem returns_readPrimitive {c : Char} (hc : c ≠ '\\') : Returns (readPrimitive spaced c) := by
  unfold readPrimitive
  simp only [if_neg hc]
  exact .ite (.ok _) (.ite (.ok _) (.ite (.ok _) (.ok _)))

theorem readPrimitive_suffix {c : Char} {p : Primitive}
    (h : readPrimitive spaced c b = .ok (p, rest)) : rest <:+ b := by
  by_cases hc : c = '\\'
  · rw [readPrimitive, if_pos hc] at h
    exact (readEscape_suffix h).trans (List.tail_suffix b)
  · exact (returns_readPrimitive hc).suffix h

theorem readPrimitive_back {c : Char} {p : Primitive}
    (h : readPrimitive spaced c (a ++ closing) = .ok (p, rest ++ closing)) :
    readPrimitive spaced c a = .ok (p, rest) ∨ OpenBrace spaced rest := by
  by_cases hc : c = '\\'
  · rw [readPrimitive, if_pos hc] at h ⊢
    exact (readEscape_back h).imp id And.left
  · exact .inl ((returns_readPrimitive hc).back h)

section

variable {st st' : Reading} {items items' : List Tree}

theorem ItemRead.properEnd (h : ItemRead st items b st' items' rest) : ProperEnd b rest := by
  cases h with
  | switch hopen => exact .of_cons (leaves_readOpening.suffix hopen)
  | bracket hclass => exact .of_cons (returns_readClass.suffix hclass)
  | repetition _ _ hrepetition =>
    exact .of_cons ((returns_readRepetition _ _).suffix hrepetition)
  | primitive _ hprimitive => exact .of_cons (readPrimitive_suffix hprimitive)

theorem ItemRead.back (h : ItemRead st items (a ++ closing) st' items' (rest ++ closing)) :
    ItemRead st items a st' items' rest ∨ OpenBrace st'.spaced rest := by
  generalize hb : a ++ closing = b at h
  generalize hclosed : rest ++ closing = left at h
  cases h with
  | switch hopen =>
    subst hclosed
    obtain ⟨a, rfl, rfl⟩ := exists_cons_of_closed hb (leaves_readOpening.suffix hopen)
    exact .inl (.switch (leaves_readOpening.back hopen))
  | bracket hclass =>
    subst hclosed
    obtain ⟨a, rfl, rfl⟩ := exists_cons_of_closed hb (returns_readClass.suffix hclass)
    exact .inl (.bracket (returns_readClass.back hclass))
  | repetition hop hoperand hrepetition =>
    subst hclosed
    have hreturns := returns_readRepetition st.spaced
    obtain ⟨a, rfl, rfl⟩ := exists_cons_of_closed hb ((hreturns _).suffix hrepetition)
    exact .inl (.repetition hop hoperand ((hreturns _).back hrepetition))
  | primitive hsign hprimitive =>
    subst hclosed
    obtain ⟨a, rfl, rfl⟩ := exists_cons_of_closed hb (readPrimitive_suffix hprimitive)
    exact (readPrimitive_back hprimitive).imp (.primitive hsign) id

end

/-! ## Expressions -/

section

variable {fuel fuel' : Nat} {st st' : Reading} {branches items : List Tree} {tree : Tree}

/-- What is left of an expression is an end of the text, empty or from a parenthesis on. -/
theorem readBranches_left (h : readBranches fuel st branches items b = .ok (tree, st', rest)) :
    rest <:+ layout st.spaced b ∧ ∀ c ∈ rest.head?, c = ')' := by
  induction fuel generalizing st st' branches items b rest tree with
  | zero => cases h
  | succ fuel ih =>
    have hsuffix {st st' : Reading} {branches items : List Tree} {b rest : List Char} {tree : Tree}
        (h : readBranches fuel st branches items b = .ok (tree, st', rest)) : rest <:+ b :=
      (ih h).1.trans (layout_suffix st.spaced b)
    rw [readBranches_eq_ok] at h
    generalize layout st.spaced b = b at h ⊢
    cases h with
    | stop hstop => exact ⟨List.suffix_rfl, hstop⟩
    | bar h => exact ⟨(hsuffix h).trans (List.suffix_cons '|' _), (ih h).2⟩
    | item hitem h => exact ⟨(hsuffix h).trans hitem.properEnd.suffix, (ih h).2⟩
    | group hopen hbody h =>
      have hbehind := (hsuffix h).trans ((List.suffix_cons _ _).trans (hsuffix hbody))
      have hopened := leaves_readOpening.suffix hopen
      exact ⟨(hbehind.trans hopened).trans (List.suffix_cons '(' _), (ih h).2⟩

theorem readBranches_suffix (h : readBranches fuel st branches items b = .ok (tree, st', rest)) :
    rest <:+ b :=
  (readBranches_left h).1.trans (layout_suffix st.spaced b)

/-- An expression that stops inside a closed text leaves all of the closing. -/
theorem exists_append_closing_of_stop {c : Char}
    (h : readBranches fuel st branches items (a ++ closing) = .ok (tree, st', c :: rest)) :
    ∃ left, c :: rest = left ++ closing := by
  obtain rfl : c = ')' := (readBranches_left h).2 c rfl
  have hsuffix := readBranches_suffix h
  rcases List.suffix_or_suffix_of_suffix hsuffix (List.suffix_append a closing) with hshort | hlong
  · rcases List.suffix_cons_iff.mp hshort with heq | htail
    · exact ⟨[], heq⟩
    · -- There is one parenthesis in the closing, the first character.
      exact absurd (htail.subset List.mem_cons_self) (by decide)
  · obtain ⟨left, hleft⟩ := hlong
    exact ⟨left, hleft.symm⟩

theorem readCount_of_closed (h : Closed .closing [] b) :
    readCount spaced b = .error .countEmpty := by
  rcases h.of_nil with rfl | rfl <;> cases spaced <;> rfl

/-- A brace that nothing but the closing follows is no count. -/
theorem readBranches_openBrace {text : List Char} {r : Tree × Reading × List Char}
    (hopen : OpenBrace st.spaced text) :
    readBranches fuel st branches items (text ++ closing) ≠ .ok r := by
  intro h
  obtain ⟨more, rfl, hmore⟩ := hopen
  cases fuel with
  | zero => cases h
  | succ fuel =>
    have hbrace (rest : List Char) : layout st.spaced ('\x7b' :: rest) = '\x7b' :: rest := by
      cases st.spaced <;> rfl
    rw [readBranches_eq_ok, List.cons_append, hbrace] at h
    generalize hb : '\x7b' :: (more ++ closing) = b at h
    cases h with
    | stop hstop =>
      subst hb
      exact absurd (hstop _ rfl) (by decide)
    | bar => exact absurd (List.cons.inj hb).1 (by decide)
    | group => exact absurd (List.cons.inj hb).1 (by decide)
    | item hitem =>
      cases hitem with
      | switch => exact absurd (List.cons.inj hb).1 (by decide)
      | bracket => exact absurd (List.cons.inj hb).1 (by decide)
      | primitive hsign =>
        obtain ⟨rfl, -⟩ := List.cons.inj hb
        exact absurd hsign (by decide)
      | repetition _ _ hrepetition =>
        obtain ⟨rfl, rfl⟩ := List.cons.inj hb
        have hclosed : Closed .closing (layout st.spaced more)
            (layout st.spaced (more ++ closing)) :=
          closed_layout (fun _ => rfl) (.append .closing more)
        rw [hmore] at hclosed
        rw [readRepetition_eq, readOperator, readBounds, readCount_of_closed hclosed] at hrepetition
        · cases hrepetition
        all_goals exact fun hop => absurd hop (by decide)

/-- By the rounds of the closed text, each of which leaves all of the closing. -/
theorem readBranches_back
    (h : readBranches fuel st branches items (a ++ closing) = .ok (tree, st', rest ++ closing))
    (hfuel : a.length < fuel') :
    readBranches fuel' st branches items a = .ok (tree, st', rest) := by
  induction fuel generalizing fuel' st st' branches items a rest tree with
  | zero => cases h
  | succ fuel ih =>
    obtain ⟨fuel', rfl⟩ := Nat.exists_eq_succ_of_ne_zero (Nat.ne_zero_of_lt hfuel)
    have hlen := length_layout_le st.spaced a
    obtain ⟨text, htext⟩ := exists_append_closing (readBranches_left h).1
    rw [readBranches_eq_ok, htext] at h
    rw [layout_back htext] at hlen
    rw [readBranches_eq_ok, layout_back htext]
    generalize hb : text ++ closing = b at h
    generalize hr : (tree, st', rest ++ closing) = r at h
    cases h with
    | stop hstop =>
      subst hb
      obtain ⟨rfl, hst⟩ := Prod.mk.inj hr
      obtain ⟨rfl, hrest⟩ := Prod.mk.inj hst
      obtain rfl := append_closing_inj.mp hrest
      exact .stop fun c hc => hstop c (head?_append_closing hc)
    | bar h =>
      subst hr
      obtain ⟨text, rfl, rfl⟩ := exists_cons_of_closed hb (readBranches_suffix h)
      rw [List.length_cons] at hlen
      exact .bar (ih h (by omega))
    | item hitem h =>
      subst hr hb
      obtain ⟨left, rfl⟩ := exists_append_closing (readBranches_suffix h)
      have hlt := hitem.properEnd.length_lt
      rw [List.length_append, List.length_append] at hlt
      rcases hitem.back with hitem | hbrace
      · exact .item hitem (ih h (by omega))
      · exact absurd h (readBranches_openBrace hbrace)
    | group hopen hbody h =>
      subst hr
      obtain ⟨behind, rfl⟩ := exists_append_closing (readBranches_suffix h)
      rw [← List.cons_append] at hbody
      have hinside := readBranches_suffix hbody
      obtain ⟨left, rfl⟩ := exists_append_closing hinside
      have hopened := leaves_readOpening.suffix hopen
      obtain ⟨text, rfl, rfl⟩ := exists_cons_of_closed hb hopened
      have hle := hinside.length_le
      have hle' := hopened.length_le
      simp only [List.length_append, List.length_cons] at hlen hle hle'
      exact .group (leaves_readOpening.back hopen) (ih hbody (by omega)) (ih h (by omega))

end

namespace Tree

variable {body : List Char} {whole : Tree}

/-- What is an expression between the anchors is one on its own, or else it closes a group that it
has not opened. -/
theorem read_of_between
    (h : read ('\\' :: 'A' :: '(' :: '?' :: ':' :: (body ++ closing)) = .ok whole) :
    (∃ tree, read body = .ok tree) ∨ read body = .error .groupUnopened := by
  have hwhole := h
  rw [read] at h
  split at h
  · cases h
  · cases h
  · next hread =>
    rw [List.length_cons, List.length_cons, List.length_cons, List.length_cons, List.length_cons,
      readBranches_opened] at hread
    split at hread
    · cases hread
    · cases hread
    · next tree inner c rest hinside =>
      -- The inside of the group stops in front of a parenthesis, of the closing or before it.
      obtain ⟨left, hleft⟩ := exists_append_closing_of_stop hinside
      rw [hleft] at hinside
      have hbody := readBranches_back hinside (Nat.lt_succ_self body.length)
      rw [read, hbody]
      cases left with
      | nil =>
        left
        rw [read_of_inside hinside] at hwhole
        split at hwhole
        · next hheight =>
          have hheight : tree.height ≤ heightLimit := by omega
          exact ⟨tree, by simp only [if_pos hheight]⟩
        · cases hwhole
      | cons d left => exact .inr rfl

end Tree

end TemplateMatch.Regex
