import TemplateMatch.Proofs.Regex.ClosingClasses
import TemplateMatch.Proofs.Regex.Rounds

/-!
Groups, repetitions and primitives are read from a text in front of a tail as from the text alone.
Where the tail closes the group around a template, so is a whole expression: what is an expression
on its own is one expression inside the anchors (`Tree.read_between`).
-/

namespace TemplateMatch.Regex

variable {t : Tail}

/-! ## Groups -/

theorem steady_readFlagItems (items : List FlagItem) : Steady t (readFlagItems items) := by
  intro a b x rest hab h
  induction a generalizing items b with
  | nil => cases h
  | cons c a ih =>
    obtain ⟨b, rfl, hab'⟩ := hab.exists_cons
    rw [readFlagItems] at h ⊢
    split at h
    · next hc =>
      rw [if_pos hc]
      exact Steady.ite (.error _) (.ok _) _ _ _ _ hab h
    · next hc =>
      rw [if_neg hc]
      simp only at h ⊢
      split at h
      · cases h
      · next item hitem =>
        split at h
        · cases h
        · next hfresh =>
          rw [if_neg hfresh]
          exact ih _ _ hab' h

/-- The colon or the parenthesis is kept. -/
theorem exists_cons_of_readFlagItems {items found : List FlagItem} {text rest : List Char}
    (h : readFlagItems items text = .ok (found, rest)) : ∃ c rest', rest = c :: rest' := by
  induction text generalizing items with
  | nil => cases h
  | cons c text ih =>
    rw [readFlagItems] at h
    split at h
    · split at h
      · cases h
      · cases h
        exact ⟨c, text, rfl⟩
    · simp only at h
      split at h
      · cases h
      · split at h
        · cases h
        · exact ih h

theorem steady_readGroupName (names : List String) : Steady t (readGroupName names) := by
  intro a b x rest hab h
  rcases hab with rfl | ⟨_, rfl, rfl⟩
  · rw [readGroupName] at h ⊢
    cases hdrop : a.dropWhile (· != '>') with
    | nil =>
      rw [hdrop] at h
      cases h
    | cons d more =>
      -- The name ends at the first angle bracket, which is in front of the tail.
      obtain ⟨hdrop', htake⟩ := span_append hdrop t.text
      rw [hdrop] at h
      rw [hdrop', htake]
      split at h
      · next hnil => cases hnil
      · cases h
      · next hname hmore =>
        cases hmore
        rw [hname]
        simp only
        split at h
        · next hvalid =>
          rw [if_pos hvalid]
          exact Steady.ite (.error _) (.ok _) _ _ _ _ (.append t more) h
        · cases h
  · cases h

section

variable {st st' : Reading} {opening : Opening} {a b rest : List Char}

theorem closed_readNamed (hab : Closed t a b) (h : readNamed st a = .ok (opening, st', rest)) :
    ∃ rest', readNamed st b = .ok (opening, st', rest') ∧ Closed t rest rest' := by
  obtain ⟨⟨name, a⟩, hname, heq⟩ := bind_eq_ok.mp h
  cases heq
  obtain ⟨b, hname', hrest⟩ := steady_readGroupName _ _ _ _ _ hab hname
  exact ⟨b, bind_eq_ok.mpr ⟨_, hname', rfl⟩, hrest⟩

/-- The switches and the character that ends them decide what is read. -/
theorem exists_flags_of_readSwitches (h : readSwitches st a = .ok (opening, st', rest)) :
    ∃ items c, readFlagItems [] a = .ok (items, c :: rest) ∧
      ∀ text rest', readFlagItems [] text = .ok (items, c :: rest') →
        readSwitches st text = .ok (opening, st', rest') := by
  obtain ⟨⟨items, left⟩, hflags, h⟩ := bind_eq_ok.mp h
  obtain ⟨c, left, rfl⟩ := exists_cons_of_readFlagItems hflags
  by_cases hc : c = ')'
  · subst hc
    cases items with
    | nil => cases h
    | cons item items =>
      cases h
      exact ⟨item :: items, ')', hflags, fun text rest' htext => bind_eq_ok.mpr ⟨_, htext, rfl⟩⟩
  · simp only [List.cons.injEq, hc, false_and, imp_self, implies_true] at h
    cases h
    refine ⟨items, c, hflags, fun text rest' htext => bind_eq_ok.mpr ⟨_, htext, ?_⟩⟩
    simp only [List.cons.injEq, hc, false_and, imp_self, implies_true]
    rfl

theorem closed_readSwitches (hab : Closed t a b)
    (h : readSwitches st a = .ok (opening, st', rest)) :
    ∃ rest', readSwitches st b = .ok (opening, st', rest') ∧ Closed t rest rest' := by
  obtain ⟨items, c, hflags, hread⟩ := exists_flags_of_readSwitches h
  obtain ⟨left, hflags', hleft⟩ := steady_readFlagItems [] _ _ _ _ hab hflags
  obtain ⟨rest', rfl, hrest⟩ := hleft.exists_cons
  exact ⟨rest', hread b rest' hflags', hrest⟩

theorem closed_openingRead (hab : Closed t a b) (h : OpeningRead st a opening st' rest) :
    ∃ rest', OpeningRead st b opening st' rest' ∧ Closed t rest rest' := by
  cases h with
  | plain hhead => exact ⟨b, .plain (mt (hab.head?_iff (.inr t.ne_question)).mp hhead), hab⟩
  | lettered h =>
    obtain ⟨_, rfl, hp⟩ := hab.exists_cons
    obtain ⟨_, rfl, hangle⟩ := hp.exists_cons
    obtain ⟨_, rfl, hname⟩ := hangle.exists_cons
    obtain ⟨rest', h', hrest⟩ := closed_readNamed hname h
    exact ⟨rest', .lettered h', hrest⟩
  | @angled _ _ a _ hhead h =>
    obtain ⟨_, rfl, hangle⟩ := hab.exists_cons
    obtain ⟨_, rfl, hname⟩ := hangle.exists_cons
    -- A name is never empty, so what is told by its first character is told without the tail.
    have ha : a ≠ [] := by
      rintro rfl
      cases h
    obtain ⟨rest', h', hrest⟩ := closed_readNamed hname h
    exact ⟨rest', .angled (fun c hc => hhead c ((hname.head?_iff (.inl ha)).mp hc)) h', hrest⟩
  | @switches _ _ a _ hhead h =>
    obtain ⟨_, rfl, hab'⟩ := hab.exists_cons
    -- Switches end with a colon or a parenthesis, so they are not empty either.
    have ha : a ≠ [] := by
      rintro rfl
      cases h
    obtain ⟨rest', h', hrest⟩ := closed_readSwitches hab' h
    exact ⟨rest', .switches (fun c hc => hhead c ((hab'.head?_iff (.inl ha)).mp hc)) h', hrest⟩

theorem closed_readOpening (hs : t.Allows st.spaced) (hab : Closed t a b)
    (h : readOpening st a = .ok (opening, st', rest)) :
    ∃ rest', readOpening st b = .ok (opening, st', rest') ∧ Closed t rest rest' := by
  simp only [readOpening_eq_ok] at h ⊢
  exact closed_openingRead (closed_layout hs hab) h

end

/-! ## Repetition -/

/-- A count is read from the text alone if something of the text is left behind it. -/
theorem closed_readCount {spaced : Bool} (hs : t.Allows spaced) {a b rest : List Char} {n : Nat}
    (hab : Closed t a b) (h : readCount spaced a = .ok (n, rest)) (hrest : rest ≠ []) :
    ∃ rest', readCount spaced b = .ok (n, rest') ∧ Closed t rest rest' := by
  rw [readCount] at h ⊢
  split at h
  · cases h
  · next digits a' hne hdigits =>
    -- There is a digit behind the blanks, and something behind the digits.
    have hfront : a.dropWhile Unicode.isBlank ≠ [] := by
      intro hnil
      rw [hnil] at hdigits
      cases hdigits
      exact absurd rfl hne
    simp only at h
    split at h
    · next hsmall =>
      cases h
      have hleft : a' ≠ [] := by
        rintro rfl
        exact hrest rfl
      obtain ⟨b', hdigits', hclosed⟩ :=
        closed_gatherAll hs (closed_dropWhile hab (.inr hfront)) hdigits hleft
      rw [hdigits']
      split
      · next hnil =>
        cases hnil
        exact absurd rfl hne
      · next heq =>
        cases heq
        simp only
        rw [if_pos hsmall]
        exact ⟨_, rfl, closed_dropWhile hclosed (.inr hrest)⟩
    · cases h

/-- The upper bound, which follows the comma. -/
def readUpper (spaced : Bool) (low : Nat) (text : List Char) :
    Except Fault ((Nat × Option Nat) × List Char) := do
  match layout spaced text with
  | '\x7d' :: rest => return ((low, none), rest)
  | text =>
    match ← readCount spaced text with
    | (high, '\x7d' :: rest) =>
      if low ≤ high then return ((low, some high), rest) else .error .countReversed
    | _ => .error .countUnclosed

theorem steady_readUpper {spaced : Bool} (hs : t.Allows spaced) (low : Nat) :
    Steady t (readUpper spaced low) := by
  intro a b x rest hab h
  have hl := closed_layout hs hab
  rw [readUpper] at h ⊢
  generalize layout spaced a = a at h hl
  generalize layout spaced b = b at hl ⊢
  split at h
  · next a =>
    obtain ⟨b, rfl, hab'⟩ := hl.exists_cons
    cases h
    exact ⟨b, rfl, hab'⟩
  · next hbrace =>
    obtain ⟨⟨high, a'⟩, hhigh, h⟩ := bind_eq_ok.mp h
    -- A count is not empty, so the text does not leave the brace to the tail.
    have ha : a ≠ [] := by
      rintro rfl
      cases hhigh
    have hbrace' (rest : List Char) : b ≠ '\x7d' :: rest := by
      rintro rfl
      obtain ⟨a, rfl, _⟩ := hl.cons_of_ne_nil ha
      exact hbrace a rfl
    split
    · exact absurd rfl (hbrace' _)
    · split at h
      · next heq =>
        cases heq
        obtain ⟨b', hhigh', hrest⟩ := closed_readCount hs hl hhigh (List.cons_ne_nil _ _)
        obtain ⟨b, rfl, hab'⟩ := hrest.exists_cons
        obtain ⟨rest', h', hab''⟩ := Steady.ite (.ok _) (.error _) _ _ _ _ hab' h
        exact ⟨rest', bind_eq_ok.mpr ⟨_, hhigh', h'⟩, hab''⟩
      · cases h

theorem steady_readBounds {spaced : Bool} (hs : t.Allows spaced) :
    Steady t (readBounds spaced) := by
  intro a b x rest hab h
  obtain ⟨⟨low, a'⟩, hlow, h⟩ := bind_eq_ok.mp h
  have hleft : a' ≠ [] := by
    rintro rfl
    cases h
  obtain ⟨b', hlow', hrest⟩ := closed_readCount hs (closed_layout hs hab) hlow hleft
  simp only at h
  split at h
  · next a =>
    obtain ⟨b, rfl, hab'⟩ := hrest.exists_cons
    cases h
    exact ⟨b, bind_eq_ok.mpr ⟨_, hlow', rfl⟩, hab'⟩
  · next a =>
    obtain ⟨b, rfl, hab'⟩ := hrest.exists_cons
    obtain ⟨rest', h', hab''⟩ := steady_readUpper hs low _ _ _ _ hab' h
    exact ⟨rest', bind_eq_ok.mpr ⟨_, hlow', h'⟩, hab''⟩
  · cases h

/-- The bounds that an operator of repetition gives. -/
def readOperator (spaced : Bool) (op : Char) (rest : List Char) :
    Except Fault ((Nat × Option Nat) × List Char) :=
  match op with
  | '?' => .ok ((0, some 1), rest)
  | '*' => .ok ((0, none), rest)
  | '+' => .ok ((1, none), rest)
  | _ => (readBounds spaced rest).map fun r => (r.1, layout spaced r.2)

/-- Whether a repetition is greedy. -/
def readGreed (bounds : Nat × Option Nat) (rest : List Char) :
    Except Fault ((Nat × Option Nat × Bool) × List Char) :=
  match rest with
  | '?' :: rest => .ok ((bounds.1, bounds.2, false), rest)
  | rest => .ok ((bounds.1, bounds.2, true), rest)

theorem readRepetition_eq (spaced : Bool) (op : Char) (rest : List Char) :
    readRepetition spaced op rest = readOperator spaced op rest >>= fun r => readGreed r.1 r.2 := by
  unfold readRepetition
  split
  · rfl
  · rfl
  · rfl
  · next hopt hstar hplus =>
    rw [readOperator]
    · rfl
    · exact hopt
    · exact hstar
    · exact hplus

theorem steady_readOperator {spaced : Bool} (hs : t.Allows spaced) (op : Char) :
    Steady t (readOperator spaced op) := by
  unfold readOperator
  split
  · exact .ok _
  · exact .ok _
  · exact .ok _
  · intro a b x rest hab h
    obtain ⟨⟨bounds, a⟩, hr, heq⟩ := map_eq_ok.mp h
    cases heq
    obtain ⟨b, hr', hrest⟩ := steady_readBounds hs _ _ _ _ hab hr
    exact ⟨layout spaced b, map_eq_ok.mpr ⟨_, hr', rfl⟩, closed_layout hs hrest⟩

theorem steady_readGreed (bounds : Nat × Option Nat) : Steady t (readGreed bounds) := by
  intro a b x rest hab h
  unfold readGreed at h ⊢
  split at h
  · next a =>
    obtain ⟨b, rfl, hab'⟩ := hab.exists_cons
    cases h
    exact ⟨b, rfl, hab'⟩
  · next hquestion =>
    cases h
    split
    · next b =>
      obtain ⟨a, rfl, _⟩ := hab.of_cons t.ne_question
      exact absurd rfl (hquestion a)
    · exact ⟨b, rfl, hab⟩

theorem steady_readRepetition {spaced : Bool} (hs : t.Allows spaced) (op : Char) :
    Steady t (readRepetition spaced op) := by
  have h := (steady_readOperator hs op).bind steady_readGreed
  simpa only [← readRepetition_eq] using h

theorem steady_readPrimitive {spaced : Bool} (hs : t.Allows spaced) (c : Char) :
    Steady t (readPrimitive spaced c) := by
  unfold readPrimitive
  exact .ite (steady_readEscape hs) (.ite (.ok _) (.ite (.ok _) (.ite (.ok _) (.ok _))))

/-! ## Expressions -/

theorem closed_itemRead {st st' : Reading} {items items' : List Tree} {a b rest : List Char}
    (hs : t.Allows st.spaced) (hab : Closed t a b) (h : ItemRead st items a st' items' rest) :
    ∃ rest', ItemRead st items b st' items' rest' ∧ Closed t rest rest' := by
  cases h with
  | switch hopen =>
    obtain ⟨b, rfl, hb⟩ := hab.exists_cons
    obtain ⟨rest', hopen', hrest⟩ := closed_readOpening hs hb hopen
    exact ⟨rest', .switch hopen', hrest⟩
  | bracket hclass =>
    obtain ⟨b, rfl, hb⟩ := hab.exists_cons
    obtain ⟨rest', hclass', hrest⟩ := steady_readClass hs _ _ _ _ hb hclass
    exact ⟨rest', .bracket hclass', hrest⟩
  | repetition hop hoperand hrepetition =>
    obtain ⟨b, rfl, hb⟩ := hab.exists_cons
    obtain ⟨rest', hrepetition', hrest⟩ := steady_readRepetition hs _ _ _ _ _ hb hrepetition
    exact ⟨rest', .repetition hop hoperand hrepetition', hrest⟩
  | primitive hsign hprimitive =>
    obtain ⟨b, rfl, hb⟩ := hab.exists_cons
    obtain ⟨rest', hprimitive', hrest⟩ := steady_readPrimitive hs _ _ _ _ _ hb hprimitive
    exact ⟨rest', .primitive hsign hprimitive', hrest⟩

/-- In front of the closing, where layout may be of either kind. -/
theorem closed_readBranches {fuel fuel' : Nat} {st st' : Reading} {branches items : List Tree}
    {a b rest : List Char} {tree : Tree} (hab : Closed .closing a b) (hfuel : fuel ≤ fuel')
    (h : readBranches fuel st branches items a = .ok (tree, st', rest)) :
    ∃ rest', readBranches fuel' st branches items b = .ok (tree, st', rest') ∧
      Closed .closing rest rest' := by
  induction fuel generalizing fuel' st st' branches items a b rest tree with
  | zero => cases h
  | succ fuel ih =>
    obtain ⟨fuel', rfl⟩ := Nat.exists_eq_succ_of_ne_zero (Nat.ne_zero_of_lt hfuel)
    have hle := Nat.le_of_succ_le_succ hfuel
    have hs (st : Reading) : Tail.closing.Allows st.spaced := fun _ => rfl
    have hl := closed_layout (hs st) hab
    rw [readBranches_eq_ok] at h
    simp only [readBranches_eq_ok]
    generalize layout st.spaced a = a at h hl
    generalize layout st.spaced b = b at hl ⊢
    cases h with
    | stop hstop =>
      -- The closing begins with a parenthesis too.
      refine ⟨b, .stop ?_, hl⟩
      cases rest with
      | nil =>
        rcases hl.of_nil with rfl | rfl
        · exact fun c hc => by cases hc; rfl
        · exact nofun
      | cons c rest =>
        obtain ⟨b, rfl, _⟩ := hl.exists_cons
        exact hstop
    | bar h =>
      obtain ⟨b, rfl, hb⟩ := hl.exists_cons
      obtain ⟨rest', h', hrest⟩ := ih hb hle h
      exact ⟨rest', .bar h', hrest⟩
    | item hitem h =>
      obtain ⟨left, hitem', hleft⟩ := closed_itemRead (hs st) hl hitem
      obtain ⟨rest', h', hrest⟩ := ih hleft hle h
      exact ⟨rest', .item hitem' h', hrest⟩
    | group hopen hbody h =>
      obtain ⟨b, rfl, hb⟩ := hl.exists_cons
      obtain ⟨_, hopen', hleft⟩ := closed_readOpening (hs st) hb hopen
      obtain ⟨_, hbody', hparen⟩ := ih hleft hle hbody
      obtain ⟨_, rfl, hbehind⟩ := hparen.exists_cons
      obtain ⟨rest', h', hrest⟩ := ih hbehind hle h
      exact ⟨rest', .group hopen' hbody' h', hrest⟩

theorem readBranches_opened (fuel : Nat) (text : List Char) :
    readBranches (fuel + 2) ⟨false, []⟩ [] [] ('\\' :: 'A' :: '(' :: '?' :: ':' :: text) =
      match readBranches fuel ⟨false, []⟩ [] [] text with
      | .error e => .error e
      | .ok (_, _, []) => .error .groupUnclosed
      | .ok (body, after, _ :: rest) =>
        readBranches fuel ⟨false, after.names⟩ []
          [.group (.flags []) body, .assertion .textStart] rest := by
  rw [readBranches]
  change readBranches (fuel + 1) ⟨false, []⟩ [] [.assertion .textStart]
    ('(' :: '?' :: ':' :: text) = _
  rw [readBranches]
  simp only [layout_false]
  rw [if_neg (by decide), if_neg (by decide), if_pos trivial]
  rfl

namespace Tree

variable {body : List Char} {tree whole : Tree}

/-- An expression in a group between the anchors of a text. -/
def between (tree : Tree) : Tree :=
  .concat [.assertion .textStart, .group (.flags []) tree, .assertion .textStop]

theorem height_between (tree : Tree) : tree.between.height = tree.height + 2 := by
  simp [between, height, heights]

/-- Where the inside of the group stops in front of all of the closing, nothing but the last anchor
is left. -/
theorem read_of_inside {after : Reading}
    (h : readBranches ((body ++ closing).length + 4) ⟨false, []⟩ [] [] (body ++ closing) =
      .ok (tree, after, closing)) :
    read ('\\' :: 'A' :: '(' :: '?' :: ':' :: (body ++ closing)) =
      if tree.height + 2 ≤ heightLimit then .ok tree.between else .error .nestedTooDeep := by
  have hread : readBranches ((body ++ closing).length + 6) ⟨false, []⟩ [] []
      ('\\' :: 'A' :: '(' :: '?' :: ':' :: (body ++ closing)) =
        .ok (tree.between, ⟨false, after.names⟩, []) := by
    rw [readBranches_opened, h]
    rfl
  rw [read, List.length_cons, List.length_cons, List.length_cons, List.length_cons,
    List.length_cons, hread]
  simp only [height_between]

/-- An expression is read as a whole between the anchors unless it is nested too deeply for them or
runs on over the closing in a comment. -/
theorem read_between_cases (hbody : read body = .ok tree) :
    (read (body ++ closing) = .ok tree ∧
      read ('\\' :: 'A' :: '(' :: '?' :: ':' :: (body ++ closing)) = .error .groupUnclosed) ∨
    (read (body ++ closing) = .error .groupUnopened ∧
      read ('\\' :: 'A' :: '(' :: '?' :: ':' :: (body ++ closing)) =
        if tree.height + 2 ≤ heightLimit then .ok tree.between else .error .nestedTooDeep) := by
  rw [read] at hbody
  split at hbody
  · cases hbody
  · cases hbody
  · next tree' after hread =>
    split at hbody
    · next hheight =>
      cases hbody
      obtain ⟨rest, hinner, hclosed⟩ := closed_readBranches (.append .closing body)
        (Nat.succ_le_succ (Closed.append .closing body).length_le) hread
      change readBranches ((body ++ closing).length + 1) _ _ _ (body ++ closing) = _ at hinner
      have hinside := readBranches_mono hinner (Nat.add_le_add_left (by decide : 1 ≤ 4) _)
      rcases hclosed.of_nil with rfl | rfl
      · right
        refine ⟨?_, read_of_inside hinside⟩
        rw [read, hinner]
        rfl
      · left
        constructor
        · rw [read, hinner]
          simp only [if_pos hheight]
        · rw [read, List.length_cons, List.length_cons, List.length_cons, List.length_cons,
            List.length_cons, readBranches_opened, hinside]
    · cases hbody

/-- What is read between the anchors is then the expression. -/
theorem read_between (hbody : read body = .ok tree)
    (hwhole : read ('\\' :: 'A' :: '(' :: '?' :: ':' :: (body ++ closing)) = .ok whole) :
    whole = tree.between := by
  rcases read_between_cases hbody with ⟨-, hunclosed⟩ | ⟨-, hread⟩
  · rw [hunclosed] at hwhole
    cases hwhole
  · rw [hread] at hwhole
    split at hwhole
    · cases hwhole
      rfl
    · cases hwhole

end Tree

end TemplateMatch.Regex
