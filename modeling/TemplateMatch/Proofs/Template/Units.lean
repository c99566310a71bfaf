import TemplateMatch.Proofs.Regex.ClosingGroups
import TemplateMatch.Proofs.Template.Alike

/-!
Texts written into an expression. Where such a text stands between two parts of the expression, it
is read as its characters, and a group around it makes no difference (`read_grouped`). No part that
begins in front of the text may still be open there, and an operator of repetition behind it takes
hold of a single character only.
-/

namespace TemplateMatch.Regex

open Template (readBranches_char)

/-! ## Parts of an expression -/

/-- Passes the first part of an expression without layout. The names are those of the groups so
far. -/
def skipPart (names : List String) : List Char → Except Fault (List String × List Char)
  | [] => .error .operandMissing
  | c :: rest =>
    if c = ')' ∨ c = '|' then .ok (names, rest)
    else if c = '(' then
      match readOpening ⟨false, names⟩ rest with
      | .ok (_, ⟨false, names⟩, rest) => .ok (names, rest)
      | .ok (_, ⟨true, _⟩, _) => .error .operandMissing
      | .error e => .error e
    else if c = '[' then (readClass false rest).map fun r => (names, r.2)
    else if isRepetitionOp c then (readRepetition false c rest).map fun r => (names, r.2)
    else (readPrimitive false c rest).map fun r => (names, r.2)

section

variable {names : List String} {c : Char} {text : List Char}

theorem skipPart_bracket : skipPart names ('[' :: text) =
    (readClass false text).map fun r => (names, r.2) := by
  rw [skipPart, if_neg (by decide), if_neg (by decide), if_pos rfl]

theorem skipPart_repetition (hop : isRepetitionOp c = true) : skipPart names (c :: text) =
    (readRepetition false c text).map fun r => (names, r.2) := by
  have hne (d : Char) (hd : isRepetitionOp d = false) : c ≠ d := ne_of_isRepetitionOp hop hd
  rw [skipPart, if_neg (not_or.mpr ⟨hne _ (by decide), hne _ (by decide)⟩),
    if_neg (hne _ (by decide)), if_neg (hne _ (by decide)), if_pos hop]

theorem skipPart_primitive (hsign : isSign c = false) : skipPart names (c :: text) =
    (readPrimitive false c text).map fun r => (names, r.2) := by
  obtain ⟨hc, hbar, hparen, hbracket, hop⟩ := isSign_eq_false hsign
  rw [skipPart, if_neg (not_or.mpr ⟨hc, hbar⟩), if_neg hparen, if_neg hbracket,
    if_neg (by simp [hop])]

end

/-- A text of whole parts, and the names of the groups after it. -/
inductive Parts : List String → List Char → List String → Prop
  | nil {names : List String} : Parts names [] names
  | cons {names names' names'' : List String} {text rest : List Char} :
    skipPart names text = .ok (names', rest) → Parts names' rest names'' →
      Parts names text names''

/-- No operator of repetition follows. -/
def Calm (text : List Char) : Prop := ∀ c ∈ text.head?, isRepetitionOp c = false

/-! ## Texts between parts -/

/-- Texts that are written into an expression, each with what follows it. -/
abbrev Units := List (List Char × List Char)

/-- A text as an expression in a group of its own. -/
def grouped (value : List Char) : List Char := '(' :: '?' :: ':' :: (escapeChars value ++ [')'])

/-- What stands behind a place: the texts, each as `write` writes it. -/
def behind (write : List Char → List Char) : Units → List Char
  | [] => []
  | (value, rest) :: us => write value ++ (rest ++ behind write us)

/-- Every text stands between two parts, and is one character where it is repeated. -/
def Apart : List String → List Char → Units → Prop
  | _, _, [] => True
  | names, text, (value, rest) :: us => ∃ names', Parts names text names' ∧
    (value.length = 1 ∨ Calm (rest ++ behind escapeChars us)) ∧ Apart names' rest us

theorem Apart.of_cons {names : List String} {c : Char} {text : List Char} {us : Units}
    (h : Apart names (c :: text) us) :
    us = [] ∨ ∃ names' rest, skipPart names (c :: text) = .ok (names', rest) ∧
      Apart names' rest us := by
  cases us with
  | nil => exact .inl rfl
  | cons u us =>
    obtain ⟨value, behind⟩ := u
    obtain ⟨names'', hparts, hrest⟩ := h
    cases hparts with
    | cons hskip hparts => exact .inr ⟨_, _, hskip, names'', hparts, hrest⟩

theorem Apart.of_nil {names : List String} {value rest : List Char} {us : Units}
    (h : Apart names [] ((value, rest) :: us)) :
    (value.length = 1 ∨ Calm (rest ++ behind escapeChars us)) ∧ Apart names rest us := by
  obtain ⟨names', hparts, hrest⟩ := h
  cases hparts with
  | nil => exact hrest
  | cons hskip _ => cases hskip

theorem calm_escapeChars_cons (c : Char) (text rest : List Char) :
    Calm (escapeChars (c :: text) ++ rest) := by
  rw [escapeChars_cons]
  cases hc : isMeta c with
  | true =>
    intro d hd
    cases hd
    decide
  | false =>
    intro d hd
    cases hd
    have hop (d : Char) (hd : isMeta d = true) : (c == d) = false :=
      beq_eq_false_iff_ne.mpr (Template.ne_of_not_isMeta hc hd)
    rw [isRepetitionOp, hop _ (by decide), hop _ (by decide), hop _ (by decide),
      hop _ (by decide)]
    rfl

theorem Apart.calm {names : List String} {text : List Char} {us : Units}
    (h : Apart names text us) : Calm (behind escapeChars us) := by
  match us with
  | [] => exact nofun
  | (value, rest) :: us =>
    obtain ⟨_, _, hcalm, _⟩ := h
    cases value with
    | nil => exact hcalm.resolve_left (by decide)
    | cons c value => exact calm_escapeChars_cons c value _

theorem calm_behind_grouped (us : Units) : Calm (behind grouped us) := by
  cases us with
  | nil => exact nofun
  | cons u us =>
    intro c hc
    cases hc
    decide

/-- A text in which no operator follows may stand behind whatever is read without layout. -/
def Tail.ofCalm (text : List Char) (h : Calm text) : Tail where
  text := text
  spaced := false
  ne_question := fun hhead => absurd (h _ hhead) (by decide)
  ne_brace := fun hhead => absurd (h _ hhead) (by decide)
  ne_layout := nofun
  ends_no_comment := nofun

theorem Steady.append {α : Type} {read : List Char → Except Fault (α × List Char)} {t : Tail}
    (h : Steady t read) (ht : t.spaced = false) {text rest : List Char} {x : α}
    (hread : read text = .ok (x, rest)) : read (text ++ t.text) = .ok (x, rest ++ t.text) := by
  obtain ⟨rest', hread', hclosed⟩ := h _ _ _ _ (.append t text) hread
  rw [hread', hclosed.eq_append ht]

/-! ## Parts in front of the texts -/

/-- The texts behind stand apart where this is read, or there are none. -/
def Spread (st : Reading) (text : List Char) (us : Units) : Prop :=
  us = [] ∨ st.spaced = false ∧ Apart st.names text us

section

variable {st st' : Reading} {c : Char} {text rest : List Char} {us : Units}

theorem Spread.calm (h : Spread st text us) : Calm (behind escapeChars us) := by
  rcases h with rfl | ⟨_, hapart⟩
  · exact nofun
  · exact hapart.calm

theorem Spread.of_sign (h : Spread st (c :: text) us) (hc : c = ')' ∨ c = '|') :
    Spread st text us := by
  rcases h with hus | ⟨hspaced, hapart⟩
  · exact .inl hus
  · refine hapart.of_cons.imp id ?_
    rintro ⟨names, rest, hskip, hrest⟩
    rw [skipPart, if_pos hc] at hskip
    cases hskip
    exact ⟨hspaced, hrest⟩

/-- What begins a part of the text is read from it whichever way the texts behind are written. -/
theorem exists_left {α : Type} {read : List Char → Except Fault (α × List Char)}
    {Q : α → List Char → Prop} {x : α} (hcalm : Calm (behind escapeChars us))
    (hpart : us = [] ∨ (∀ t, Steady t read) ∧ ∃ x left, read text = .ok (x, left) ∧ Q x left)
    (h : read (text ++ behind escapeChars us) = .ok (x, rest)) :
    ∃ left, rest = left ++ behind escapeChars us ∧
      read (text ++ behind grouped us) = .ok (x, left ++ behind grouped us) ∧
      (us = [] ∨ Q x left) := by
  rcases hpart with rfl | ⟨hsteady, x', left, hread, hleft⟩
  · refine ⟨rest, (List.append_nil rest).symm, ?_, .inl rfl⟩
    rw [behind, List.append_nil] at h ⊢
    rw [h, List.append_nil]
  · have hplain := (hsteady (.ofCalm _ hcalm)).append rfl hread
    rw [Tail.ofCalm, h] at hplain
    cases hplain
    exact ⟨left, rfl, (hsteady (.ofCalm _ (calm_behind_grouped us))).append rfl hread, .inr hleft⟩

/-- A part that names no group. -/
theorem Spread.exists_left {α : Type} {read : List Char → Except Fault (α × List Char)} {x : α}
    (hus : Spread st (c :: text) us) (hsteady : st.spaced = false → ∀ t, Steady t read)
    (hskip : st.spaced = false →
      skipPart st.names (c :: text) = (read text).map fun r => (st.names, r.2))
    (h : read (text ++ behind escapeChars us) = .ok (x, rest)) :
    ∃ left, rest = left ++ behind escapeChars us ∧
      read (text ++ behind grouped us) = .ok (x, left ++ behind grouped us) ∧
      Spread st left us := by
  refine Regex.exists_left (Q := fun _ left => st.spaced = false ∧ Apart st.names left us)
    hus.calm ?_ h
  rcases hus with hus | ⟨hspaced, hapart⟩
  · exact .inl hus
  · refine hapart.of_cons.imp id ?_
    rintro ⟨names, left, hpart, hleft⟩
    rw [hskip hspaced] at hpart
    obtain ⟨⟨x', left'⟩, hread, heq⟩ := map_eq_ok.mp hpart
    cases heq
    exact ⟨hsteady hspaced, x', left', hread, hspaced, hleft⟩

theorem steady_readOpening {t : Tail} (names : List String) :
    Steady t fun text =>
      (readOpening ⟨false, names⟩ text).map fun r => ((r.1, r.2.1), r.2.2) := by
  intro a b x rest hab h
  obtain ⟨⟨opening, st, left⟩, hopen, heq⟩ := map_eq_ok.mp h
  cases heq
  obtain ⟨rest', hopen', hclosed⟩ := closed_readOpening t.allows_false hab hopen
  exact ⟨rest', map_eq_ok.mpr ⟨_, hopen', rfl⟩, hclosed⟩

theorem exists_opening_of_skipPart {names names' : List String}
    (h : skipPart names ('(' :: text) = .ok (names', rest)) :
    ∃ opening, readOpening ⟨false, names⟩ text = .ok (opening, ⟨false, names'⟩, rest) := by
  rw [skipPart, if_neg (by decide), if_pos rfl] at h
  split at h
  · next hopen =>
    cases h
    exact ⟨_, hopen⟩
  · cases h
  · cases h

theorem Spread.exists_opening {opening : Opening} (hus : Spread st ('(' :: text) us)
    (h : readOpening st (text ++ behind escapeChars us) = .ok (opening, st', rest)) :
    ∃ left, rest = left ++ behind escapeChars us ∧
      readOpening st (text ++ behind grouped us) = .ok (opening, st', left ++ behind grouped us) ∧
      Spread st' left us := by
  -- The state after the opening is part of what is read.
  let read (text : List Char) := (readOpening st text).map fun r => ((r.1, r.2.1), r.2.2)
  have hread : read (text ++ behind escapeChars us) = .ok ((opening, st'), rest) :=
    map_eq_ok.mpr ⟨_, h, rfl⟩
  obtain ⟨left, rfl, hleft, hspread⟩ := Regex.exists_left
    (Q := fun x left => x.2.spaced = false ∧ Apart x.2.names left us) hus.calm (by
      rcases hus with hus | ⟨hspaced, hapart⟩
      · exact .inl hus
      · refine hapart.of_cons.imp id ?_
        rintro ⟨names, left, hpart, hleft⟩
        obtain ⟨spaced, names'⟩ := st
        subst hspaced
        obtain ⟨opening, hopen⟩ := exists_opening_of_skipPart hpart
        exact ⟨fun t => steady_readOpening names', (opening, ⟨false, names⟩), left,
          map_eq_ok.mpr ⟨_, hopen, rfl⟩, rfl, hleft⟩) hread
  obtain ⟨⟨opening', inner, left'⟩, hopen, heq⟩ := map_eq_ok.mp hleft
  cases heq
  exact ⟨left, rfl, hopen, hspread⟩

end

/-! ## Reading a text -/

section

variable {names : List String} {branches items : List Tree} {rest : List Char}

theorem readBranches_escapeChars (fuel : Nat) (value : List Char) :
    readBranches (fuel + value.length) ⟨false, names⟩ branches items (escapeChars value ++ rest) =
      readBranches fuel ⟨false, names⟩ branches ((Tree.literals value).reverse ++ items) rest := by
  induction value generalizing items with
  | nil => rfl
  | cons c value ih =>
    rw [List.length_cons, ← Nat.add_assoc, ← List.singleton_append, escapeChars_append,
      List.append_assoc, readBranches_char, ih, Tree.literals, Tree.literals, List.map_append,
      List.reverse_append, List.append_assoc]
    rfl

/-- Each character takes a round of its own. -/
theorem length_lt_of_readBranches {fuel : Nat} {value : List Char} {r : Tree × Reading × List Char}
    (h : readBranches fuel ⟨false, names⟩ branches items (escapeChars value ++ rest) = .ok r) :
    value.length < fuel := by
  refine Nat.lt_of_not_le fun hle => ?_
  obtain ⟨front, back, rfl, hlength⟩ :
      ∃ front back, value = front ++ back ∧ front.length = fuel :=
    ⟨_, _, (List.take_append_drop fuel value).symm, List.length_take_of_le hle⟩
  rw [escapeChars_append, List.append_assoc, ← hlength, ← Nat.zero_add front.length,
    readBranches_escapeChars] at h
  cases h

theorem readBranches_grouped {fuel : Nat} {value : List Char} (h : value.length < fuel) :
    readBranches (fuel + 1) ⟨false, names⟩ branches items (grouped value ++ rest) =
      readBranches fuel ⟨false, names⟩ branches (Tree.unit value :: items) rest := by
  have hopen : readOpening ⟨false, names⟩ ('?' :: ':' :: (escapeChars value ++ ')' :: rest)) =
      .ok (.group (.flags []), ⟨false, names⟩, escapeChars value ++ ')' :: rest) := rfl
  have hinner : readBranches fuel ⟨false, names⟩ [] [] (escapeChars value ++ ')' :: rest) =
      .ok (.ofSequence (Tree.literals value), ⟨false, names⟩, ')' :: rest) := by
    obtain ⟨spare, rfl⟩ := Nat.exists_eq_add_of_lt h
    rw [show value.length + spare + 1 = spare + 1 + value.length by omega,
      readBranches_escapeChars, readBranches]
    simp only [layout_false]
    rw [if_pos trivial, List.append_nil, List.reverse_reverse]
    rfl
  have htext : grouped value ++ rest =
      '(' :: '?' :: ':' :: (escapeChars value ++ ')' :: rest) := by
    simp [grouped]
  rw [htext, readBranches]
  simp only [layout_false]
  rw [if_neg (by decide), if_neg (by decide), if_pos trivial, hopen]
  simp only [hinner]
  rfl

end

/-! ## Reading both -/

/-- Items that are alike, last first. -/
def Loose (items items' : List Tree) : Prop := Tree.AlikeItems items.reverse items'.reverse

/-- The last items are alike by themselves, so an operator may follow. -/
inductive Firm : List Tree → List Tree → Prop
  | nil : Firm [] []
  | cons {t t' : Tree} {items items' : List Tree} : t.Alike t' →
    (t.isOperand = true → t'.isOperand = true) → Loose items items' →
    Firm (t :: items) (t' :: items')

theorem Loose.cons {t t' : Tree} {items items' : List Tree} (h : Loose items items')
    (ht : t.Alike t') : Loose (t :: items) (t' :: items') := by
  rw [Loose, List.reverse_cons, List.reverse_cons]
  exact h.append (.single ht)

/-- What is read up to the end of the last branch. -/
theorem Loose.alike_ofBranches {branches branches' items items' : List Tree}
    (h : Loose items items') (hbranches : List.Forall₂ Tree.Alike branches branches') :
    Tree.Alike (.ofBranches (Tree.ofSequence items.reverse :: branches).reverse)
      (.ofBranches (Tree.ofSequence items'.reverse :: branches').reverse) :=
  Tree.alike_ofBranches (List.forall₂_reverse_iff.mpr (hbranches.cons h.ofSequence))

theorem Firm.loose {items items' : List Tree} (h : Firm items items') : Loose items items' := by
  cases h with
  | nil => exact .nil
  | cons ht _ hitems => exact hitems.cons ht

theorem Firm.push {items items' : List Tree} (h : Loose items items') (t : Tree) :
    Firm (t :: items) (t :: items') :=
  .cons (.refl t) id h

theorem Loose.unit {items items' : List Tree} (h : Loose items items') (value : List Char) :
    Loose ((Tree.literals value).reverse ++ items) (Tree.unit value :: items') := by
  rw [Loose, List.reverse_append, List.reverse_reverse, List.reverse_cons]
  exact h.append (Tree.alike_unit value)

/-- What holds of the items in front of a text. -/
def Ready (spaced : Bool) (text : List Char) (items items' : List Tree) : Prop :=
  Loose items items' ∧ (Firm items items' ∨ spaced = false ∧ Calm text)

theorem Firm.ready {items items' : List Tree} (h : Firm items items') (spaced : Bool)
    (text : List Char) : Ready spaced text items items' :=
  ⟨h.loose, .inl h⟩

/-- A single character may be repeated as its group may be. -/
theorem Loose.ready {items items' : List Tree} {value text : List Char} (h : Loose items items')
    (hvalue : value.length = 1 ∨ Calm text) :
    Ready false text ((Tree.literals value).reverse ++ items) (Tree.unit value :: items') := by
  refine ⟨h.unit value, ?_⟩
  rcases hvalue with hone | hcalm
  · obtain ⟨c, rfl⟩ := List.length_eq_one_iff.mp hone
    exact .inl (.cons (Tree.alike_unit [c]).ofSequence (fun _ => rfl) h)
  · exact .inr ⟨rfl, hcalm⟩

/-- The same item is read from both texts. -/
theorem exists_itemRead {st st' : Reading} {items items' items₁ : List Tree} {c : Char}
    {text rest : List Char} {us : Units} (hus : Spread st (c :: text) us)
    (hitems : Ready st.spaced (c :: text ++ behind escapeChars us) items items')
    (h : ItemRead st items (c :: (text ++ behind escapeChars us)) st' items₁ rest) :
    ∃ left items₂, rest = left ++ behind escapeChars us ∧
      ItemRead st items' (c :: (text ++ behind grouped us)) st' items₂
        (left ++ behind grouped us) ∧ Spread st' left us ∧ Firm items₁ items₂ := by
  have hallows (hspaced : st.spaced = false) (t : Tail) : t.Allows st.spaced := by
    rw [hspaced]
    exact t.allows_false
  cases h with
  | switch hopen =>
    obtain ⟨left, rfl, hopen', hus⟩ := hus.exists_opening hopen
    exact ⟨left, _, rfl, .switch hopen', hus, .push hitems.1 _⟩
  | bracket hclass =>
    obtain ⟨left, rfl, hclass', hus⟩ :=
      hus.exists_left (fun hspaced t => steady_readClass (hallows hspaced t))
        (fun hspaced => by rw [hspaced, skipPart_bracket]) hclass
    exact ⟨left, _, rfl, .bracket hclass', hus, .push hitems.1 _⟩
  | repetition hop hoperand hrepetition =>
    obtain ⟨left, rfl, hrepetition', hus⟩ :=
      hus.exists_left (fun hspaced t => steady_readRepetition (hallows hspaced t) c)
        (fun hspaced => by rw [hspaced, skipPart_repetition hop]) hrepetition
    -- An operator does not follow where the last items are alike only as a whole.
    have hfirm := hitems.2.resolve_right (by
      rintro ⟨_, hcalm⟩
      rw [hcalm c rfl] at hop
      cases hop)
    cases hfirm with
    | cons halike hoperand' hloose =>
      exact ⟨left, _, rfl, .repetition hop (hoperand' hoperand) hrepetition', hus,
        .cons (halike.repetition _ _ _) (fun _ => rfl) hloose⟩
  | primitive hsign hprimitive =>
    obtain ⟨left, rfl, hprimitive', hus⟩ :=
      hus.exists_left (fun hspaced t => steady_readPrimitive (hallows hspaced t) c)
        (fun hspaced => by rw [hspaced, skipPart_primitive hsign]) hprimitive
    exact ⟨left, _, rfl, .primitive hsign hprimitive', hus, .push hitems.1 _⟩

/-- What two readings leave behind: the texts that are not read yet stand apart there too. -/
inductive Rest (names : List String) (n : Nat) : List Char → List Char → Prop
  | nil : Rest names n [] []
  | closing {text : List Char} {us : Units} : us.length ≤ n → (us = [] ∨ Apart names text us) →
    Rest names n (')' :: (text ++ behind escapeChars us)) (')' :: (text ++ behind grouped us))

theorem Rest.mono {names : List String} {m n : Nat} {rest rest' : List Char} (hle : m ≤ n)
    (h : Rest names m rest rest') : Rest names n rest rest' := by
  cases h with
  | nil => exact .nil
  | closing hlength hapart => exact .closing (Nat.le_trans hlength hle) hapart

theorem layout_behind {st : Reading} {text : List Char} {us : Units} (h : Spread st text us) :
    ∃ text', layout st.spaced (text ++ behind escapeChars us) = text' ++ behind escapeChars us ∧
      layout st.spaced (text ++ behind grouped us) = text' ++ behind grouped us ∧
      Spread st text' us ∧ (st.spaced = false → text' = text) := by
  rcases h with rfl | ⟨hspaced, hapart⟩
  · refine ⟨layout st.spaced text, ?_, ?_, .inl rfl, ?_⟩
    · rw [behind, List.append_nil, List.append_nil]
    · rw [behind, List.append_nil, List.append_nil]
    · intro h
      rw [h, layout_false]
  · rw [hspaced]
    exact ⟨text, rfl, rfl, .inr ⟨hspaced, hapart⟩, fun _ => rfl⟩

/-- In so many rounds the groups are read as their characters are. -/
def ReadsAlike (fuel' : Nat) : Prop :=
  ∀ ⦃fuel : Nat⦄ ⦃st st' : Reading⦄ ⦃branches branches' items items' : List Tree⦄
    ⦃text rest : List Char⦄ ⦃us : Units⦄ ⦃tree : Tree⦄, Spread st text us →
    fuel + us.length ≤ fuel' → List.Forall₂ Tree.Alike branches branches' →
    Ready st.spaced (text ++ behind escapeChars us) items items' →
    readBranches fuel st branches items (text ++ behind escapeChars us) = .ok (tree, st', rest) →
    ∃ tree' rest', readBranches fuel' st branches' items' (text ++ behind grouped us) =
      .ok (tree', st', rest') ∧ tree.Alike tree' ∧ Rest st'.names us.length rest rest'

section

variable {fuel fuel' : Nat} {st st' : Reading} {branches branches' items items' : List Tree}
  {text rest : List Char} {us : Units} {tree : Tree}

/-- The group around a text takes one round, and its characters as many as there are. -/
theorem ReadsAlike.unit {value : List Char} (ih : ReadsAlike fuel')
    (hus : Spread st [] ((value, text) :: us)) (hfuel : fuel + us.length ≤ fuel')
    (hbranches : List.Forall₂ Tree.Alike branches branches') (hitems : Loose items items')
    (h : readBranches fuel st branches items (behind escapeChars ((value, text) :: us)) =
      .ok (tree, st', rest)) :
    ∃ tree' rest', readBranches (fuel' + 1) st branches' items'
      (behind grouped ((value, text) :: us)) = .ok (tree', st', rest') ∧ tree.Alike tree' ∧
      Rest st'.names us.length rest rest' := by
  -- A text stands behind, so layout is off and its characters are read one by one.
  obtain ⟨hspaced, hapart⟩ := hus.resolve_left nofun
  obtain ⟨hvalue, hapart⟩ := hapart.of_nil
  obtain ⟨spaced, names⟩ := st
  subst hspaced
  rw [behind] at h ⊢
  have hlength := length_lt_of_readBranches h
  obtain ⟨spare, rfl⟩ := Nat.exists_eq_add_of_lt hlength
  rw [show value.length + spare + 1 = spare + 1 + value.length by omega,
    readBranches_escapeChars] at h
  rw [readBranches_grouped (by omega)]
  exact ih (.inr ⟨rfl, hapart⟩) (by omega) hbranches (hitems.ready hvalue) h

/-- The inside of a group takes some of the texts behind, and what follows takes more of them. -/
theorem ReadsAlike.group {kind : GroupKind} {inner after : Reading} {body : Tree} {c : Char}
    {left : List Char} (ih : ReadsAlike fuel') (hus : Spread st ('(' :: text) us)
    (hfuel : fuel + us.length ≤ fuel') (hbranches : List.Forall₂ Tree.Alike branches branches')
    (hitems : Loose items items')
    (hopen : readOpening st (text ++ behind escapeChars us) = .ok (.group kind, inner, left))
    (hbody : readBranches fuel inner [] [] left = .ok (body, after, c :: rest))
    {rest₁ : List Char} (h : readBranches fuel { st with names := after.names } branches
      (.group kind body :: items) rest = .ok (tree, st', rest₁)) :
    ∃ tree' rest', Round fuel' st branches' items' ('(' :: (text ++ behind grouped us))
      (tree', st', rest') ∧ tree.Alike tree' ∧ Rest st'.names us.length rest₁ rest' := by
  obtain ⟨left, rfl, hopen', hleft⟩ := hus.exists_opening hopen
  obtain ⟨body', _, hbody', halike, hrest⟩ := ih hleft hfuel .nil (Firm.nil.ready _ _) hbody
  cases hrest with
  | @closing text us' hle hapart =>
    -- Layout is as it was in front of the group, the names are those after its inside.
    have hspread : Spread { st with names := after.names } text us' := by
      rcases hapart with hnil | hapart
      · exact .inl hnil
      · refine hus.imp (fun hnil => ?_) fun hspaced => ⟨hspaced.1, hapart⟩
        rw [hnil] at hle
        exact List.eq_nil_of_length_eq_zero (Nat.le_zero.mp hle)
    have hitems : Firm (.group kind body :: items) (.group kind body' :: items') :=
      .cons (halike.group kind) (fun _ => rfl) hitems
    obtain ⟨tree', rest', hread, htree, hrest⟩ :=
      ih hspread (by omega) hbranches (hitems.ready _ _) h
    exact ⟨tree', rest', .group hopen' hbody' hread, htree, hrest.mono hle⟩

/-- Both readings tell a round by the same character. -/
theorem ReadsAlike.round {c : Char} (ih : ReadsAlike fuel') (hus : Spread st (c :: text) us)
    (hfuel : fuel + us.length ≤ fuel') (hbranches : List.Forall₂ Tree.Alike branches branches')
    (hitems : Ready st.spaced (c :: text ++ behind escapeChars us) items items')
    (h : Round fuel st branches items (c :: (text ++ behind escapeChars us)) (tree, st', rest)) :
    ∃ tree' rest', Round fuel' st branches' items' (c :: (text ++ behind grouped us))
      (tree', st', rest') ∧ tree.Alike tree' ∧ Rest st'.names us.length rest rest' := by
  cases h with
  | stop hc =>
    obtain rfl := hc c rfl
    have hleft := (hus.of_sign (.inl rfl)).imp id And.right
    exact ⟨_, _, .stop fun d hd => by cases hd; rfl, hitems.1.alike_ofBranches hbranches,
      .closing (Nat.le_refl _) hleft⟩
  | bar h =>
    obtain ⟨tree', rest', hread, htree⟩ := ih (hus.of_sign (.inr rfl)) hfuel
      (hbranches.cons hitems.1.ofSequence) (Firm.nil.ready _ _) h
    exact ⟨tree', rest', .bar hread, htree⟩
  | item hitem h =>
    obtain ⟨left, _, rfl, hitem', hus, hfirm⟩ := exists_itemRead hus hitems hitem
    obtain ⟨tree', rest', hread, htree⟩ := ih hus hfuel hbranches (hfirm.ready _ _) h
    exact ⟨tree', rest', .item hitem' hread, htree⟩
  | group hopen hbody h => exact ih.group hus hfuel hbranches hitems.1 hopen hbody h

end

/-- Where the texts stand apart, a group around each is read in place of its characters, and the
trees are alike. The induction is on the rounds in which the groups are read: there is one for each
round on the characters, and one more for each text. -/
theorem readsAlike (fuel' : Nat) : ReadsAlike fuel' := by
  induction fuel' with
  | zero =>
    intro fuel _ _ _ _ _ _ _ _ _ _ _ hfuel _ _ h
    obtain rfl : fuel = 0 := by omega
    cases h
  | succ fuel' ih =>
    intro fuel st st' branches branches' items items' text rest us tree hus hfuel hbranches hitems h
    -- A round begins with a text that is written in, or in the part in front of it.
    by_cases hfront : text = [] ∧ us ≠ []
    · obtain ⟨rfl, hne⟩ := hfront
      obtain ⟨⟨value, text⟩, us, rfl⟩ := List.exists_cons_of_ne_nil hne
      rw [List.length_cons] at hfuel
      obtain ⟨tree', rest', hread, htree, hrest⟩ := ih.unit hus (by omega) hbranches hitems.1 h
      exact ⟨tree', rest', hread, htree, hrest.mono (Nat.le_succ _)⟩
    obtain ⟨fuel, rfl⟩ : ∃ n, fuel = n + 1 := Nat.exists_eq_succ_of_ne_zero (by
      rintro rfl
      cases h)
    obtain ⟨text', hplain, hgrouped, hus, hsame⟩ := layout_behind hus
    rw [readBranches_eq_ok, hplain] at h
    simp only [readBranches_eq_ok, hgrouped]
    cases text' with
    | nil =>
      -- Nothing is left of the text, so nothing stands behind it either.
      have hnil : us = [] := by
        rcases hus with hus | ⟨hspaced, _⟩
        · exact hus
        · exact Classical.not_not.mp fun hne => hfront ⟨(hsame hspaced).symm, hne⟩
      subst hnil
      cases h with
      | stop => exact ⟨_, _, .stop nofun, hitems.1.alike_ofBranches hbranches, .nil⟩
      | item hitem => cases hitem
    | cons c text' =>
      have hitems : Ready st.spaced (c :: text' ++ behind escapeChars us) items items' := by
        refine ⟨hitems.1, hitems.2.imp id ?_⟩
        rintro ⟨hspaced, hcalm⟩
        rw [hsame hspaced]
        exact ⟨hspaced, hcalm⟩
      rw [List.cons_append] at h ⊢
      exact ih.round hus (by omega) hbranches hitems h

/-! ## The whole expression -/

theorem length_grouped (value : List Char) :
    (grouped value).length = (escapeChars value).length + 4 := by
  simp [grouped]

theorem length_behind_le (us : Units) :
    (behind escapeChars us).length + us.length ≤ (behind grouped us).length := by
  induction us with
  | nil => exact Nat.le_refl _
  | cons u us ih =>
    obtain ⟨value, rest⟩ := u
    have hgrouped := length_grouped value
    simp only [behind, List.length_append, List.length_cons]
    omega

variable {text : List Char} {us : Units}

/-- With the groups the expression may be nested too deep. -/
theorem read_grouped {tree : Tree} (hus : Apart [] text us)
    (h : Tree.read (text ++ behind escapeChars us) = .ok tree) :
    (∃ tree', Tree.read (text ++ behind grouped us) = .ok tree' ∧ tree.Alike tree') ∨
      Tree.read (text ++ behind grouped us) = .error .nestedTooDeep := by
  rw [Tree.read] at h ⊢
  split at h
  · cases h
  · cases h
  · next tree₁ st hread =>
    split at h
    · cases h
      -- A group is longer than its characters, so its text has rounds enough.
      have hlength := length_behind_le us
      have hspread : Spread ⟨false, []⟩ text us := .inr ⟨rfl, hus⟩
      have hfuel : (text ++ behind escapeChars us).length + 1 + us.length ≤
          (text ++ behind grouped us).length + 1 := by
        simp only [List.length_append]
        omega
      obtain ⟨tree', rest', hread', halike, hrest⟩ :=
        readsAlike _ hspread hfuel .nil (Firm.nil.ready _ _) hread
      cases hrest
      rw [hread']
      simp only
      split
      · exact .inl ⟨tree', rfl, halike⟩
      · exact .inr rfl
    · cases h

/-- Where each text stands between two parts, the same is matched with a group around each, unless
the groups make the expression exceed a limit. -/
theorem compile_grouped {fl : Flags} {source source' : String} {p : Program}
    (hsource : source.toList = text ++ behind escapeChars us)
    (hsource' : source'.toList = text ++ behind grouped us) (hus : Apart [] text us)
    (h : Program.compile fl source = .ok p) :
    (∃ p', Program.compile fl source' = .ok p' ∧ ∀ s, p.isMatch s = p'.isMatch s) ∨
      Program.compile fl source' = .error (.malformed .nestedTooDeep) ∨
      Program.compile fl source' = .error (.tooLarge Program.sizeLimit) := by
  rw [Program.compile, hsource] at h
  rw [Program.compile, hsource']
  split at h
  · cases h
  · next tree hread =>
    split at h
    · cases h
    · next a after hmeaning =>
      split at h
      · cases h
        rcases read_grouped hus hread with ⟨tree', hread', halike⟩ | hdeep
        · obtain ⟨a', hmeaning', hsame⟩ := halike _ _ _ hmeaning
          rw [hread']
          simp only [hmeaning']
          split
          · exact .inl ⟨_, rfl, fun s => hsame.find_isSome_eq s.toList⟩
          · exact .inr (.inr rfl)
        · rw [hdeep]
          exact .inr (.inl rfl)
      · cases h

end TemplateMatch.Regex
