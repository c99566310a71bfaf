import TemplateMatch.Regex.Reader

/-!
What one round of reading an expression does: it stops, begins the next branch, reads an item or
reads a group with its inside (`readBranches_eq_ok`). What an opening parenthesis begins is told
apart in the same way (`readOpening_eq_ok`).
-/

namespace TemplateMatch.Regex

/-! ## Openings -/

/-- What follows the angle bracket of a named group. -/
def readNamed (st : Reading) (text : List Char) :
    Except Fault (Opening × Reading × List Char) := do
  let (name, rest) ← readGroupName st.names text
  return (.group (.capture (some name)), { st with names := name :: st.names }, rest)

/-- What follows the question mark of a group without a name. -/
def readSwitches (st : Reading) (text : List Char) :
    Except Fault (Opening × Reading × List Char) := do
  match ← readFlagItems [] text with
  | ([], ')' :: _) => .error .operandMissing
  | (items, ')' :: rest) =>
    return (.switch items, { st with spaced := (FlagItem.spaced? items).getD st.spaced }, rest)
  | (items, rest) =>
    return (.group (.flags items), { st with spaced := (FlagItem.spaced? items).getD st.spaced },
      rest.tail)

/-- What an opening parenthesis begins, told by the first characters behind it. -/
inductive OpeningRead (st : Reading) : List Char → Opening → Reading → List Char → Prop
  | plain {text : List Char} : text.head? ≠ some '?' →
    OpeningRead st text (.group (.capture none)) st text
  | lettered {opening : Opening} {st' : Reading} {text rest : List Char} :
    readNamed st text = .ok (opening, st', rest) →
    OpeningRead st ('?' :: 'P' :: '<' :: text) opening st' rest
  | angled {opening : Opening} {st' : Reading} {text rest : List Char} :
    (∀ c ∈ text.head?, c ≠ '=' ∧ c ≠ '!') → readNamed st text = .ok (opening, st', rest) →
    OpeningRead st ('?' :: '<' :: text) opening st' rest
  | switches {opening : Opening} {st' : Reading} {text rest : List Char} :
    (∀ c ∈ text.head?, c ≠ '=' ∧ c ≠ '!' ∧ c ≠ '<' ∧ c ≠ 'P') →
    readSwitches st text = .ok (opening, st', rest) →
    OpeningRead st ('?' :: text) opening st' rest

section

variable {st st' : Reading} {opening : Opening} {text rest : List Char}

theorem openingRead_of_readOpening (h : readOpening st text = .ok (opening, st', rest)) :
    OpeningRead st (layout st.spaced text) opening st' rest := by
  rw [readOpening] at h
  generalize layout st.spaced text = text at h ⊢
  simp only at h
  split at h
  · cases h
  · cases h
  · cases h
  · cases h
  · exact .lettered h
  · next text hahead hbehind =>
    refine .angled (fun c hc => ⟨?_, ?_⟩) h
    all_goals
      rintro rfl
      obtain ⟨text, rfl⟩ := List.head?_eq_some_iff.mp hc
    · exact hahead text rfl
    · exact hbehind text rfl
  · next text hahead hnotAhead _ _ _ hangle =>
    refine .switches (fun c hc => ⟨?_, ?_, ?_, ?_⟩) h
    all_goals
      rintro rfl
      obtain ⟨text, rfl⟩ := List.head?_eq_some_iff.mp hc
    · exact hahead text rfl
    · exact hnotAhead text rfl
    · exact hangle text rfl
    · -- No switch is spelled `P`.
      cases h
  · next hquestion =>
    cases h
    refine .plain fun hhead => ?_
    obtain ⟨text, rfl⟩ := List.head?_eq_some_iff.mp hhead
    exact hquestion text rfl

theorem readOpening_of_openingRead (h : OpeningRead st (layout st.spaced text) opening st' rest) :
    readOpening st text = .ok (opening, st', rest) := by
  rw [readOpening]
  generalize layout st.spaced text = text at h ⊢
  simp only
  cases h with
  | plain hhead =>
    split
    all_goals first | exact absurd rfl hhead | rfl
  | lettered h => exact h
  | angled hhead h =>
    split
    · next heq => cases heq
    · next heq => cases heq
    · next heq => cases heq; exact absurd rfl (hhead _ rfl).1
    · next heq => cases heq; exact absurd rfl (hhead _ rfl).2
    · next heq => cases heq
    · next heq => cases heq; exact h
    · next hangle heq => cases heq; exact absurd rfl (hangle _)
    · next hquestion => exact absurd rfl (hquestion _)
  | switches hhead h =>
    split
    · next heq => cases heq; exact absurd rfl (hhead _ rfl).1
    · next heq => cases heq; exact absurd rfl (hhead _ rfl).2.1
    · next heq => cases heq; exact absurd rfl (hhead _ rfl).2.2.1
    · next heq => cases heq; exact absurd rfl (hhead _ rfl).2.2.1
    · next heq => cases heq; exact absurd rfl (hhead _ rfl).2.2.2
    · next heq => cases heq; exact absurd rfl (hhead _ rfl).2.2.1
    · next heq => cases heq; exact h
    · next hquestion => exact absurd rfl (hquestion _)

theorem readOpening_eq_ok : readOpening st text = .ok (opening, st', rest) ↔
    OpeningRead st (layout st.spaced text) opening st' rest :=
  ⟨openingRead_of_readOpening, readOpening_of_openingRead⟩

end

/-! ## Rounds -/

/-- What makes a part that is no primitive. -/
def isSign (c : Char) : Bool :=
  c == ')' || c == '|' || c == '(' || c == '[' || isRepetitionOp c

theorem isSign_eq_false {c : Char} (h : isSign c = false) :
    c ≠ ')' ∧ c ≠ '|' ∧ c ≠ '(' ∧ c ≠ '[' ∧ isRepetitionOp c = false := by
  simpa only [isSign, Bool.or_eq_false_iff, beq_eq_false_iff_ne, and_assoc] using h

theorem ne_of_isRepetitionOp {c d : Char} (hc : isRepetitionOp c = true)
    (hd : isRepetitionOp d = false) : c ≠ d := by
  rintro rfl
  rw [hc] at hd
  cases hd

/-- An item that is no group, which may take hold of the last item so far. -/
inductive ItemRead (st : Reading) : List Tree → List Char → Reading → List Tree → List Char → Prop
  | switch {items : List Tree} {switches : List FlagItem} {st' : Reading} {text rest : List Char} :
    readOpening st text = .ok (.switch switches, st', rest) →
    ItemRead st items ('(' :: text) st' (.flags switches :: items) rest
  | bracket {items : List Tree} {tree : Tree} {text rest : List Char} :
    readClass st.spaced text = .ok (tree, rest) →
    ItemRead st items ('[' :: text) st (tree :: items) rest
  | repetition {items : List Tree} {operand : Tree} {op : Char} {low : Nat} {high : Option Nat}
    {greedy : Bool} {text rest : List Char} :
    isRepetitionOp op = true → operand.isOperand = true →
    readRepetition st.spaced op text = .ok ((low, high, greedy), rest) →
    ItemRead st (operand :: items) (op :: text) st
      (.repetition low high greedy operand :: items) rest
  | primitive {items : List Tree} {c : Char} {p : Primitive} {text rest : List Char} :
    isSign c = false → readPrimitive st.spaced c text = .ok (p, rest) →
    ItemRead st items (c :: text) st (p.toTree :: items) rest

/-- A round on a text without layout in front, with the rounds after it. -/
inductive Round (fuel : Nat) (st : Reading) (branches items : List Tree) :
    List Char → Tree × Reading × List Char → Prop
  | stop {text : List Char} : (∀ c ∈ text.head?, c = ')') → Round fuel st branches items text
    (.ofBranches (Tree.ofSequence items.reverse :: branches).reverse, st, text)
  | bar {text : List Char} {r : Tree × Reading × List Char} :
    readBranches fuel st (Tree.ofSequence items.reverse :: branches) [] text = .ok r →
    Round fuel st branches items ('|' :: text) r
  | item {st' : Reading} {items' : List Tree} {text rest : List Char}
    {r : Tree × Reading × List Char} : ItemRead st items text st' items' rest →
    readBranches fuel st' branches items' rest = .ok r → Round fuel st branches items text r
  | group {kind : GroupKind} {inner after : Reading} {body : Tree} {c : Char}
    {text left rest : List Char} {r : Tree × Reading × List Char} :
    readOpening st text = .ok (.group kind, inner, left) →
    readBranches fuel inner [] [] left = .ok (body, after, c :: rest) →
    readBranches fuel { st with names := after.names } branches (.group kind body :: items) rest =
      .ok r →
    Round fuel st branches items ('(' :: text) r

section

variable {fuel : Nat} {st st' : Reading} {branches items items' : List Tree}
  {text rest : List Char} {r : Tree × Reading × List Char}

/-- Told by the first character, in the order of the reader. -/
theorem round_of_readBranches (h : readBranches (fuel + 1) st branches items text = .ok r) :
    Round fuel st branches items (layout st.spaced text) r := by
  rw [readBranches] at h
  generalize layout st.spaced text = text at h
  cases text with
  | nil =>
    cases h
    exact .stop nofun
  | cons c text =>
    simp only at h
    by_cases hc : c = ')'
    · rw [if_pos hc] at h
      cases h
      exact .stop fun d hd => by
        cases hd
        exact hc
    rw [if_neg hc] at h
    by_cases hbar : c = '|'
    · subst hbar
      exact .bar h
    rw [if_neg hbar] at h
    by_cases hparen : c = '('
    · subst hparen
      rw [if_pos rfl] at h
      split at h
      · cases h
      · next hopen => exact .item (.switch hopen) h
      · next hopen =>
        split at h
        · cases h
        · cases h
        · next hbody => exact .group hopen hbody h
    rw [if_neg hparen] at h
    by_cases hbracket : c = '['
    · subst hbracket
      rw [if_pos rfl] at h
      split at h
      · cases h
      · next hclass => exact .item (.bracket hclass) h
    rw [if_neg hbracket] at h
    cases hop : isRepetitionOp c with
    | true =>
      rw [if_pos hop] at h
      split at h
      · cases h
      · split at h
        · next hoperand =>
          split at h
          · cases h
          · next hrepetition => exact .item (.repetition hop hoperand hrepetition) h
        · cases h
    | false =>
      rw [if_neg (by simp [hop])] at h
      split at h
      · cases h
      · next hprimitive =>
        have hsign : isSign c = false := by simp [isSign, hc, hbar, hparen, hbracket, hop]
        exact .item (.primitive hsign hprimitive) h

theorem readBranches_of_itemRead (hitem : ItemRead st items (layout st.spaced text) st' items' rest)
    (h : readBranches fuel st' branches items' rest = .ok r) :
    readBranches (fuel + 1) st branches items text = .ok r := by
  rw [readBranches]
  generalize layout st.spaced text = text at hitem
  cases hitem with
  | switch hopen =>
    simp only
    rw [if_neg (by decide), if_neg (by decide), if_pos trivial, hopen]
    exact h
  | bracket hclass =>
    simp only
    rw [if_neg (by decide), if_neg (by decide), if_neg (by decide), if_pos trivial, hclass]
    exact h
  | repetition hop hoperand hrepetition =>
    have hne (d : Char) (hd : isRepetitionOp d = false) := ne_of_isRepetitionOp hop hd
    simp only
    rw [if_neg (hne _ (by decide)), if_neg (hne _ (by decide)), if_neg (hne _ (by decide)),
      if_neg (hne _ (by decide)), if_pos hop, if_pos hoperand, hrepetition]
    exact h
  | primitive hsign hprimitive =>
    obtain ⟨hc, hbar, hparen, hbracket, hop⟩ := isSign_eq_false hsign
    simp only
    rw [if_neg hc, if_neg hbar, if_neg hparen, if_neg hbracket, if_neg (by simp [hop]),
      hprimitive]
    exact h

theorem readBranches_of_round (h : Round fuel st branches items (layout st.spaced text) r) :
    readBranches (fuel + 1) st branches items text = .ok r := by
  generalize htext : layout st.spaced text = left at h
  cases h with
  | item hitem h =>
    subst htext
    exact readBranches_of_itemRead hitem h
  | stop hstop =>
    rw [readBranches, htext]
    cases left with
    | nil => rfl
    | cons c left =>
      obtain rfl := hstop c rfl
      simp only [if_pos]
  | bar h =>
    rw [readBranches, htext]
    simp only
    rw [if_neg (by decide), if_pos trivial, h]
  | group hopen hbody h =>
    rw [readBranches, htext]
    simp only
    rw [if_neg (by decide), if_neg (by decide), if_pos trivial, hopen]
    simp only [hbody]
    exact h

theorem readBranches_eq_ok : readBranches (fuel + 1) st branches items text = .ok r ↔
    Round fuel st branches items (layout st.spaced text) r :=
  ⟨round_of_readBranches, readBranches_of_round⟩

/-- More rounds than are needed change nothing. -/
theorem readBranches_mono {fuel' : Nat} (h : readBranches fuel st branches items text = .ok r)
    (hle : fuel ≤ fuel') : readBranches fuel' st branches items text = .ok r := by
  induction fuel generalizing fuel' st branches items text r with
  | zero => cases h
  | succ fuel ih =>
    obtain ⟨fuel', rfl⟩ := Nat.exists_eq_succ_of_ne_zero (Nat.ne_zero_of_lt hle)
    have hle := Nat.le_of_succ_le_succ hle
    rw [readBranches_eq_ok] at h ⊢
    generalize layout st.spaced text = text at h ⊢
    cases h with
    | stop hstop => exact .stop hstop
    | bar h => exact .bar (ih h hle)
    | item hitem h => exact .item hitem (ih h hle)
    | group hopen hbody h => exact .group hopen (ih hbody hle) (ih h hle)

end

end TemplateMatch.Regex
