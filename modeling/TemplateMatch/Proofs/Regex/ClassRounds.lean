import TemplateMatch.Proofs.Results
import TemplateMatch.Regex.ClassReader

/-!
What one round of reading a class does: it closes the class, begins the right side of an operator,
or reads a named class, a class within the class or an item (`readClassBody_eq_ok`). What opens a
class and how an item is read are told apart in the same way.
-/

namespace TemplateMatch.Regex

variable {spaced : Bool} {text rest : List Char}

/-! ## Items -/

/-- A hyphen that stands for itself, before the end of a class or another hyphen. -/
abbrev HyphenEnds (spaced : Bool) (behind : List Char) : Prop :=
  glance spaced behind = some ']' ∨ glance spaced behind = some '-'

/-- How an item is read: a single member, or two with a hyphen between them. -/
inductive ClassItemRead (spaced : Bool) (text : List Char) : ClassTree → List Char → Prop
  | single {low : Primitive} {item : ClassTree} {left : List Char} :
    readClassMember spaced text = .ok (low, left) → low.toItem = .ok item →
    layout spaced left ≠ [] →
    (∀ behind, layout spaced left = '-' :: behind → HyphenEnds spaced behind) →
    ClassItemRead spaced text item (layout spaced left)
  | range {low high : Primitive} {l h : Literal} {left behind rest : List Char} :
    readClassMember spaced text = .ok (low, left) → layout spaced left = '-' :: behind →
    ¬HyphenEnds spaced behind → readClassMember spaced (layout spaced behind) = .ok (high, rest) →
    low.toEnd = .ok l → high.toEnd = .ok h → l.char ≤ h.char →
    ClassItemRead spaced text (.range l h) rest

theorem classItemRead_of_readClassItem {item : ClassTree}
    (h : readClassItem spaced text = .ok (item, rest)) : ClassItemRead spaced text item rest := by
  obtain ⟨⟨low, left⟩, hm, h⟩ := bind_eq_ok.mp h
  simp only at h
  split at h
  · cases h
  · next behind hleft =>
    split at h
    · next hend =>
      obtain ⟨item, hitem, heq⟩ := bind_eq_ok.mp h
      rw [← hleft] at heq
      cases heq
      refine .single hm hitem (by simp [hleft]) fun behind' hbehind' => ?_
      rw [hleft] at hbehind'
      cases hbehind'
      exact hend
    · next hend =>
      split at h
      · cases h
      · obtain ⟨⟨high, rest'⟩, hm', h⟩ := bind_eq_ok.mp h
        obtain ⟨l, hlow, h⟩ := bind_eq_ok.mp h
        obtain ⟨u, hhigh, h⟩ := bind_eq_ok.mp h
        split at h
        · next hle =>
          cases h
          exact .range hm hleft hend hm' hlow hhigh hle
        · cases h
  · next hnil hhyphen =>
    obtain ⟨item, hitem, heq⟩ := bind_eq_ok.mp h
    cases heq
    exact .single hm hitem hnil fun behind hbehind => absurd hbehind (hhyphen behind)

theorem readClassItem_of_classItemRead {item : ClassTree}
    (h : ClassItemRead spaced text item rest) : readClassItem spaced text = .ok (item, rest) := by
  cases h with
  | single hm hitem hnil hhyphen =>
    refine bind_eq_ok.mpr ⟨_, hm, ?_⟩
    simp only
    split
    · next heq => exact absurd heq hnil
    · next behind heq =>
      rw [if_pos (hhyphen behind heq), heq]
      exact bind_eq_ok.mpr ⟨_, hitem, rfl⟩
    · exact bind_eq_ok.mpr ⟨_, hitem, rfl⟩
  | range hm hleft hend hm' hlow hhigh hle =>
    refine bind_eq_ok.mpr ⟨_, hm, ?_⟩
    simp only [hleft]
    rw [if_neg hend]
    split
    · next heq => rw [heq] at hm'; cases hm'
    · exact bind_eq_ok.mpr ⟨_, hm', bind_eq_ok.mpr ⟨_, hlow, bind_eq_ok.mpr ⟨_, hhigh, if_pos hle⟩⟩⟩

theorem readClassItem_eq_ok {item : ClassTree} :
    readClassItem spaced text = .ok (item, rest) ↔ ClassItemRead spaced text item rest :=
  ⟨classItemRead_of_readClassItem, readClassItem_of_classItemRead⟩

/-! ## Openings -/

/-- What stands for itself in front of a class, once its sign and its hyphens are read. -/
def firstItems (spaced negated : Bool) (hyphens : List ClassTree) (text : List Char) :
    Except Fault (Bool × List ClassTree × List Char) :=
  match hyphens, text with
  | _, [] => .error .classUnclosed
  | [], ']' :: rest =>
    match layout spaced rest with
    | [] => .error .classUnclosed
    | text => .ok (negated, [.literal ⟨']', false⟩], text)
  | items, text => .ok (negated, items, text)

/-- What follows the sign of a class. -/
def openHyphens (spaced sign : Bool) (text : List Char) :
    Except Fault (Bool × List ClassTree × List Char) :=
  firstItems spaced sign ((gatherAll spaced (· == '-') text).1.map fun c => .literal ⟨c, false⟩)
    (gatherAll spaced (· == '-') text).2

theorem openClass_negated {behind : List Char} (h : layout spaced text = '^' :: behind) :
    openClass spaced text = openHyphens spaced true (layout spaced behind) := by
  rw [openClass, h]
  rfl

theorem openClass_plain (h : (layout spaced text).head? ≠ some '^') :
    openClass spaced text = openHyphens spaced false (layout spaced text) := by
  rw [openClass]
  generalize layout spaced text = text at h
  cases text with
  | nil => rfl
  | cons c text =>
    have hc : c ≠ '^' := fun hc => h (congrArg some hc)
    simp only [List.cons.injEq, hc, false_and, imp_self, implies_true]
    rfl

/-! ## Rounds -/

/-- The operator of a sign that is written twice. -/
def classOp? (sign : Char) : Option ClassOp :=
  if sign = '&' then some .inter
  else if sign = '-' then some .diff
  else if sign = '~' then some .symmDiff
  else none

theorem classOp?_eq_some {sign : Char} {op : ClassOp} : classOp? sign = some op ↔
    sign = '&' ∧ op = .inter ∨ sign = '-' ∧ op = .diff ∨ sign = '~' ∧ op = .symmDiff := by
  constructor
  · intro h
    unfold classOp? at h
    split at h
    · cases h
      exact .inl ⟨‹_›, rfl⟩
    · split at h
      · cases h
        exact .inr (.inl ⟨‹_›, rfl⟩)
      · split at h
        · cases h
          exact .inr (.inr ⟨‹_›, rfl⟩)
        · cases h
  · rintro (⟨rfl, rfl⟩ | ⟨rfl, rfl⟩ | ⟨rfl, rfl⟩) <;> rfl

/-- A text that begins with neither a bracket nor an operator. -/
structure BeginsItem (text : List Char) : Prop where
  ne_open : text.head? ≠ some '['
  ne_close : text.head? ≠ some ']'
  ne_operator : ∀ sign op rest, classOp? sign = some op → text ≠ sign :: sign :: rest

/-- A round on a text without layout in front, with the rounds after it. -/
inductive ClassRound (spaced : Bool) (fuel : Nat) (pending : Pending) (items : List ClassTree) :
    List Char → ClassTree × List Char → Prop
  | close {text : List Char} :
    ClassRound spaced fuel pending items (']' :: text) (pending.close items, text)
  | named {item : ClassTree} {text left : List Char} {r : ClassTree × List Char} :
    readAsciiClass? text = some (item, left) →
    readClassBody spaced fuel pending (item :: items) left = .ok r →
    ClassRound spaced fuel pending items ('[' :: text) r
  | nested {negated : Bool} {first : List ClassTree} {body : ClassTree}
    {text inner left : List Char} {r : ClassTree × List Char} :
    readAsciiClass? text = none → openClass spaced text = .ok (negated, first, inner) →
    readClassBody spaced fuel none first inner = .ok (body, left) →
    readClassBody spaced fuel pending (.bracket negated body :: items) left = .ok r →
    ClassRound spaced fuel pending items ('[' :: text) r
  | operator {sign : Char} {op : ClassOp} {text : List Char} {r : ClassTree × List Char} :
    classOp? sign = some op →
    readClassBody spaced fuel (some (op, pending.close items)) [] text = .ok r →
    ClassRound spaced fuel pending items (sign :: sign :: text) r
  | item {item : ClassTree} {text left : List Char} {r : ClassTree × List Char} :
    BeginsItem text → readClassItem spaced text = .ok (item, left) →
    readClassBody spaced fuel pending (item :: items) left = .ok r →
    ClassRound spaced fuel pending items text r

section

variable {fuel : Nat} {pending : Pending} {items : List ClassTree} {r : ClassTree × List Char}

/-- What is left when the text begins with no bracket and no operator is an item. -/
theorem beginsItem_of_ne (hopen : ∀ rest, text ≠ '[' :: rest) (hclose : ∀ rest, text ≠ ']' :: rest)
    (hinter : ∀ rest, text ≠ '&' :: '&' :: rest) (hdiff : ∀ rest, text ≠ '-' :: '-' :: rest)
    (hsymm : ∀ rest, text ≠ '~' :: '~' :: rest) : BeginsItem text := by
  refine ⟨fun hhead => ?_, fun hhead => ?_, fun sign op rest hop htext => ?_⟩
  · obtain ⟨rest, rfl⟩ := List.head?_eq_some_iff.mp hhead
    exact hopen rest rfl
  · obtain ⟨rest, rfl⟩ := List.head?_eq_some_iff.mp hhead
    exact hclose rest rfl
  · rcases classOp?_eq_some.mp hop with ⟨rfl, -⟩ | ⟨rfl, -⟩ | ⟨rfl, -⟩
    · exact hinter rest htext
    · exact hdiff rest htext
    · exact hsymm rest htext

theorem classRound_of_readClassBody
    (h : readClassBody spaced (fuel + 1) pending items text = .ok r) :
    ClassRound spaced fuel pending items (layout spaced text) r := by
  rw [readClassBody] at h
  generalize layout spaced text = text at h ⊢
  split at h
  · cases h
  · split at h
    · next hitem => exact .named hitem h
    · next hnone =>
      split at h
      · cases h
      · next hopen =>
        split at h
        · cases h
        · next hbody => exact .nested hnone hopen hbody h
  · cases h
    exact .close
  · exact .operator (classOp?_eq_some.mpr (.inl ⟨rfl, rfl⟩)) h
  · exact .operator (classOp?_eq_some.mpr (.inr (.inl ⟨rfl, rfl⟩))) h
  · exact .operator (classOp?_eq_some.mpr (.inr (.inr ⟨rfl, rfl⟩))) h
  · next hopen hclose hinter hdiff hsymm =>
    split at h
    · cases h
    · next hitem => exact .item (beginsItem_of_ne hopen hclose hinter hdiff hsymm) hitem h

theorem readClassBody_of_classRound
    (h : ClassRound spaced fuel pending items (layout spaced text) r) :
    readClassBody spaced (fuel + 1) pending items text = .ok r := by
  rw [readClassBody]
  generalize layout spaced text = text at h ⊢
  cases h with
  | close => rfl
  | named hitem h =>
    simp only [hitem]
    exact h
  | nested hnone hopen hbody h =>
    simp only [hnone, hopen, hbody]
    exact h
  | operator hop h =>
    rcases classOp?_eq_some.mp hop with ⟨rfl, rfl⟩ | ⟨rfl, rfl⟩ | ⟨rfl, rfl⟩ <;> exact h
  | item hbegins hitem h =>
    split
    · cases hitem
    · exact absurd rfl hbegins.ne_open
    · exact absurd rfl hbegins.ne_close
    · exact absurd rfl (hbegins.ne_operator '&' .inter _ rfl)
    · exact absurd rfl (hbegins.ne_operator '-' .diff _ rfl)
    · exact absurd rfl (hbegins.ne_operator '~' .symmDiff _ rfl)
    · rw [hitem]
      exact h

theorem readClassBody_eq_ok : readClassBody spaced (fuel + 1) pending items text = .ok r ↔
    ClassRound spaced fuel pending items (layout spaced text) r :=
  ⟨classRound_of_readClassBody, readClassBody_of_classRound⟩

end

end TemplateMatch.Regex
