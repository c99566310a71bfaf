import TemplateMatch.Proofs.Template.Filling

/-!
Expressions that may stand for each other. A text in a group of its own matches what its characters
match one after the other (`Tree.alike_unit`), and whatever is written around both keeps them alike.
-/

namespace TemplateMatch.Regex

open Template (leads_ofList_cons meaning_ofSequence)

namespace Expr

/-- Both match the same and complete the same groups on the way, and a repetition treats them
alike. -/
structure Same (a b : Expr) : Prop where
  isNullOnly_eq : a.isNullOnly = b.isNullOnly
  leads_iff : ∀ p q spans, Leads a p q spans ↔ Leads b p q spans

theorem isNullOnly_ofList (as : List Expr) : (ofList as).isNullOnly = as.all isNullOnly := by
  induction as with
  | nil => rfl
  | cons a as ih =>
    cases as with
    | nil => rw [ofList, List.all_cons, List.all_nil, Bool.and_true]
    | cons b bs =>
      rw [List.all_cons, ← ih]
      rfl

/-- The rounds of a repetition are led alike. -/
theorem leads_repetition_of_same {a b : Expr}
    (h : ∀ p q spans, Leads a p q spans → Leads b p q spans)
    {min : Nat} {max : Option Nat} {greedy : Bool} {p q : Position} {spans : List Span}
    (hl : Leads (.repetition min max greedy a) p q spans) :
    Leads (.repetition min max greedy b) p q spans := by
  generalize he : Expr.repetition min max greedy a = e at hl
  induction hl generalizing min max with
  | leave =>
    cases he
    exact .leave
  | round hmore hfirst _ _ ih =>
    cases he
    exact .round hmore (h _ _ _ hfirst) (ih rfl)
  | _ => cases he

namespace Same

variable {a a' b b' : Expr}

theorem refl (a : Expr) : Same a a := ⟨rfl, fun _ _ _ => .rfl⟩

theorem group (h : Same a a') (name : String) : Same (.group name a) (.group name a') := by
  refine ⟨h.isNullOnly_eq, fun p q spans => ⟨fun hl => ?_, fun hl => ?_⟩⟩
  · cases hl with
    | group hl => exact .group ((h.leads_iff _ _ _).mp hl)
  · cases hl with
    | group hl => exact .group ((h.leads_iff _ _ _).mpr hl)

theorem around (h : Same a a') (kind : GroupKind) : Same (kind.around a) (kind.around a') := by
  unfold GroupKind.around
  split
  · exact h.group _
  · exact h

theorem alt (ha : Same a a') (hb : Same b b') : Same (.alt a b) (.alt a' b') := by
  refine ⟨by rw [isNullOnly, isNullOnly, ha.isNullOnly_eq, hb.isNullOnly_eq],
    fun p q spans => ⟨fun hl => ?_, fun hl => ?_⟩⟩
  · cases hl with
    | left hl => exact .left ((ha.leads_iff _ _ _).mp hl)
    | right hl => exact .right ((hb.leads_iff _ _ _).mp hl)
  · cases hl with
    | left hl => exact .left ((ha.leads_iff _ _ _).mpr hl)
    | right hl => exact .right ((hb.leads_iff _ _ _).mpr hl)

theorem repetition (h : Same a a') (min : Nat) (max : Option Nat) (greedy : Bool) :
    Same (.repetition min max greedy a) (.repetition min max greedy a') :=
  ⟨h.isNullOnly_eq, fun _ _ _ =>
    ⟨leads_repetition_of_same fun _ _ _ hl => (h.leads_iff _ _ _).mp hl,
      leads_repetition_of_same fun _ _ _ hl => (h.leads_iff _ _ _).mpr hl⟩⟩

theorem repeated (h : Same a a') (min : Nat) (max : Option Nat) (greedy : Bool) :
    Same (a.repeated min max greedy) (a'.repeated min max greedy) := by
  -- The bounds depend on the expression only in whether it matches the empty text alone.
  unfold Expr.repeated
  rw [h.isNullOnly_eq]
  generalize (if a'.isNullOnly then _ else (min, max) : Nat × Option Nat) = bounds
  simp only
  split
  · exact refl _
  · split
    · exact h
    · exact h.repetition _ _ _

theorem ofList_append {as as' bs bs' : List Expr} (ha : Same (ofList as) (ofList as'))
    (hb : Same (ofList bs) (ofList bs')) : Same (ofList (as ++ bs)) (ofList (as' ++ bs')) := by
  constructor
  · have ha := ha.isNullOnly_eq
    have hb := hb.isNullOnly_eq
    rw [isNullOnly_ofList, isNullOnly_ofList] at ha hb ⊢
    rw [List.all_append, List.all_append, ha, hb]
  · intro p q spans
    simp only [leads_ofList_append, ha.leads_iff, hb.leads_iff]

theorem ofBranches {as as' : List Expr} (h : List.Forall₂ Same as as') :
    Same (ofBranches as) (ofBranches as') := by
  induction h with
  | nil => exact refl _
  | cons ha h ih =>
    cases h with
    | nil => exact ha
    | cons _ _ => exact ha.alt ih

theorem find_isSome_eq (h : Same a a') (text : List Char) :
    (a.find text).isSome = (a'.find text).isSome := by
  rw [Bool.eq_iff_iff, find_isSome_iff, find_isSome_iff]
  simp only [h.leads_iff]

end Same

end Expr

open TemplateMatch.Regex.Expr (Same)

namespace Tree

/-- Wherever the first tree has a meaning the second has the same, and leaves the same flags. -/
def Alike (t t' : Tree) : Prop :=
  ∀ fl a after, t.meaning fl = .ok (a, after) → ∃ a', t'.meaning fl = .ok (a', after) ∧ Same a a'

/-- Items that are alike as a whole; there may be more on one side. -/
def AlikeItems (ts ts' : List Tree) : Prop :=
  ∀ fl as after, meanings fl ts = .ok (as, after) →
    ∃ as', meanings fl ts' = .ok (as', after) ∧ Same (.ofList as) (.ofList as')

theorem Alike.refl (t : Tree) : Alike t t := fun _ a _ h => ⟨a, h, .refl a⟩

theorem Alike.group {t t' : Tree} (h : Alike t t') (kind : GroupKind) :
    Alike (.group kind t) (.group kind t') := by
  intro fl a after hmeaning
  obtain ⟨b, inner, hb, rfl, rfl⟩ := meaning_group.mp hmeaning
  obtain ⟨b', hb', hsame⟩ := h _ _ _ hb
  exact ⟨_, meaning_group.mpr ⟨b', inner, hb', rfl, rfl⟩, hsame.around kind⟩

theorem Alike.repetition {t t' : Tree} (h : Alike t t') (min : Nat) (max : Option Nat)
    (greedy : Bool) : Alike (.repetition min max greedy t) (.repetition min max greedy t') := by
  intro fl a after hmeaning
  rw [meaning] at hmeaning
  obtain ⟨⟨b, _⟩, hb, heq⟩ := bind_eq_ok.mp hmeaning
  cases heq
  obtain ⟨b', hb', hsame⟩ := h _ _ _ hb
  refine ⟨_, ?_, hsame.repeated _ _ _⟩
  rw [meaning]
  exact bind_eq_ok.mpr ⟨_, hb', rfl⟩

theorem AlikeItems.nil : AlikeItems [] [] := by
  intro fl as after h
  exact ⟨as, h, .refl _⟩

theorem AlikeItems.single {t t' : Tree} (h : Alike t t') : AlikeItems [t] [t'] := by
  intro fl as after hmeanings
  obtain ⟨a, _, _, ha, hnil, rfl⟩ := meanings_cons.mp hmeanings
  cases hnil
  obtain ⟨a', ha', hsame⟩ := h _ _ _ ha
  exact ⟨[a'], meanings_cons.mpr ⟨a', after, [], ha', rfl, rfl⟩, hsame⟩

theorem AlikeItems.append {ts ts' us us' : List Tree} (ht : AlikeItems ts ts')
    (hu : AlikeItems us us') : AlikeItems (ts ++ us) (ts' ++ us') := by
  intro fl cs after h
  obtain ⟨as, mid, bs, has, hbs, rfl⟩ := meanings_append.mp h
  obtain ⟨as', has', hfirst⟩ := ht _ _ _ has
  obtain ⟨bs', hbs', hrest⟩ := hu _ _ _ hbs
  exact ⟨as' ++ bs', meanings_append.mpr ⟨as', mid, bs', has', hbs', rfl⟩,
    hfirst.ofList_append hrest⟩

theorem AlikeItems.ofSequence {ts ts' : List Tree} (h : AlikeItems ts ts') :
    Alike (ofSequence ts) (ofSequence ts') := by
  intro fl a after hmeaning
  obtain ⟨as, has, rfl⟩ := meaning_ofSequence.mp hmeaning
  obtain ⟨as', has', hsame⟩ := h _ _ _ has
  exact ⟨.ofList as', meaning_ofSequence.mpr ⟨as', has', rfl⟩, hsame⟩

theorem meaning_ofBranches {fl after : Flags} {ts : List Tree} {a : Expr} :
    (ofBranches ts).meaning fl = .ok (a, after) ↔
      ∃ as, meanings fl ts = .ok (as, after) ∧ a = .ofBranches as := by
  have hmeaning : (ofBranches ts).meaning fl =
      (meanings fl ts).map fun r => (.ofBranches r.1, r.2) := by
    match ts with
    | [] => rfl
    | [t] =>
      -- A single branch stands for itself, without an alternation around it.
      change meaning fl t = _
      simp only [meanings, bind, Except.bind]
      cases meaning fl t <;> rfl
    | t :: u :: ts =>
      change meaning fl (.alternation (t :: u :: ts)) = _
      rw [meaning]
      cases meanings fl (t :: u :: ts) <;> rfl
  rw [hmeaning, map_eq_ok]
  constructor
  · rintro ⟨⟨as, _⟩, h, heq⟩
    cases heq
    exact ⟨as, h, rfl⟩
  · rintro ⟨as, h, rfl⟩
    exact ⟨_, h, rfl⟩

theorem alike_ofBranches {ts ts' : List Tree} (h : List.Forall₂ Alike ts ts') :
    Alike (ofBranches ts) (ofBranches ts') := by
  have hmeanings (fl : Flags) (as : List Expr) (after : Flags)
      (hts : meanings fl ts = .ok (as, after)) :
      ∃ as', meanings fl ts' = .ok (as', after) ∧ List.Forall₂ Same as as' := by
    induction h generalizing fl as with
    | nil =>
      cases hts
      exact ⟨[], rfl, .nil⟩
    | cons ht _ ih =>
      obtain ⟨a, mid, as, ha, has, rfl⟩ := meanings_cons.mp hts
      obtain ⟨a', ha', hsame⟩ := ht _ _ _ ha
      obtain ⟨as', has', hsames⟩ := ih _ _ has
      exact ⟨a' :: as', meanings_cons.mpr ⟨a', mid, as', ha', has', rfl⟩, .cons hsame hsames⟩
  intro fl a after hmeaning
  obtain ⟨as, has, rfl⟩ := meaning_ofBranches.mp hmeaning
  obtain ⟨as', has', hsames⟩ := hmeanings fl as after has
  exact ⟨.ofBranches as', meaning_ofBranches.mpr ⟨as', has', rfl⟩, .ofBranches hsames⟩

/-- A text in a group of its own. -/
def unit (value : List Char) : Tree := .group (.flags []) (ofSequence (literals value))

theorem alike_unit (value : List Char) : AlikeItems (literals value) [unit value] := by
  intro fl as after h
  obtain ⟨set, hset, _⟩ := exists_meaning_literal fl
  have hliterals := meanings_literals hset value
  rw [hliterals] at h
  cases h
  -- The list of the one expression in the group is that expression.
  refine ⟨[_], meanings_cons.mpr ⟨_, fl, [], meaning_group.mpr ⟨_, fl, ?_, rfl, rfl⟩, rfl, rfl⟩,
    .refl _⟩
  exact meaning_ofSequence.mpr ⟨_, hliterals, rfl⟩

end Tree

end TemplateMatch.Regex
