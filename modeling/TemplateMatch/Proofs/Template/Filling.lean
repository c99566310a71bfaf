import TemplateMatch.Proofs.Template.Captures

/-!
Expressions with texts in the place of named groups. Whatever an expression matches it matches
still when the groups that took part are replaced by the texts that they have in the match
(`meaning_fill`).
-/

namespace TemplateMatch.Regex

open Template (leads_ofList_cons meaning_ofSequence)

/-! ## Groups that complete once -/

namespace Expr

/-- The names of the groups in repetitions. -/
def repeatedGroups : Expr → List String
  | empty | look _ | chars _ => []
  | cat a b | alt a b => a.repeatedGroups ++ b.repeatedGroups
  | group _ a => a.repeatedGroups
  | repetition _ _ _ a => a.groups

/-- A group with the name stands once at most, and in no repetition. -/
def Solitary (e : Expr) (name : String) : Prop :=
  e.groups.count name ≤ 1 ∧ name ∉ e.repeatedGroups

end Expr

/-- Outside of repetitions no group completes more often than it stands there. -/
theorem Leads.count_le {e : Expr} {p q : Position} {spans : List Span} (h : Leads e p q spans)
    {name : String} (hname : name ∉ e.repeatedGroups) :
    (spans.map Prod.fst).count name ≤ e.groups.count name := by
  -- The name stands nowhere in what is repeated, so no round completes it.
  have hrepeated {e : Expr} {p q : Position} {spans : List Span} (h : Leads e p q spans)
      (hname : name ∉ e.groups) : (spans.map Prod.fst).count name ≤ e.groups.count name := by
    have hnone : name ∉ spans.map Prod.fst := by
      intro hmem
      obtain ⟨s, hs, rfl⟩ := List.mem_map.mp hmem
      exact hname (h.name_mem_groups s hs)
    rw [List.count_eq_zero_of_not_mem hnone]
    exact Nat.zero_le _
  induction h with
  | empty | look | chars | leave => exact Nat.zero_le _
  | cat _ _ iha ihb =>
    rw [Expr.repeatedGroups, List.mem_append, not_or] at hname
    rw [List.map_append, List.count_append, Expr.groups, List.count_append, Nat.add_comm]
    exact Nat.add_le_add (iha hname.1) (ihb hname.2)
  | left _ ih =>
    rw [Expr.repeatedGroups, List.mem_append, not_or] at hname
    rw [Expr.groups, List.count_append]
    exact Nat.le_add_right_of_le (ih hname.1)
  | right _ ih =>
    rw [Expr.repeatedGroups, List.mem_append, not_or] at hname
    rw [Expr.groups, List.count_append]
    exact Nat.le_add_left_of_le (ih hname.2)
  | group _ ih =>
    rw [List.map_cons, List.count_cons, Expr.groups, List.count_cons]
    exact Nat.add_le_add_right (ih hname) _
  | round hr hfirst hrest => exact hrepeated (.round hr hfirst hrest) hname

theorem lookup_of_count {spans : List Span} {s : Span} (hs : s ∈ spans)
    (hcount : (spans.map Prod.fst).count s.1 ≤ 1) : spans.lookup s.1 = some s.2 := by
  induction spans with
  | nil => cases hs
  | cons u us ih =>
    rw [List.map_cons, List.count_cons] at hcount
    rw [List.lookup_cons]
    rcases List.mem_cons.mp hs with rfl | hs
    · rw [beq_self_eq_true]
    · have hmem : 0 < (us.map Prod.fst).count s.1 :=
        List.count_pos_iff.mpr (List.mem_map_of_mem hs)
      -- A span of the name in front of this one would make two.
      have hne : (s.1 == u.1) = false := by
        rw [beq_eq_false_iff_ne]
        intro heq
        rw [heq, beq_self_eq_true, if_pos rfl] at hcount
        rw [heq] at hmem
        omega
      rw [hne]
      exact ih hs (Nat.le_trans (Nat.le_add_right _ _) hcount)

/-- A group that stands once has one text, which is the latest. -/
theorem Expr.Solitary.lookup_eq {e : Expr} {s : Span} (h : e.Solitary s.1) {p q : Position}
    {spans : List Span} (hl : Leads e p q spans) (hs : s ∈ spans) :
    spans.lookup s.1 = some s.2 :=
  lookup_of_count hs (Nat.le_trans (hl.count_le h.2) h.1)

/-! ## Texts in the place of groups -/

namespace Tree

/-- A text as an expression, character by character. -/
def literals (text : List Char) : List Tree := text.map fun c => .literal ⟨c, false⟩

/-- The text for a group with a name. -/
def filling? (values : List (String × String)) : Tree → Option (List Char)
  | group (.capture (some name)) _ => (values.lookup name).map String.toList
  | _ => none

mutual

/-- The expression with texts in the place of groups. What is repeated stays as it is. -/
def fill (values : List (String × String)) : Tree → Tree
  | group kind body =>
    match filling? values (group kind body) with
    | some text => ofSequence (literals text)
    | none => group kind (fill values body)
  | alternation items => alternation (fillBranches values items)
  | concat items => ofSequence (fillItems values items)
  | t => t

def fillBranches (values : List (String × String)) : List Tree → List Tree
  | [] => []
  | t :: ts => fill values t :: fillBranches values ts

def fillItems (values : List (String × String)) : List Tree → List Tree
  | [] => []
  | t :: ts =>
    (match filling? values t with
      | some text => literals text
      | none => [fill values t]) ++ fillItems values ts

end

end Tree

/-- The texts of the groups are those given for them. -/
def Agrees (values : List (String × String)) (spans : List Span) : Prop :=
  ∀ s ∈ spans, ∀ value, values.lookup s.1 = some value → s.2.1.textTo s.2.2 = value.toList

theorem Agrees.left {values : List (String × String)} {first then_ : List Span}
    (h : Agrees values (then_ ++ first)) : Agrees values first :=
  fun s hs => h s (List.mem_append_right _ hs)

theorem Agrees.right {values : List (String × String)} {first then_ : List Span}
    (h : Agrees values (then_ ++ first)) : Agrees values then_ :=
  fun s hs => h s (List.mem_append_left _ hs)

namespace GroupKind

/-- The flags inside of a group. -/
def inside (fl : Flags) : GroupKind → Flags
  | flags items => fl.apply items
  | capture _ => fl

/-- What a group means around an expression. -/
def around : GroupKind → Expr → Expr
  | capture (some name), a => .group name a
  | _, a => a

end GroupKind

namespace Expr

/-- Every match with these texts of its groups is one of the second expression too. -/
def Covers (values : List (String × String)) (a a' : Expr) : Prop :=
  ∀ p q spans, Leads a p q spans → Agrees values spans → ∃ spans', Leads a' p q spans'

variable {values : List (String × String)} {a a' b b' : Expr}

theorem Covers.refl (a : Expr) : Covers values a a := fun _ _ spans h _ => ⟨spans, h⟩

theorem Covers.alt (ha : Covers values a a') (hb : Covers values b b') :
    Covers values (.alt a b) (.alt a' b') := by
  intro p q spans h hagrees
  cases h with
  | left h =>
    obtain ⟨spans', h'⟩ := ha p q spans h hagrees
    exact ⟨spans', .left h'⟩
  | right h =>
    obtain ⟨spans', h'⟩ := hb p q spans h hagrees
    exact ⟨spans', .right h'⟩

theorem Covers.group (ha : Covers values a a') (name : String) :
    Covers values (.group name a) (.group name a') := by
  intro p q spans h hagrees
  cases h with
  | group h =>
    obtain ⟨spans', h'⟩ := ha _ _ _ h fun s hs => hagrees s (List.mem_cons_of_mem _ hs)
    exact ⟨_, .group h'⟩

theorem Covers.around (ha : Covers values a a') (kind : GroupKind) :
    Covers values (kind.around a) (kind.around a') := by
  unfold GroupKind.around
  split
  · exact ha.group _
  · exact ha

theorem Covers.branches {as as' : List Expr} (ha : Covers values a a')
    (has : Covers values (.ofBranches as) (.ofBranches as')) (hlength : as'.length = as.length) :
    Covers values (.ofBranches (a :: as)) (.ofBranches (a' :: as')) := by
  cases as with
  | nil =>
    rw [List.eq_nil_of_length_eq_zero hlength]
    exact ha
  | cons b bs =>
    cases as' with
    | nil => cases hlength
    | cons b' bs' => exact ha.alt has

theorem leads_ofList_append {as bs : List Expr} {p r : Position} {spans : List Span} :
    Leads (.ofList (as ++ bs)) p r spans ↔ ∃ q first then_, Leads (.ofList as) p q first ∧
      Leads (.ofList bs) q r then_ ∧ spans = then_ ++ first := by
  induction as generalizing p spans with
  | nil =>
    constructor
    · exact fun h => ⟨p, [], spans, .empty, h, (List.append_nil spans).symm⟩
    · rintro ⟨q, first, then_, ha, hb, rfl⟩
      cases ha
      rwa [List.append_nil]
  | cons a as ih =>
    rw [List.cons_append, leads_ofList_cons]
    constructor
    · rintro ⟨q, first, then_, ha, h, rfl⟩
      obtain ⟨q', more, last, has, hbs, rfl⟩ := ih.mp h
      exact ⟨q', more ++ first, last, leads_ofList_cons.mpr ⟨q, first, more, ha, has, rfl⟩, hbs,
        List.append_assoc _ _ _⟩
    · rintro ⟨q', _, last, h, hbs, rfl⟩
      obtain ⟨q, first, more, ha, has, rfl⟩ := leads_ofList_cons.mp h
      exact ⟨q, first, last ++ more, ha, ih.mpr ⟨q', more, last, has, hbs, rfl⟩,
        (List.append_assoc _ _ _).symm⟩

/-- One more item, in the place of which there may be several. -/
theorem Covers.cons {as es es' : List Expr} (ha : Covers values a (.ofList es))
    (has : Covers values (.ofList as) (.ofList es')) :
    Covers values (.ofList (a :: as)) (.ofList (es ++ es')) := by
  intro p q spans h hagrees
  obtain ⟨r, first, then_, hfirst, hrest, rfl⟩ := leads_ofList_cons.mp h
  obtain ⟨_, hfirst'⟩ := ha _ _ _ hfirst hagrees.left
  obtain ⟨_, hrest'⟩ := has _ _ _ hrest hagrees.right
  exact ⟨_, leads_ofList_append.mpr ⟨_, _, _, hfirst', hrest', rfl⟩⟩

theorem leads_chars {set : Char → CharSet} (hset : ∀ c, (set c).mem c = true) {text : List Char}
    {p : Position} {rest : List Char} (hp : p.rest = text ++ rest) :
    ∃ spans, Leads (.ofList (text.map fun c => .chars (set c))) p (p.skip text.length) spans := by
  induction text generalizing p with
  | nil => exact ⟨[], .empty⟩
  | cons c text ih =>
    rw [List.cons_append] at hp
    have hnext : Position.rest ⟨p.index + 1, some c, text ++ rest⟩ = text ++ rest := rfl
    obtain ⟨spans, h⟩ := ih hnext
    rw [List.map_cons, List.length_cons, Position.skip_succ hp]
    exact ⟨_, leads_ofList_cons.mpr ⟨_, _, spans, .chars hp (hset c), h, rfl⟩⟩

/-- A group with its text in its place. -/
theorem covers_group_chars {name value : String} (hvalue : values.lookup name = some value)
    {set : Char → CharSet} (hset : ∀ c, (set c).mem c = true) :
    Covers values (.group name a) (.ofList (value.toList.map fun c => .chars (set c))) := by
  intro p q spans h hagrees
  obtain ⟨n, hn, rfl⟩ := h.exists_skip
  cases h with
  | group h =>
    have htext := hagrees _ List.mem_cons_self value hvalue
    rw [Position.textTo_skip hn] at htext
    -- The value is the text of the match, so its characters are as many as the match takes.
    have hlength : value.toList.length = n := by
      rw [← htext, List.length_take]
      omega
    have hp : p.rest = value.toList ++ p.rest.drop n := by
      rw [← htext, List.take_append_drop]
    rw [← hlength]
    exact leads_chars hset hp

end Expr

open TemplateMatch.Regex.Expr (Covers)

namespace Tree

variable {values : List (String × String)}

/-- A character always matches itself. -/
theorem exists_meaning_literal (fl : Flags) : ∃ set : Char → CharSet,
    (∀ c, Literal.meaning fl ⟨c, false⟩ = .ok (set c)) ∧ ∀ c, (set c).mem c = true := by
  have hbare (c : Char) : Literal.isBareByte fl ⟨c, false⟩ = false := by
    simp [Literal.isBareByte]
  cases hcase : fl.ignoreCase with
  | false => exact ⟨.single, fun c => by simp [Literal.meaning, hbare, hcase], by simp⟩
  | true =>
    cases hunicode : fl.unicode with
    | false =>
      refine ⟨fun c => .folded false (.single c), fun c => ?_, fun c => ?_⟩
      · simp [Literal.meaning, hbare, hcase, hunicode]
      · simp [CharSet.mem]
    | true =>
      refine ⟨fun c => .represented (Unicode.fold c), fun c => ?_, by simp⟩
      simp [Literal.meaning, hbare, hcase, hunicode]

theorem meanings_cons {fl after : Flags} {t : Tree} {ts : List Tree} {as : List Expr} :
    meanings fl (t :: ts) = .ok (as, after) ↔ ∃ a mid as', meaning fl t = .ok (a, mid) ∧
      meanings mid ts = .ok (as', after) ∧ as = a :: as' := by
  rw [meanings]
  constructor
  · intro h
    obtain ⟨⟨a, mid⟩, hfirst, h⟩ := bind_eq_ok.mp h
    obtain ⟨⟨as', after⟩, hrest, heq⟩ := bind_eq_ok.mp h
    cases heq
    exact ⟨a, mid, as', hfirst, hrest, rfl⟩
  · rintro ⟨a, mid, as', hfirst, hrest, rfl⟩
    exact bind_eq_ok.mpr ⟨_, hfirst, bind_eq_ok.mpr ⟨_, hrest, rfl⟩⟩

theorem meanings_append {fl after : Flags} {ts us : List Tree} {cs : List Expr} :
    meanings fl (ts ++ us) = .ok (cs, after) ↔ ∃ as mid bs, meanings fl ts = .ok (as, mid) ∧
      meanings mid us = .ok (bs, after) ∧ cs = as ++ bs := by
  induction ts generalizing fl cs with
  | nil =>
    constructor
    · exact fun h => ⟨[], fl, cs, rfl, h, rfl⟩
    · rintro ⟨as, mid, bs, ht, hu, rfl⟩
      cases ht
      exact hu
  | cons t ts ih =>
    rw [List.cons_append, meanings_cons]
    constructor
    · rintro ⟨a, next, cs, hfirst, hrest, rfl⟩
      obtain ⟨as, mid, bs, ht, hu, rfl⟩ := ih.mp hrest
      exact ⟨a :: as, mid, bs, meanings_cons.mpr ⟨a, next, as, hfirst, ht, rfl⟩, hu, rfl⟩
    · rintro ⟨_, mid, bs, ht, hu, rfl⟩
      obtain ⟨a, next, as, hfirst, hrest, rfl⟩ := meanings_cons.mp ht
      exact ⟨a, next, as ++ bs, hfirst, ih.mpr ⟨as, mid, bs, hrest, hu, rfl⟩, rfl⟩

theorem meanings_literals {fl : Flags} {set : Char → CharSet}
    (hset : ∀ c, Literal.meaning fl ⟨c, false⟩ = .ok (set c)) (text : List Char) :
    meanings fl (literals text) = .ok (text.map fun c => .chars (set c), fl) := by
  induction text with
  | nil => rfl
  | cons c text ih =>
    have hfirst : meaning fl (.literal ⟨c, false⟩) = .ok (.chars (set c), fl) := by
      rw [meaning, hset c]
      rfl
    exact meanings_cons.mpr ⟨_, fl, _, hfirst, ih, rfl⟩

theorem meaning_group {fl after : Flags} {kind : GroupKind} {body : Tree} {a : Expr} :
    (group kind body).meaning fl = .ok (a, after) ↔ ∃ b inner,
      body.meaning (kind.inside fl) = .ok (b, inner) ∧ after = fl ∧ a = kind.around b := by
  have hmeaning : (group kind body).meaning fl =
      (body.meaning (kind.inside fl)).map fun r => (kind.around r.1, fl) := by
    cases kind with
    | flags items =>
      rw [meaning, GroupKind.inside]
      cases meaning (fl.apply items) body <;> rfl
    | capture name =>
      rw [meaning, GroupKind.inside]
      cases meaning fl body with
      | error e => rfl
      | ok r => cases name <;> rfl
  rw [hmeaning, map_eq_ok]
  constructor
  · rintro ⟨⟨b, inner⟩, h, heq⟩
    cases heq
    exact ⟨b, inner, h, rfl, rfl⟩
  · rintro ⟨b, inner, h, rfl, rfl⟩
    exact ⟨_, h, rfl⟩

theorem meaning_concat {fl after : Flags} {ts : List Tree} {a : Expr} :
    (concat ts).meaning fl = .ok (a, after) ↔
      ∃ es, meanings fl ts = .ok (es, after) ∧ a = .ofList es := by
  rw [meaning, bind_eq_ok]
  constructor
  · rintro ⟨⟨es, _⟩, h, heq⟩
    cases heq
    exact ⟨es, h, rfl⟩
  · rintro ⟨es, h, rfl⟩
    exact ⟨_, h, rfl⟩

theorem meaning_alternation {fl after : Flags} {ts : List Tree} {a : Expr} :
    (alternation ts).meaning fl = .ok (a, after) ↔
      ∃ es, meanings fl ts = .ok (es, after) ∧ a = .ofBranches es := by
  rw [meaning, bind_eq_ok]
  constructor
  · rintro ⟨⟨es, _⟩, h, heq⟩
    cases heq
    exact ⟨es, h, rfl⟩
  · rintro ⟨es, h, rfl⟩
    exact ⟨_, h, rfl⟩

/-- What stands in the place of one item. -/
def fillItem (values : List (String × String)) (t : Tree) : List Tree :=
  match filling? values t with
  | some text => literals text
  | none => [fill values t]

theorem fill_eq_ofSequence (values : List (String × String)) (t : Tree) :
    fill values t = ofSequence (fillItem values t) := by
  rw [fillItem]
  split
  · next text htext =>
    cases t with
    | group kind body => rw [fill, htext]
    | _ => cases htext
  · rfl

theorem meaning_fill_of_item {fl after : Flags} {t : Tree} {a : Expr}
    (h : ∃ es, meanings fl (fillItem values t) = .ok (es, after) ∧ Covers values a (.ofList es)) :
    ∃ a', (fill values t).meaning fl = .ok (a', after) ∧ Covers values a a' := by
  obtain ⟨es, hes, hcovers⟩ := h
  rw [fill_eq_ofSequence]
  exact ⟨.ofList es, meaning_ofSequence.mpr ⟨es, hes, rfl⟩, hcovers⟩

theorem meaning_item_of_fill {fl after : Flags} {t : Tree} {a : Expr}
    (hnone : filling? values t = none)
    (h : ∃ a', (fill values t).meaning fl = .ok (a', after) ∧ Covers values a a') :
    ∃ es, meanings fl (fillItem values t) = .ok (es, after) ∧ Covers values a (.ofList es) := by
  obtain ⟨a', ha', hcovers⟩ := h
  refine ⟨[a'], ?_, hcovers⟩
  rw [fillItem, hnone]
  exact meanings_cons.mpr ⟨a', after, [], ha', rfl, rfl⟩

mutual

/-- An item with texts in the place of groups has a meaning wherever the item has one. It leaves the
same flags behind, and misses no match with these texts of its groups. -/
theorem meaning_fillItem {fl after : Flags} (t : Tree) {a : Expr}
    (h : t.meaning fl = .ok (a, after)) :
    ∃ es, meanings fl (fillItem values t) = .ok (es, after) ∧ Covers values a (.ofList es) := by
  cases hfilling : filling? values t with
  | some text =>
    -- Only a named group has a text in its place.
    match t with
    | .group (.capture (some name)) body =>
      obtain ⟨value, hvalue, rfl⟩ := Option.map_eq_some_iff.mp hfilling
      obtain ⟨b, _, _, rfl, rfl⟩ := meaning_group.mp h
      obtain ⟨set, hset, hmem⟩ := exists_meaning_literal after
      refine ⟨_, ?_, Expr.covers_group_chars hvalue hmem⟩
      rw [fillItem, hfilling]
      exact meanings_literals hset _
  | none =>
    refine meaning_item_of_fill hfilling ?_
    match t with
    | .group kind body =>
      obtain ⟨b, inner, hbody, rfl, rfl⟩ := meaning_group.mp h
      obtain ⟨b', hb', hcovers⟩ := meaning_fill_of_item (meaning_fillItem body hbody)
      rw [fill, hfilling]
      exact ⟨_, meaning_group.mpr ⟨b', inner, hb', rfl, rfl⟩, hcovers.around kind⟩
    | .alternation items =>
      obtain ⟨as, hitems, rfl⟩ := meaning_alternation.mp h
      obtain ⟨es, hes, hcovers, _⟩ := meanings_fillBranches items hitems
      rw [fill]
      exact ⟨.ofBranches es, meaning_alternation.mpr ⟨es, hes, rfl⟩, hcovers⟩
    | .concat items =>
      obtain ⟨as, hitems, rfl⟩ := meaning_concat.mp h
      obtain ⟨es, hes, hcovers⟩ := meanings_fillItems items hitems
      rw [fill]
      exact ⟨.ofList es, meaning_ofSequence.mpr ⟨es, hes, rfl⟩, hcovers⟩
    -- What has no groups stays as it is, and so does what is repeated.
    | .empty => exact ⟨a, h, .refl a⟩
    | .flags items => exact ⟨a, h, .refl a⟩
    | .literal l => exact ⟨a, h, .refl a⟩
    | .dot => exact ⟨a, h, .refl a⟩
    | .assertion _ => exact ⟨a, h, .refl a⟩
    | .shorthand s negated => exact ⟨a, h, .refl a⟩
    | .property q negated => exact ⟨a, h, .refl a⟩
    | .bracket negated body => exact ⟨a, h, .refl a⟩
    | .repetition min max greedy body => exact ⟨a, h, .refl a⟩

theorem meanings_fillBranches {fl after : Flags} (ts : List Tree) {as : List Expr}
    (h : meanings fl ts = .ok (as, after)) :
    ∃ es, meanings fl (fillBranches values ts) = .ok (es, after) ∧
      Covers values (.ofBranches as) (.ofBranches es) ∧ es.length = as.length := by
  match ts with
  | [] =>
    cases h
    exact ⟨[], rfl, .refl _, rfl⟩
  | t :: ts =>
    obtain ⟨a, mid, as, hfirst, hrest, rfl⟩ := meanings_cons.mp h
    obtain ⟨a', ha', hcovers⟩ := meaning_fill_of_item (meaning_fillItem t hfirst)
    obtain ⟨es, hes, hcovers', hlength⟩ := meanings_fillBranches ts hrest
    exact ⟨a' :: es, meanings_cons.mpr ⟨a', mid, es, ha', hes, rfl⟩,
      hcovers.branches hcovers' hlength, congrArg Nat.succ hlength⟩

theorem meanings_fillItems {fl after : Flags} (ts : List Tree) {as : List Expr}
    (h : meanings fl ts = .ok (as, after)) :
    ∃ es, meanings fl (fillItems values ts) = .ok (es, after) ∧
      Covers values (.ofList as) (.ofList es) := by
  match ts with
  | [] =>
    cases h
    exact ⟨[], rfl, .refl _⟩
  | t :: ts =>
    obtain ⟨a, mid, as, hfirst, hrest, rfl⟩ := meanings_cons.mp h
    obtain ⟨es, hes, hcovers⟩ := meaning_fillItem t hfirst
    obtain ⟨es', hes', hcovers'⟩ := meanings_fillItems ts hrest
    exact ⟨es ++ es', meanings_append.mpr ⟨_, _, _, hes, hes', rfl⟩, hcovers.cons hcovers'⟩

end

/-- The expression with texts in the place of groups means one with the same matches, as far as the
groups have these texts. -/
theorem meaning_fill {fl after : Flags} {t : Tree} {a : Expr} (h : t.meaning fl = .ok (a, after))
    (values : List (String × String)) :
    ∃ a', (t.fill values).meaning fl = .ok (a', after) ∧ Covers values a a' :=
  meaning_fill_of_item (meaning_fillItem t h)

end Tree

end TemplateMatch.Regex
