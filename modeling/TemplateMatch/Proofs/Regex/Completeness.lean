import TemplateMatch.Proofs.Regex.Walks

/-!
`Expr.run` misses no match: for every match from the place of a thread it has a thread behind that
match, whatever loops there are and whatever they contain. So an expression finds something in a
text if and only if it matches somewhere in it (`Expr.find_isSome_iff`).
-/

namespace TemplateMatch.Regex

/-! ## Addresses -/

namespace Address

/-- The choices of a part are those at its address and below. -/
def Owns (A : Address) (c : List Turn) : Prop := ∃ turns, A = some turns ∧ turns <:+ c

variable {A : Address} {c : List Turn} {s t : Turn}

theorem isSome_of_owns (h : A.Owns c) : A.isSome = true := by
  obtain ⟨turns, rfl, _⟩ := h
  rfl

theorem owns_of_eq (h : A = some c) : A.Owns c := ⟨c, h, List.suffix_rfl⟩

@[simp] theorem isSome_down : (A.down t).isSome = A.isSome := Option.isSome_map

theorem exists_of_owns_down (h : (A.down t).Owns c) :
    ∃ turns, A = some turns ∧ t :: turns <:+ c := by
  obtain ⟨turns, hturns, hsuffix⟩ := h
  obtain ⟨above, rfl, rfl⟩ := Option.map_eq_some_iff.mp hturns
  exact ⟨above, rfl, hsuffix⟩

theorem owns_of_down (h : (A.down t).Owns c) : A.Owns c := by
  obtain ⟨turns, rfl, hsuffix⟩ := exists_of_owns_down h
  exact ⟨turns, rfl, (List.suffix_cons t turns).trans hsuffix⟩

/-- Different turns lead to different parts. -/
theorem turn_eq (h : (A.down s).Owns c) (h' : (A.down t).Owns c) : s = t := by
  obtain ⟨turns, rfl, hs⟩ := exists_of_owns_down h
  obtain ⟨turns', heq, ht⟩ := exists_of_owns_down h'
  cases heq
  have hlength : (s :: turns).length = (t :: turns).length := rfl
  have hsuffix := List.suffix_of_suffix_length_le hs ht (Nat.le_of_eq hlength)
  exact (List.cons.inj (hsuffix.eq_of_length hlength)).1

theorem not_owns_down (h : A = some c) : ¬ (A.down t).Owns c := by
  intro hown
  obtain ⟨turns, hturns, hsuffix⟩ := exists_of_owns_down hown
  rw [h] at hturns
  cases hturns
  have hlength := hsuffix.length_le
  rw [List.length_cons] at hlength
  omega

end Address

/-! ## Parts of expressions -/

namespace Expr

/-- An expression at an address as a stage. -/
def stage (e : Expr) (A : Address) (resumes : List Turn → Position → Position → Prop) : Stage where
  run := e.run A
  leads p q := ∃ spans, Leads e p q spans
  owns := A.Owns
  resumes := resumes

/-- No match of the expression is lost, wherever it stands. -/
def IsFaithful (e : Expr) (text : List Char) : Prop :=
  ∀ A : Address, ∃ resumes, (e.stage A resumes).Faithful text A.isSome

variable {text : List Char} {a b e : Expr} {A : Address}

theorem faithful_of_stage {s : Stage} (h : s.Faithful text A.isSome) (hrun : e.run A = s.run)
    (hleads : ∀ p q spans, Leads e p q spans → s.leads p q) (howns : ∀ c, s.owns c → A.Owns c) :
    ∃ resumes, (e.stage A resumes).Faithful text A.isSome := by
  have hwide : (s.withOwns (fun p q => ∃ spans, Leads e p q spans) A.Owns).Faithful text
      A.isSome :=
    h.withOwns (fun p q ⟨spans, hl⟩ => hleads p q spans hl) howns fun c => Address.isSome_of_owns
  rw [Stage.withOwns, ← hrun] at hwide
  exact ⟨_, hwide⟩

theorem faithful_empty : IsFaithful .empty text := by
  intro A
  have h : (Stage.choice none).Faithful text A.isSome := .choice nofun
  refine faithful_of_stage h (funext fun ts => ?_) (fun p q spans hl => ?_) nofun
  · exact (List.filterMap_some).symm
  · cases hl
    rfl

theorem faithful_look (l : Look) : IsFaithful (.look l) text := by
  intro A
  have h : Stage.Faithful text A.isSome ⟨List.filter fun t => l.holds t.pos,
      fun p q => p = q ∧ l.holds p = true, fun _ => False, fun _ _ _ => False⟩ := by
    refine .plain (fun ts u hu => ?_) fun ts t ht q hl => ?_
    · exact ⟨u, (List.mem_filter.mp hu).1, id, fun c hc => ⟨hc, rfl⟩⟩
    · exact ⟨t, List.mem_filter.mpr ⟨ht, hl.2⟩, hl.1⟩
  refine faithful_of_stage h rfl (fun p q spans hl => ?_) fun c => False.elim
  cases hl with
  | look h => exact ⟨rfl, h⟩

theorem faithful_chars (s : CharSet) : IsFaithful (.chars s) text := by
  intro A
  have h : Stage.Faithful text A.isSome ⟨List.filterMap (Thread.step s),
      fun p q => ∃ spans, Leads (.chars s) p q spans, fun _ => False, fun _ _ _ => False⟩ := by
    refine .plain (fun ts u hu => ?_) fun ts t ht q hl => ?_
    · obtain ⟨t, ht, hstep⟩ := List.mem_filterMap.mp hu
      obtain ⟨_, hl, _⟩ := Thread.step_reaches hstep
      obtain ⟨c, rest, _, _, rfl⟩ := Thread.step_eq_some hstep
      exact ⟨t, ht, hl.mem_all, fun c hc => absurd hc List.not_mem_nil⟩
    · obtain ⟨spans, hl⟩ := hl
      cases hl with
      | @chars _ _ c rest hp hc =>
        refine ⟨{ t with pos := ⟨t.pos.index + 1, some c, rest⟩, trail := [] }, ?_, rfl⟩
        refine List.mem_filterMap.mpr ⟨t, ht, ?_⟩
        rw [Thread.step, hp]
        simp only [hc, if_true]
  exact faithful_of_stage h rfl (fun p q spans hl => ⟨spans, hl⟩) fun c => False.elim

theorem IsFaithful.cat (ha : a.IsFaithful text) (hb : b.IsFaithful text) :
    IsFaithful (.cat a b) text := by
  intro A
  obtain ⟨_, hfirst⟩ := ha (A.down .left)
  obtain ⟨_, hsecond⟩ := hb (A.down .right)
  rw [Address.isSome_down] at hfirst hsecond
  refine faithful_of_stage (hfirst.andThen hsecond fun c hc hc' => ?_) rfl
    (fun p q spans hl => ?_) fun c hc => hc.elim Address.owns_of_down Address.owns_of_down
  · cases Address.turn_eq hc hc'
  · cases hl with
    | cat la lb => exact ⟨_, ⟨_, la⟩, _, lb⟩

theorem IsFaithful.alt (ha : a.IsFaithful text) (hb : b.IsFaithful text) :
    IsFaithful (.alt a b) text := by
  intro A
  obtain ⟨inLeft, hleft⟩ := ha (A.down .left)
  obtain ⟨inRight, hright⟩ := hb (A.down .right)
  rw [Address.isSome_down] at hleft hright
  have hchoice : (Stage.choice A).Faithful text A.isSome :=
    .choice fun c hc => Address.isSome_of_owns (Address.owns_of_eq hc)
  have hboth := hleft.each.both hright.each fun c hc hc' => by cases Address.turn_eq hc hc'
  have hall := hchoice.andThen hboth fun c hc hc' =>
    hc'.elim (Address.not_owns_down hc) (Address.not_owns_down hc)
  -- The run takes the branches thread by thread.
  have hmem (ts : List Thread) (u : Thread) :
      (u ∈ (ts.filterMap (Thread.choose A)).flatMap fun t =>
        a.run (A.down .left) [t] ++ b.run (A.down .right) [t]) ↔
      u ∈ ((Stage.choice A).andThen
        ((a.stage (A.down .left) inLeft).each.both
          (b.stage (A.down .right) inRight).each)).run ts := by
    simp only [List.mem_flatMap, List.mem_append, Stage.andThen, Stage.both, Stage.each,
      Stage.choice, stage]
    constructor
    · rintro ⟨t, ht, hu | hu⟩
      · exact .inl ⟨t, ht, hu⟩
      · exact .inr ⟨t, ht, hu⟩
    · rintro (⟨t, ht, hu⟩ | ⟨t, ht, hu⟩)
      · exact ⟨t, ht, .inl hu⟩
      · exact ⟨t, ht, .inr hu⟩
  refine faithful_of_stage (hall.distinct hmem) rfl (fun p q spans hl => ⟨p, rfl, ?_⟩)
    fun c hc => ?_
  · cases hl with
    | left hl => exact .inl ⟨_, hl⟩
    | right hl => exact .inr ⟨_, hl⟩
  · rcases hc with hc | hc | hc
    · exact Address.owns_of_eq hc
    · exact Address.owns_of_down hc
    · exact Address.owns_of_down hc

theorem IsFaithful.group (ha : a.IsFaithful text) (name : String) :
    IsFaithful (.group name a) text := by
  intro A
  obtain ⟨_, h⟩ := ha A
  have hclose (t : Thread) : (t.closeGroup name).pos = t.pos ∧
      (t.closeGroup name).trail = t.trail := by
    rw [Thread.closeGroup]
    split <;> exact ⟨rfl, rfl⟩
  have hopen (t : Thread) : t.openGroup.pos = t.pos ∧ t.openGroup.trail = t.trail := ⟨rfl, rfl⟩
  refine faithful_of_stage (h.between hopen hclose) rfl (fun p q spans hl => ?_) fun c hc => hc
  cases hl with
  | group hl => exact ⟨_, hl⟩

/-! ## Loops -/

/-- The rounds that are required come first in every match. -/
theorem exists_rounds {round : Nat → Stage} {min : Nat} {max : Option Nat} {greedy : Bool}
    (hround : ∀ i p q spans, Leads a p q spans → (round i).leads p q) {n : Nat} {p q : Position}
    {spans : List Span} (h : Leads (.repetition (n + min) max greedy a) p q spans) :
    ∃ r, (Stage.rounds round n).leads p r ∧
      ∃ spans, Leads (.repetition min (max.map (· - n)) greedy a) r q spans := by
  induction n generalizing p max spans with
  | zero =>
    rw [Nat.zero_add] at h
    exact ⟨p, rfl, spans, by simpa using h⟩
  | succ n ih =>
    generalize hmin : n + 1 + min = low at h
    cases h with
    | leave => omega
    | round _ hfirst hrest =>
      rw [← hmin, show n + 1 + min - 1 = n + min by omega] at hrest
      obtain ⟨r, hrounds, spans, hrest⟩ := ih hrest
      rw [Option.map_map] at hrest
      refine ⟨r, ⟨_, hround n _ _ _ hfirst, hrounds⟩, spans, ?_⟩
      rwa [show (fun k => k - n) ∘ (fun k => k - 1) = fun k => k - (n + 1) from
        funext fun k => by simp only [Function.comp]; omega] at hrest

theorem exists_rounds_bounded {l : Loop} {round : Nat → Stage} {top : Nat} {greedy : Bool}
    (hround : ∀ i < top, ∀ p q spans, Leads a p q spans → (round i).leads p q)
    {p q : Position} {spans : List Span}
    (h : Leads (.repetition 0 (some top) greedy a) p q spans) :
    ∃ n, (l.bounded round).Rounds n top p q := by
  induction top generalizing p spans with
  | zero =>
    cases h with
    | leave => exact ⟨0, .inl rfl, rfl⟩
    | round hr => simp at hr
  | succ top ih =>
    cases h with
    | leave => exact ⟨0, .inr trivial, rfl⟩
    | round _ hfirst hrest =>
      obtain ⟨n, hrest⟩ := ih (fun i hi => hround i (Nat.lt_succ_of_lt hi)) hrest
      exact ⟨n + 1, Nat.succ_ne_zero top, _, hround top (Nat.lt_succ_self top) _ _ _ hfirst, hrest⟩

theorem exists_rounds_unbounded {l : Loop} {round : Nat → Stage} {greedy : Bool}
    (hround : ∀ p q spans, Leads a p q spans → (round 0).leads p q)
    {p q : Position} {spans : List Span}
    (h : Leads (.repetition 0 none greedy a) p q spans) :
    ∃ n, (l.unbounded round).Rounds n 1 p q := by
  generalize he : Expr.repetition 0 none greedy a = e at h
  induction h with
  | leave => exact ⟨0, .inr (by decide : 1 ≤ 2), rfl⟩
  | round _ hfirst hrest _ ih =>
    cases he
    obtain ⟨n, hrest⟩ := ih rfl
    exact ⟨n + 1, Nat.one_ne_zero, _, hround _ _ _ hfirst, hrest⟩
  | _ => cases he

/-- A walk that explores whatever threads it is given loses no match. -/
theorem faithful_walkAll {k : Course} {live : Bool} {top : Nat}
    {walk : LoopWalk → Thread → LoopWalk} (hk : k.Orderly text live)
    (h : ∀ ts, Inside text ts → ∃ seen, k.Explored top ts (ts.foldl walk {}).left seen) :
    (k.stage top (Loop.walkAll walk)).Faithful text live :=
  (Course.Explored.faithful hk h).distinct fun _ _ => List.mem_reverse

/-- The rounds of a loop at an address. -/
def rounds (a : Expr) (A : Address) (resumes : Nat → List Turn → Position → Position → Prop)
    (n : Nat) : Stage := a.stage (A.down (.round n)) (resumes n)

section

variable {resumes : Nat → List Turn → Position → Position → Prop}

/-- The choices in different rounds are told apart. -/
theorem number_eq {m n : Nat} {c : List Turn} (hm : (a.rounds A resumes m).owns c)
    (hn : (a.rounds A resumes n).owns c) : m = n := by
  cases Address.turn_eq hm hn
  rfl

theorem leads_rounds {n : Nat} {p q : Position} {spans : List Span} (h : Leads a p q spans) :
    (a.rounds A resumes n).leads p q := ⟨spans, h⟩

theorem run_nil (e : Expr) (A : Address) : e.run A [] = [] := by
  refine List.eq_nil_iff_forall_not_mem.mpr fun u hu => ?_
  obtain ⟨t, ht, _⟩ := mem_run hu
  exact absurd ht List.not_mem_nil

theorem onward_rounds (n : Nat) : Loop.Onward (a.rounds A resumes n) := by
  intro v x hx
  obtain ⟨t, ht, _, hl, _⟩ := mem_run hx
  obtain ⟨n, hn, hpos⟩ := hl.exists_skip
  rw [List.mem_singleton.mp ht] at hn hpos
  rw [hpos, Position.index_skip hn]
  exact Nat.le_add_right _ _

/-- The choices of a bounded loop, and those in its rounds, are told apart. -/
theorem orderly_bounded {l : Loop}
    (hround : ∀ n, (a.rounds l.address resumes n).Faithful text l.address.isSome) (top : Nat) :
    (l.bounded (Stage.below top (a.rounds l.address resumes))).Orderly text
      l.address.isSome := by
  refine ⟨fun level => .below hround _ _, fun hc => ?_, fun hlevel hlevel' hc hc' => ?_,
    fun hc hown => ?_, fun {level level' c} hlevel hlevel' hown hown' => ?_⟩
  · exact Address.isSome_of_owns (Address.owns_of_down (Address.owns_of_eq hc))
  · have hturn := Address.turn_eq (Address.owns_of_eq hc) (Address.owns_of_eq hc')
    injection hturn with hnumber
    omega
  · cases Address.turn_eq (Address.owns_of_eq hc) (Stage.of_owns_below hown).2
  · have hnumber := number_eq (Stage.of_owns_below hown).2 (Stage.of_owns_below hown').2
    have hlevels : level = level' := by omega
    rw [hlevels]
    exact ⟨rfl, rfl⟩

/-- The choices of a loop without a bound. Outside of other loops it makes none. -/
theorem owns_of_choice {l : Loop} {turns : List Turn} {round : Nat → Stage} {level : Nat}
    {c : List Turn} (hl : l.address = none ∨ l.address = some turns)
    (hc : (l.unbounded round).choice level = some c) :
    ∃ i, level = i + 1 ∧ (Address.down (some turns) (.choice i)).Owns c := by
  unfold Loop.unbounded at hc
  rcases hl with hl | hl
  · simp only [hl] at hc
    split at hc <;> cases hc
  · simp only [hl] at hc
    split at hc
    · exact ⟨0, rfl, Address.owns_of_eq hc⟩
    · exact ⟨1, rfl, Address.owns_of_eq hc⟩
    · cases hc

theorem orderly_unbounded {l : Loop} {turns : List Turn}
    (hl : l.address = none ∨ l.address = some turns)
    (hround : ∀ n, (a.rounds (some turns) resumes n).Faithful text true) :
    (l.unbounded (a.rounds (some turns) resumes)).Orderly text true := by
  refine ⟨fun _ => hround 0, fun _ => rfl, fun _ _ hc hc' => ?_, fun hc hown => ?_,
    fun _ _ _ _ => ⟨rfl, rfl⟩⟩
  · obtain ⟨i, hlevel, hown⟩ := owns_of_choice hl hc
    obtain ⟨i', hlevel', hown'⟩ := owns_of_choice hl hc'
    have hturn := Address.turn_eq hown hown'
    injection hturn with hnumber
    omega
  · obtain ⟨i, _, hown'⟩ := owns_of_choice hl hc
    cases Address.turn_eq hown' hown

/-- The loop itself makes no choice of a round that is required. -/
theorem owns_of_unbounded {l : Loop} {turns : List Turn}
    (hl : l.address = none ∨ l.address = some turns) {top : Nat}
    {run : List Thread → List Thread} {c : List Turn}
    (hc : ((l.unbounded (a.rounds (some turns) resumes)).stage top run).owns c) :
    Address.Owns (some turns) c ∧ ∀ n, ¬ (a.rounds (some turns) resumes (n + 1)).owns c := by
  obtain ⟨level, _, hc | hc⟩ := hc
  · obtain ⟨i, _, hown⟩ := owns_of_choice hl hc
    exact ⟨Address.owns_of_down hown, fun n hround => by cases Address.turn_eq hown hround⟩
  · exact ⟨Address.owns_of_down hc, fun n hround => by cases number_eq hc hround⟩

/-! The walks of a loop without a bound, for threads whose trails count in it. -/

variable {l : Loop} {turns : List Turn} (greedy : Bool)
  (hl : l.address = none ∨ l.address = some turns)
  (hlround : ∀ t, l.round 0 t = (a.rounds (some turns) resumes 0).run [t])
  (hround : ∀ n, (a.rounds (some turns) resumes n).Faithful text true)

include hl hlround hround

theorem faithful_again : ∃ resumes', Stage.Faithful text true ⟨Loop.walkAll l.again,
    fun p q => ∃ spans, Leads (.repetition 0 none greedy a) p q spans,
    Address.Owns (some turns), resumes'⟩ := by
  have hk := orderly_unbounded hl hround
  have hwalk := faithful_walkAll hk fun ts hts =>
    Marking.explored_of_walked hts (fun _ => rfl) fun w t ht =>
      Loop.walked_again hk hlround (onward_rounds 0) (hts t ht)
  refine ⟨_, hwalk.withOwns (fun p q hl => ?_) (fun c hc => (owns_of_unbounded hl hc).1)
    fun _ _ => rfl⟩
  obtain ⟨spans, hl⟩ := hl
  exact exists_rounds_unbounded (fun _ _ _ => leads_rounds) hl

theorem faithful_orNone : ∃ resumes', Stage.Faithful text true ⟨Loop.walkAll l.orNone,
    fun p q => ∃ spans, Leads (.repetition 0 none greedy a) p q spans,
    Address.Owns (some turns), resumes'⟩ := by
  have hk := orderly_unbounded hl hround
  have hwalk := faithful_walkAll hk fun ts hts =>
    Marking.explored_of_entered hts (by decide) (by decide : ¬ 2 = 1) fun w t ht =>
      Loop.entered_orNone hk hlround (onward_rounds 0) (hts t ht)
  refine ⟨_, hwalk.withOwns (fun p q hl => ?_) (fun c hc => (owns_of_unbounded hl hc).1)
    fun _ _ => rfl⟩
  obtain ⟨spans, hl⟩ := hl
  obtain ⟨n, hrounds⟩ := exists_rounds_unbounded (l := l) (fun _ _ _ => leads_rounds) hl
  -- The first choice is between the same ways as the later ones.
  cases n with
  | zero => exact ⟨0, .inr (Nat.le_refl 2), hrounds.2⟩
  | succ n => exact ⟨n + 1, by decide, hrounds.2⟩

theorem faithful_required {min : Nat} (hmin : min ≠ 0) :
    ∃ resumes', Stage.Faithful text true ⟨fun ts => Loop.walkAll l.onceOrMore
      (requiredRounds (fun n => (a.rounds (some turns) resumes (n + 1)).run) (min - 1) ts),
    fun p q => ∃ spans, Leads (.repetition min none greedy a) p q spans,
    Address.Owns (some turns), resumes'⟩ := by
  have hk := orderly_unbounded hl hround
  have hwalk := faithful_walkAll hk fun ts hts =>
    Marking.explored_of_entered hts (by decide) (by decide : ¬ 3 = 1) fun w t ht =>
      Loop.entered_onceOrMore hk hlround (onward_rounds 0) (hts t ht)
  have hrequired : (Stage.rounds (fun n => a.rounds (some turns) resumes (n + 1))
      (min - 1)).Faithful text true := by
    refine .rounds (fun n => hround _) (fun m n c hm hn => ?_) _
    exact Nat.succ.inj (number_eq hm hn)
  have hall := hrequired.andThen hwalk fun c hc hc' => by
    obtain ⟨i, _, hown⟩ := Stage.Faithful.exists_of_owns_rounds hc
    exact (owns_of_unbounded hl hc').2 i hown
  have hwide : (Stage.withOwns _ (fun p q => ∃ spans,
      Leads (.repetition min none greedy a) p q spans) (Address.Owns (some turns))).Faithful
        text true := hall.withOwns (fun p q hl => ?_) (fun c hc => ?_) fun _ _ => rfl
  · rw [Stage.withOwns, Stage.andThen, Stage.run_rounds fun n => run_nil a _] at hwide
    exact ⟨_, hwide⟩
  · obtain ⟨spans, hl⟩ := hl
    rw [show min = min - 1 + 1 by omega] at hl
    obtain ⟨r, hfirst, spans, hlast⟩ := exists_rounds (fun i p q spans => leads_rounds) hl
    refine ⟨r, hfirst, ?_⟩
    cases hlast with
    | round _ hround hrest =>
      obtain ⟨n, hrounds⟩ := exists_rounds_unbounded (fun _ _ _ => leads_rounds) hrest
      exact ⟨n + 1, by decide, _, leads_rounds hround, hrounds⟩
  · rcases hc with hc | hc
    · obtain ⟨i, _, hown⟩ := Stage.Faithful.exists_of_owns_rounds hc
      exact Address.owns_of_down hown
    · exact (owns_of_unbounded hl hc).1

theorem faithful_endless (min : Nat) :
    ∃ resumes', Stage.Faithful text true ⟨fun ts =>
      if min = 0 then Loop.walkAll (if a.mayBeEmpty then l.orNone else l.again) ts
      else Loop.walkAll l.onceOrMore
        (requiredRounds (fun n => (a.rounds (some turns) resumes (n + 1)).run) (min - 1) ts),
      fun p q => ∃ spans, Leads (.repetition min none greedy a) p q spans,
      Address.Owns (some turns), resumes'⟩ := by
  by_cases hmin : min = 0
  · subst hmin
    simp only [if_true]
    split
    · exact faithful_orNone greedy hl hlround hround
    · exact faithful_again greedy hl hlround hround
  · simp only [if_neg hmin]
    exact faithful_required greedy hl hlround hround hmin

end

theorem IsFaithful.bounded (ha : a.IsFaithful text) (min max : Nat) (greedy : Bool) :
    IsFaithful (.repetition min (some max) greedy a) text := by
  intro A
  obtain ⟨resumes, hround⟩ := Classical.skolem.mp fun n => ha (A.down (.round n))
  simp only [Address.isSome_down] at hround
  let l : Loop := ⟨fun n t => a.run (A.down (.round n)) [t], A, greedy⟩
  have hk := orderly_bounded (l := l) hround (max - min)
  have hwalk := faithful_walkAll hk fun ts hts =>
    Marking.explored_of_walked hts (fun _ => trivial) fun w t ht =>
      Loop.walked_atMost hk (fun n hn t => by rw [Stage.below_of_lt hn]; rfl) (hts t ht)
  have hrequired : (Stage.rounds (fun n => a.rounds A resumes (max - min + n)) min).Faithful text
      A.isSome := by
    refine .rounds (fun n => hround _) (fun m n c hm hn => ?_) min
    exact Nat.add_left_cancel (number_eq hm hn)
  have hall := hrequired.andThen hwalk fun c hc hc' => by
    obtain ⟨i, hi, hown⟩ := Stage.Faithful.exists_of_owns_rounds hc
    obtain ⟨level, hlevel, hown' | hown'⟩ := hc'
    · cases Address.turn_eq hown (Address.owns_of_eq hown')
    · obtain ⟨hlt, hown'⟩ := Stage.of_owns_below hown'
      have hnumber := number_eq hown hown'
      omega
  refine faithful_of_stage hall ?_ (fun p q spans hl => ?_) fun c hc => ?_
  · funext ts
    change _ = Loop.walkAll (l.atMost (max - min)) ((Stage.rounds _ min).run ts)
    rw [Stage.run_rounds fun n => run_nil a _]
    rfl
  · have hrounds : Leads (.repetition (min + 0) (some max) greedy a) p q spans := hl
    obtain ⟨r, hfirst, spans, hrest⟩ := exists_rounds (fun i p q spans => leads_rounds) hrounds
    refine ⟨r, hfirst, exists_rounds_bounded (fun i hi p q spans hl => ?_) hrest⟩
    rw [Stage.below_of_lt hi]
    exact leads_rounds hl
  · rcases hc with hc | ⟨level, hlevel, hc | hc⟩
    · obtain ⟨i, hi, hown⟩ := Stage.Faithful.exists_of_owns_rounds hc
      exact Address.owns_of_down hown
    · exact Address.owns_of_down (Address.owns_of_eq hc)
    · exact Address.owns_of_down (Stage.of_owns_below hc).2

theorem IsFaithful.unbounded (ha : a.IsFaithful text) (min : Nat) (greedy : Bool) :
    IsFaithful (.repetition min none greedy a) text := by
  intro A
  let inside : Address := some (A.getD [])
  obtain ⟨resumes, hround⟩ := Classical.skolem.mp fun n => ha (inside.down (.round n))
  simp only [Address.isSome_down] at hround
  let l : Loop := ⟨fun n t => a.run (inside.down (.round n)) [t], A, greedy⟩
  have hl : l.address = none ∨ l.address = inside := by
    cases A with
    | none => exact .inl rfl
    | some turns => exact .inr rfl
  obtain ⟨resumes', hall⟩ := faithful_endless greedy hl (fun t => rfl) hround min
  cases A with
  | none =>
    have hclear (t : Thread) : (t.enterLoop none).pos = t.pos ∧ (t.enterLoop none).trail = [] :=
      ⟨rfl, rfl⟩
    exact faithful_of_stage (hall.fresh hclear) rfl (fun p q spans hl => ⟨spans, hl⟩)
      fun c => False.elim
  | some turns =>
    refine faithful_of_stage hall (funext fun ts => ?_) (fun p q spans hl => ⟨spans, hl⟩)
      fun c hc => hc
    have henter : ts.map (Thread.enterLoop (some turns)) = ts := List.map_id' ts
    rw [run, henter]
    rfl

/-- No match of any expression is lost. -/
theorem isFaithful (e : Expr) (text : List Char) : e.IsFaithful text := by
  induction e with
  | empty => exact faithful_empty
  | look l => exact faithful_look l
  | chars s => exact faithful_chars s
  | cat a b iha ihb => exact iha.cat ihb
  | alt a b iha ihb => exact iha.alt ihb
  | group name a ih => exact ih.group name
  | repetition min max greedy a ih =>
    cases max with
    | none => exact ih.unbounded min greedy
    | some max => exact ih.bounded min max greedy

/-- Threads that have made no choices yet lead to the end of every match. -/
theorem exists_mem_run {ts : List Thread} (hts : Inside text ts) (hfresh : ∀ t ∈ ts, t.trail = [])
    {t : Thread} (ht : t ∈ ts) {q : Position} {spans : List Span} (h : Leads e t.pos q spans) :
    ∃ u ∈ e.run A ts, u.pos = q := by
  obtain ⟨resumes, hfaithful⟩ := e.isFaithful text A
  rcases hfaithful.found hts ht ⟨spans, h⟩ with hfound | ⟨c, p, ⟨u, hu, hc, _⟩, _⟩
  · exact hfound
  · rw [hfresh u hu] at hc
    exact absurd hc List.not_mem_nil

/-- Something is found in a text if and only if there is a match in it. -/
theorem find_isSome_iff {e : Expr} {text : List Char} : (e.find text).isSome = true ↔
    ∃ p ∈ Position.all text, ∃ q spans, Leads e p q spans := by
  constructor
  · intro h
    obtain ⟨m, hm⟩ := Option.isSome_iff_exists.mp h
    obtain ⟨p, hp, q, spans, hl, _⟩ := find_eq_some hm
    exact ⟨p, hp, q, spans, hl⟩
  · rintro ⟨p, hp, q, spans, hl⟩
    have hts : Inside text ((Position.all text).map fun p => { start := p.index, pos := p }) := by
      intro t ht
      obtain ⟨p, hp, rfl⟩ := List.mem_map.mp ht
      exact hp
    have hfresh : ∀ t ∈ (Position.all text).map fun p => ({ start := p.index, pos := p } : Thread),
        t.trail = [] := by
      intro t ht
      obtain ⟨p, _, rfl⟩ := List.mem_map.mp ht
      rfl
    obtain ⟨u, hu, _⟩ := exists_mem_run (A := none) hts hfresh (List.mem_map_of_mem hp) hl
    rw [find, Option.isSome_map, List.isSome_head?]
    exact List.ne_nil_of_mem hu

end Expr

end TemplateMatch.Regex
