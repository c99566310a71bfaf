import TemplateMatch.Proofs.Regex.Leads

/-!
Every thread that `Expr.run` gives has come from one of the threads it was given by a match of the
expression: `mem_run`. The walks through loops skip places, but they invent none.
-/

namespace TemplateMatch.Regex

/-- A thread comes from another one by a match of an expression. Trails do not matter. -/
def Thread.Reaches (e : Expr) (t u : Thread) : Prop :=
  ∃ spans, Leads e t.pos u.pos spans ∧ u.groups = spans ++ t.groups ∧ u.opened = t.opened ∧
    u.start = t.start

open Thread (Reaches)

/-! ## Threads -/

namespace Thread

theorem Reaches.empty (t : Thread) : Reaches .empty t t := ⟨[], .empty, rfl, rfl, rfl⟩

theorem Reaches.leave (max : Option Nat) (greedy : Bool) (a : Expr) (t : Thread) :
    Reaches (.repetition 0 max greedy a) t t := ⟨[], .leave, rfl, rfl, rfl⟩

theorem Reaches.cat {a b : Expr} {t u v : Thread} (ha : Reaches a t u) (hb : Reaches b u v) :
    Reaches (.cat a b) t v := by
  obtain ⟨first, la, ga, oa, sa⟩ := ha
  obtain ⟨next, lb, gb, ob, sb⟩ := hb
  exact ⟨next ++ first, .cat la lb, by rw [gb, ga, List.append_assoc], ob.trans oa, sb.trans sa⟩

theorem Reaches.round {min : Nat} {max : Option Nat} {greedy : Bool} {a : Expr} {t u v : Thread}
    (hr : min ≠ 0 ∨ max ≠ some 0) (ha : Reaches a t u)
    (hb : Reaches (.repetition (min - 1) (max.map (· - 1)) greedy a) u v) :
    Reaches (.repetition min max greedy a) t v := by
  obtain ⟨first, la, ga, oa, sa⟩ := ha
  obtain ⟨next, lb, gb, ob, sb⟩ := hb
  exact ⟨next ++ first, .round hr la lb, by rw [gb, ga, List.append_assoc], ob.trans oa,
    sb.trans sa⟩

theorem Reaches.of_trail {e : Expr} {t u : Thread} {trail : List (List Turn)}
    (h : Reaches e { t with trail := trail } u) : Reaches e t u := h

theorem step_eq_some {s : CharSet} {t u : Thread} (h : t.step s = some u) :
    ∃ c rest, t.pos.rest = c :: rest ∧ s.mem c = true ∧
      u = { t with pos := ⟨t.pos.index + 1, some c, rest⟩, trail := [] } := by
  unfold step at h
  split at h
  · cases h
  · next c rest hp =>
    split at h
    · next hc => exact ⟨c, rest, hp, hc, (Option.some.inj h).symm⟩
    · cases h

theorem step_reaches {s : CharSet} {t u : Thread} (h : t.step s = some u) :
    Reaches (.chars s) t u := by
  obtain ⟨c, rest, hp, hc, rfl⟩ := step_eq_some h
  exact ⟨[], .chars hp hc, rfl, rfl, rfl⟩

theorem choose_eq_some {address : Address} {t u : Thread} (h : t.choose address = some u) :
    ∃ trail, u = { t with trail := trail } := by
  unfold choose at h
  split at h
  · exact ⟨t.trail, (Option.some.inj h).symm⟩
  · split at h
    · cases h
    · exact ⟨_, (Option.some.inj h).symm⟩

theorem enterLoop_eq (address : Address) (t : Thread) :
    ∃ trail, t.enterLoop address = { t with trail := trail } := by
  cases address with
  | none => exact ⟨[], rfl⟩
  | some _ => exact ⟨t.trail, rfl⟩

theorem Reaches.of_enterLoop {e : Expr} {address : Address} {t u : Thread}
    (h : Reaches e (t.enterLoop address) u) : Reaches e t u := by
  obtain ⟨trail, he⟩ := enterLoop_eq address t
  rw [he] at h
  exact h

/-- A group around a match records where it began and ended. -/
theorem Reaches.group {name : String} {a : Expr} {t u : Thread} (h : Reaches a t.openGroup u) :
    Reaches (.group name a) t (u.closeGroup name) := by
  obtain ⟨spans, la, ga, oa, sa⟩ := h
  have hu : u.closeGroup name =
      { u with opened := t.opened, groups := (name, t.pos, u.pos) :: u.groups } := by
    rw [closeGroup, oa]
    rfl
  rw [hu]
  exact ⟨(name, t.pos, u.pos) :: spans, .group la, by rw [ga]; rfl, rfl, sa⟩

theorem mem_distinctFrom {t : Thread} {ts : List Thread} {seen : Std.TreeSet Nat}
    (h : t ∈ distinctFrom seen ts) : t ∈ ts := by
  induction ts generalizing seen with
  | nil => exact h
  | cons u us ih =>
    rw [distinctFrom] at h
    split at h
    · exact List.mem_cons_of_mem _ (ih h)
    · rcases List.mem_cons.mp h with rfl | h
      · exact List.mem_cons_self
      · exact List.mem_cons_of_mem _ (ih h)

theorem mem_distinct {t : Thread} {ts : List Thread} (h : t ∈ distinct ts) : t ∈ ts :=
  mem_distinctFrom h

end Thread

/-! ## Loops -/

namespace Loop

variable {l : Loop} {a : Expr}

/-- The rounds of a loop are matches of what is repeated. -/
def Repeats (l : Loop) (a : Expr) : Prop := ∀ n t u, u ∈ l.round n t → Reaches a t u

/-- What leaves the loop during a walk over threads has come from one of them. -/
theorem mem_left_foldl {walk : LoopWalk → Thread → LoopWalk} {u : Thread} {P : Thread → Prop}
    (hwalk : ∀ w t, u ∈ (walk w t).left → u ∈ w.left ∨ P t) {w : LoopWalk}
    {ts : List Thread} (h : u ∈ (ts.foldl walk w).left) : u ∈ w.left ∨ ∃ t ∈ ts, P t := by
  induction ts generalizing w with
  | nil => exact .inl h
  | cons t ts ih =>
    rcases ih h with h | ⟨v, hv, hp⟩
    · exact (hwalk w t h).imp id fun hp => ⟨t, List.mem_cons_self, hp⟩
    · exact .inr ⟨v, List.mem_cons_of_mem _ hv, hp⟩

/-- What leaves after a round has made that round and whatever came behind it. -/
theorem mem_left_round (min : Nat) (max : Option Nat) {walk : LoopWalk → Thread → LoopWalk}
    {u : Thread} (hl : Repeats l a) (hr : min ≠ 0 ∨ max ≠ some 0)
    (hwalk : ∀ w t, u ∈ (walk w t).left → u ∈ w.left ∨
      Reaches (.repetition (min - 1) (max.map (· - 1)) l.greedy a) t u)
    (n : Nat) (t : Thread) (w : LoopWalk) (h : u ∈ ((l.round n t).foldl walk w).left) :
    u ∈ w.left ∨ Reaches (.repetition min max l.greedy a) t u := by
  refine (mem_left_foldl hwalk h).imp id ?_
  rintro ⟨v, hv, hrest⟩
  exact Reaches.round hr (hl n t v hv) hrest

/-- Of a thread that may leave or go round again, what leaves has come from it. -/
theorem mem_left_prefer {further : LoopWalk → LoopWalk} {w : LoopWalk} {t u : Thread}
    {max : Option Nat}
    (hf : ∀ w, u ∈ (further w).left → u ∈ w.left ∨ Reaches (.repetition 0 max l.greedy a) t u)
    (h : u ∈ (l.prefer further w t).left) :
    u ∈ w.left ∨ Reaches (.repetition 0 max l.greedy a) t u := by
  have hleave : Reaches (.repetition 0 max l.greedy a) t t := Reaches.leave max l.greedy a t
  rw [prefer] at h
  split at h
  · rcases List.mem_cons.mp h with rfl | h
    · exact .inr hleave
    · exact hf w h
  · rcases hf _ h with h | h
    · rcases List.mem_cons.mp h with rfl | h
      · exact .inr hleave
      · exact .inl h
    · exact .inr h

theorem visit?_left {w w' : LoopWalk} {rounds : Nat} {t : Thread}
    (h : w.visit? rounds t = some w') : w'.left = w.left := by
  rw [LoopWalk.visit?] at h
  split at h
  · cases h
  · rw [← Option.some.inj h]

theorem mem_left_goOn (hl : Repeats l a) (fuel : Nat) {u : Thread} (w : LoopWalk) (t : Thread)
    (h : u ∈ (l.goOn fuel w t).left) :
    u ∈ w.left ∨ Reaches (.repetition 0 none l.greedy a) t u := by
  induction fuel generalizing w t with
  | zero => exact .inl h
  | succ fuel ih =>
    rw [goOn] at h
    split at h
    · exact .inl h
    · next t' hc =>
      obtain ⟨trail, rfl⟩ := Thread.choose_eq_some hc
      split at h
      · exact .inl h
      · next w' hv =>
        rw [← visit?_left hv]
        refine (mem_left_prefer ?_ h).imp id Reaches.of_trail
        exact mem_left_round 0 none hl (.inr (by simp)) ih 0 _

theorem mem_left_again (hl : Repeats l a) {u : Thread} (w : LoopWalk)
    (t : Thread) (h : u ∈ (l.again w t).left) :
    u ∈ w.left ∨ Reaches (.repetition 0 none l.greedy a) t u :=
  mem_left_goOn hl _ w t h

theorem mem_left_onceOrMore (hl : Repeats l a) {u : Thread} (w : LoopWalk)
    (t : Thread) (h : u ∈ (l.onceOrMore w t).left) :
    u ∈ w.left ∨ Reaches (.repetition 1 none l.greedy a) t u :=
  mem_left_round 1 none hl (.inl (by decide)) (mem_left_again hl) 0 t w h

theorem mem_left_orNone (hl : Repeats l a) {u : Thread} (w : LoopWalk)
    (t : Thread) (h : u ∈ (l.orNone w t).left) :
    u ∈ w.left ∨ Reaches (.repetition 0 none l.greedy a) t u := by
  rw [orNone] at h
  split at h
  · exact .inl h
  · next t' hc =>
    obtain ⟨trail, rfl⟩ := Thread.choose_eq_some hc
    refine (mem_left_prefer ?_ h).imp id Reaches.of_trail
    exact mem_left_round 0 none hl (.inr (by simp)) (mem_left_again hl) 0 _

/-- Each round leaves one round less. -/
theorem mem_left_atMost (hl : Repeats l a) (rounds : Nat) {u : Thread}
    (w : LoopWalk) (t : Thread) (h : u ∈ (l.atMost rounds w t).left) :
    u ∈ w.left ∨ Reaches (.repetition 0 (some rounds) l.greedy a) t u := by
  induction rounds generalizing w t with
  | zero =>
    rcases List.mem_cons.mp h with rfl | h
    · exact .inr (Reaches.leave _ l.greedy a u)
    · exact .inl h
  | succ rounds ih =>
    rw [atMost] at h
    split at h
    · exact .inl h
    · next t' hc =>
      obtain ⟨trail, rfl⟩ := Thread.choose_eq_some hc
      split at h
      · exact .inl h
      · next w' hv =>
        rw [← visit?_left hv]
        refine (mem_left_prefer ?_ h).imp id Reaches.of_trail
        exact mem_left_round 0 (some (rounds + 1)) hl (.inr (by simp)) ih rounds _

theorem mem_walkAll {walk : LoopWalk → Thread → LoopWalk} {u : Thread} {P : Thread → Prop}
    (hwalk : ∀ w t, u ∈ (walk w t).left → u ∈ w.left ∨ P t) {ts : List Thread}
    (h : u ∈ walkAll walk ts) : ∃ t ∈ ts, P t := by
  have h := List.mem_reverse.mp (Thread.mem_distinct h)
  rcases mem_left_foldl hwalk h with h | h
  · cases h
  · exact h

end Loop

/-- The rounds that have to be done come before those of a repetition that requires fewer. -/
theorem mem_requiredRounds {a : Expr} {round : Nat → List Thread → List Thread}
    (hround : ∀ n ts u, u ∈ round n ts → ∃ t ∈ ts, Reaches a t u) {n : Nat} {ts : List Thread}
    {u : Thread} (h : u ∈ requiredRounds round n ts) :
    ∃ t ∈ ts, ∀ (min : Nat) (max : Option Nat) (greedy : Bool) (v : Thread),
      Reaches (.repetition min (max.map (· - n)) greedy a) u v →
        Reaches (.repetition (n + min) max greedy a) t v := by
  induction n generalizing ts with
  | zero =>
    refine ⟨u, h, fun min max greedy v hr => ?_⟩
    rw [Nat.zero_add]
    simpa using hr
  | succ n ih =>
    rw [requiredRounds] at h
    split at h
    · cases h
    · obtain ⟨v, hv, hrest⟩ := ih h
      obtain ⟨t, ht, ha⟩ := hround n ts v hv
      refine ⟨t, ht, fun min max greedy x hr => ?_⟩
      -- The first round takes one off both bounds, the others the rest.
      refine Reaches.round (.inl (by omega)) ha ?_
      rw [show n + 1 + min - 1 = n + min by omega]
      apply hrest
      rw [Option.map_map]
      rw [show (fun k => k - n) ∘ (fun k => k - 1) = fun k => k - (n + 1) from
        funext fun k => by simp only [Function.comp]; omega]
      exact hr

/-! ## Expressions -/

namespace Expr

theorem mem_run_repetition {min : Nat} {max : Option Nat} {greedy : Bool} {a : Expr}
    {address : Address} {ts : List Thread} {u : Thread}
    (ha : ∀ address ts u, u ∈ a.run address ts → ∃ t ∈ ts, Reaches a t u)
    (h : u ∈ (Expr.repetition min max greedy a).run address ts) :
    ∃ t ∈ ts, Reaches (.repetition min max greedy a) t u := by
  have hloop : ∀ at_ : Nat → Address,
      Loop.Repeats ⟨fun n t => a.run (at_ n) [t], address, greedy⟩ a := by
    intro at_ n t u h
    obtain ⟨x, hx, hr⟩ := ha _ _ u h
    rwa [List.mem_singleton.mp hx] at hr
  cases max with
  | some max =>
    rw [run] at h
    obtain ⟨v, hv, hr⟩ := Loop.mem_walkAll (Loop.mem_left_atMost (hloop _) _) h
    obtain ⟨t, ht, hrest⟩ := mem_requiredRounds (fun n => ha _) hv
    exact ⟨t, ht, hrest 0 (some max) greedy u hr⟩
  | none =>
    rw [run] at h
    split at h
    · next hmin =>
      subst hmin
      -- Whether the inside may be empty changes the walk but not what it can reach.
      have hwalk : ∃ t ∈ ts.map (Thread.enterLoop address),
          Reaches (.repetition 0 none greedy a) t u := by
        split at h
        · exact Loop.mem_walkAll (Loop.mem_left_orNone (hloop _)) h
        · exact Loop.mem_walkAll (Loop.mem_left_again (hloop _)) h
      obtain ⟨v, hv, hr⟩ := hwalk
      obtain ⟨t, ht, rfl⟩ := List.mem_map.mp hv
      exact ⟨t, ht, Reaches.of_enterLoop hr⟩
    · next hmin =>
      obtain ⟨v, hv, hr⟩ := Loop.mem_walkAll (Loop.mem_left_onceOrMore (hloop _)) h
      obtain ⟨x, hx, hrest⟩ := mem_requiredRounds (fun n => ha _) hv
      obtain ⟨t, ht, rfl⟩ := List.mem_map.mp hx
      have hr := hrest 1 none greedy u hr
      rw [show min - 1 + 1 = min by omega] at hr
      exact ⟨t, ht, Reaches.of_enterLoop hr⟩

theorem mem_run {e : Expr} {address : Address} {ts : List Thread} {u : Thread}
    (h : u ∈ e.run address ts) : ∃ t ∈ ts, Reaches e t u := by
  induction e generalizing address ts u with
  | empty => exact ⟨u, h, Reaches.empty u⟩
  | look l =>
    obtain ⟨hu, hl⟩ := List.mem_filter.mp h
    exact ⟨u, hu, [], .look hl, rfl, rfl, rfl⟩
  | chars s =>
    obtain ⟨t, ht, hs⟩ := List.mem_filterMap.mp h
    exact ⟨t, ht, Thread.step_reaches hs⟩
  | cat a b iha ihb =>
    obtain ⟨v, hv, hb⟩ := ihb h
    obtain ⟨t, ht, ha⟩ := iha hv
    exact ⟨t, ht, ha.cat hb⟩
  | alt a b iha ihb =>
    obtain ⟨v, hv, h⟩ := List.mem_flatMap.mp (Thread.mem_distinct h)
    obtain ⟨t, ht, hc⟩ := List.mem_filterMap.mp hv
    obtain ⟨trail, rfl⟩ := Thread.choose_eq_some hc
    refine ⟨t, ht, ?_⟩
    -- Both branches start from the one thread that was chosen.
    rcases List.mem_append.mp h with h | h
    · obtain ⟨x, hx, spans, hr, hrest⟩ := iha h
      rw [List.mem_singleton.mp hx] at hr hrest
      exact ⟨spans, .left hr, hrest⟩
    · obtain ⟨x, hx, spans, hr, hrest⟩ := ihb h
      rw [List.mem_singleton.mp hx] at hr hrest
      exact ⟨spans, .right hr, hrest⟩
  | group name a ih =>
    obtain ⟨v, hv, rfl⟩ := List.mem_map.mp h
    obtain ⟨x, hx, hr⟩ := ih hv
    obtain ⟨t, ht, rfl⟩ := List.mem_map.mp hx
    exact ⟨t, ht, hr.group⟩
  | repetition min max greedy a ih => exact mem_run_repetition (fun _ _ _ => ih) h

/-- What is found is a match. -/
theorem find_eq_some {e : Expr} {text : List Char} {m : Match} (h : e.find text = some m) :
    ∃ p ∈ Position.all text, ∃ q spans, Leads e p q spans ∧ m = .ofSpans p q spans := by
  obtain ⟨u, hu, rfl⟩ := Option.map_eq_some_iff.mp h
  obtain ⟨t, ht, spans, hl, hg, -, hs⟩ := mem_run (List.mem_of_mem_head? hu)
  obtain ⟨p, hp, rfl⟩ := List.mem_map.mp ht
  refine ⟨p, hp, u.pos, spans, hl, ?_⟩
  rw [Match.ofThread, hs, hg, List.append_nil]
  rfl

end Expr

end TemplateMatch.Regex
