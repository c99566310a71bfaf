import TemplateMatch.Proofs.Regex.Stages

/-!
Loops as courses. A thread that comes to a level of a loop makes the choice there, leaves or goes
through a round, and comes to the level after it. If whatever was visited has been followed up, then
no match of the loop is lost (`Course.Explored.faithful`), although threads give up where they come
back to a choice that they have made, and where another one has been before them.
-/

namespace TemplateMatch.Regex

/-- A loop by levels. At level 0 there is nothing left to do but to leave. -/
structure Course where
  choice : Nat → Address
  round : Nat → Stage
  after : Nat → Nat
  /-- Whether a thread may leave at the level. -/
  leaves : Nat → Prop

namespace Course

variable (k : Course)

/-- A match from a level on by so many rounds. -/
def Rounds : Nat → Nat → Position → Position → Prop
  | 0, level, p, q => (level = 0 ∨ k.leaves level) ∧ p = q
  | n + 1, level, p, q =>
    level ≠ 0 ∧ ∃ r, (k.round level).leads p r ∧ Rounds n (k.after level) r q

/-- What can be reached from a choice by so many rounds behind the one that it is made in. -/
def Resumes (n : Nat) (c : List Turn) (p q : Position) : Prop :=
  ∃ level, level ≠ 0 ∧ (k.choice level = some c ∧ k.Rounds n level p q ∨
    (k.round level).owns c ∧ ∃ r, (k.round level).resumes c p r ∧ k.Rounds n (k.after level) r q)

/-- The loop from a level on as a stage. -/
def stage (top : Nat) (run : List Thread → List Thread) : Stage where
  run := run
  leads p q := ∃ n, k.Rounds n top p q
  owns c := ∃ level, level ≠ 0 ∧ (k.choice level = some c ∨ (k.round level).owns c)
  resumes c p q := ∃ n, k.Resumes n c p q

/-- The rounds are faithful, and every choice belongs to one level, as its own or in its round. -/
structure Orderly (text : List Char) (live : Bool) : Prop where
  round (level : Nat) : (k.round level).Faithful text live
  live_of_choice {level : Nat} {c : List Turn} : k.choice level = some c → live = true
  choice_inj {level level' : Nat} {c : List Turn} : level ≠ 0 → level' ≠ 0 →
    k.choice level = some c → k.choice level' = some c → level = level'
  apart {level level' : Nat} {c : List Turn} :
    k.choice level = some c → ¬ (k.round level').owns c
  round_inj {level level' : Nat} {c : List Turn} : level ≠ 0 → level' ≠ 0 →
    (k.round level).owns c → (k.round level').owns c →
      k.round level = k.round level' ∧ k.after level = k.after level'

/-- A thread that comes to a level has left there, gives up or finds that another one has been at
its place. -/
def Arrives (out : List Thread) (seen : Nat → Position → Prop) (level : Nat) (x : Thread) : Prop :=
  (level = 0 ∧ x ∈ out) ∨
    level ≠ 0 ∧ (x.choose (k.choice level) = none ∨ seen level x.pos)

/-- A thread has made the choice at a level, and all has been followed up. -/
def Followed (out : List Thread) (seen : Nat → Position → Prop) (level : Nat) (v : Thread) :
    Prop :=
  (k.leaves level → v ∈ out) ∧
    ∀ x ∈ (k.round level).run [v], k.Arrives out seen (k.after level) x

/-- The threads that come to the levels. -/
inductive Comes (top : Nat) (ts out : List Thread) (seen : Nat → Position → Prop) :
    Nat → Thread → Prop
  | start {t : Thread} : t ∈ ts → Comes top ts out seen top t
  | round {level : Nat} {u v x : Thread} :
    Comes top ts out seen level u → level ≠ 0 → u.choose (k.choice level) = some v →
      k.Followed out seen level v → x ∈ (k.round level).run [v] →
      Comes top ts out seen (k.after level) x

/-- A thread that has made the choice at a level. -/
def Visits (top : Nat) (ts out : List Thread) (seen : Nat → Position → Prop) (level : Nat)
    (v : Thread) : Prop :=
  ∃ u, k.Comes top ts out seen level u ∧ level ≠ 0 ∧ u.choose (k.choice level) = some v ∧
    k.Followed out seen level v

/-- The threads have been walked through the loop, as far as they lead to new places. -/
structure Explored (top : Nat) (ts out : List Thread) (seen : Nat → Position → Prop) : Prop where
  start : ∀ t ∈ ts, k.Arrives out seen top t
  visited {level : Nat} {p : Position} :
    seen level p → ∃ v, k.Visits top ts out seen level v ∧ v.pos = p
  left : ∀ u ∈ out, k.Comes top ts out seen 0 u ∨ ∃ level, k.Visits top ts out seen level u

variable {k} {text : List Char} {live : Bool} {top : Nat} {ts out : List Thread}
  {seen : Nat → Position → Prop}

theorem Comes.inside (hk : k.Orderly text live) (hts : Inside text ts) {level : Nat} {x : Thread}
    (h : k.Comes top ts out seen level x) : x.pos ∈ Position.all text := by
  induction h with
  | start ht => exact hts _ ht
  | @round level u v x _ _ hchoose _ hx ih =>
    refine (hk.round level).inside (fun y hy => ?_) x hx
    rw [List.mem_singleton.mp hy, Thread.choose_pos hchoose]
    exact ih

theorem Visits.inside (hk : k.Orderly text live) (hts : Inside text ts) {level : Nat} {v : Thread}
    (h : k.Visits top ts out seen level v) : Inside text [v] := by
  obtain ⟨u, hu, _, hchoose, _⟩ := h
  intro y hy
  rw [List.mem_singleton.mp hy, Thread.choose_pos hchoose]
  exact hu.inside hk hts

section

variable (k top ts out)

/-- What a loop covers. -/
def Covers (q : Position) : Prop :=
  (∃ u ∈ out, u.pos = q) ∨ ∃ c p, Made ts c p ∧ (∃ n, k.Resumes n c p q) ∧
    ∃ level, level ≠ 0 ∧ (k.choice level = some c ∨ (k.round level).owns c)

/-- Whatever a visitor reaches by so many rounds is covered. -/
def CoversVisits (seen : Nat → Position → Prop) (n : Nat) : Prop :=
  ∀ level v, k.Visits top ts out seen level v → ∀ q, k.Rounds n level v.pos q → k.Covers ts out q

/-- Whatever can be reached from the choices that the thread has made here by so many rounds is
covered. -/
def Settles (n : Nat) (v : Thread) : Prop :=
  ∀ c ∈ v.trail, Made ts c v.pos ∨
    (∃ level, level ≠ 0 ∧ (k.choice level = some c ∨ (k.round level).owns c)) ∧
      ∀ q, k.Resumes n c v.pos q → k.Covers ts out q

end

namespace Explored

variable {n : Nat}

theorem covers_of_resumes {c : List Turn} {p q : Position} (hmade : Made ts c p)
    (hresumes : k.Resumes n c p q) : k.Covers ts out q := by
  refine .inr ⟨c, p, hmade, ⟨n, hresumes⟩, ?_⟩
  obtain ⟨level, hlevel, ⟨hc, _⟩ | ⟨hown, _⟩⟩ := hresumes
  · exact ⟨level, hlevel, .inl hc⟩
  · exact ⟨level, hlevel, .inr hown⟩

/-- A choice made here that can be gone on from is covered. -/
theorem covers_of_settles {v : Thread} (h : k.Settles ts out n v) {c : List Turn}
    (hc : c ∈ v.trail) {q : Position} (hresumes : k.Resumes n c v.pos q) :
    k.Covers ts out q := by
  rcases h c hc with hmade | ⟨_, hcovers⟩
  · exact covers_of_resumes hmade hresumes
  · exact hcovers q hresumes

/-- From what a round has found the loop goes on. -/
theorem covers_of_round (hk : k.Orderly text live) (hts : Inside text ts)
    (h : k.Explored top ts out seen)
    (hvisits : k.CoversVisits top ts out seen n)
    {level : Nat} {v x : Thread} (hv : k.Visits top ts out seen level v)
    (hsettles : live = true → k.Settles ts out n v) (hx : x ∈ (k.round level).run [v])
    {q : Position} (hrounds : k.Rounds n (k.after level) x.pos q) : k.Covers ts out q := by
  have harrives : k.Arrives out seen (k.after level) x := by
    obtain ⟨_, _, _, _, _, harrives⟩ := hv
    exact harrives x hx
  rcases harrives with ⟨hzero, hleft⟩ | ⟨hlevel, hnone | hseen⟩
  · rw [hzero] at hrounds
    cases n with
    | zero => exact .inl ⟨x, hleft, hrounds.2⟩
    | succ n => exact absurd rfl hrounds.1
  · -- The thread gives up at the choice. It has made it before the round, at the same place.
    obtain ⟨c, hc, hmem⟩ := Thread.choose_none hnone
    have hlive := hk.live_of_choice hc
    have hmade : Made [v] c x.pos :=
      ((hk.round level).made hlive (hv.inside hk hts) hx hmem).resolve_left (hk.apart hc)
    obtain ⟨hcv, hpos⟩ := hmade.of_singleton
    refine covers_of_settles (hsettles hlive) hcv ⟨k.after level, hlevel, .inl ⟨hc, ?_⟩⟩
    rwa [hpos]
  · obtain ⟨w, hw, hpos⟩ := h.visited hseen
    rw [← hpos] at hrounds
    exact hvisits _ w hw q hrounds

theorem covers_of_within (hk : k.Orderly text live) (hts : Inside text ts)
    (h : k.Explored top ts out seen)
    (hvisits : k.CoversVisits top ts out seen n)
    {level : Nat} {v : Thread} (hv : k.Visits top ts out seen level v)
    (hsettles : live = true → k.Settles ts out n v) {r q : Position}
    (hr : (k.round level).Covers [v] r) (hrounds : k.Rounds n (k.after level) r q) :
    k.Covers ts out q := by
  rcases hr with ⟨x, hx, rfl⟩ | ⟨c, p, hmade, hown, hresumes⟩
  · exact covers_of_round hk hts h hvisits hv hsettles hx hrounds
  · obtain ⟨hc, rfl⟩ := hmade.of_singleton
    obtain ⟨_, _, hlevel, _⟩ := hv
    exact covers_of_settles (hsettles ((hk.round level).live_of_owns hown)) hc
      ⟨level, hlevel, .inr ⟨hown, r, hresumes, hrounds⟩⟩

/-- What a round adds to the trail of a settled thread is settled. -/
theorem settles_of_round (hk : k.Orderly text live) (hts : Inside text ts)
    (h : k.Explored top ts out seen) (hlive : live = true)
    (hvisits : k.CoversVisits top ts out seen n)
    {level : Nat} {v x : Thread} (hv : k.Visits top ts out seen level v)
    (hsettles : k.Settles ts out n v) (hx : x ∈ (k.round level).run [v]) :
    k.Settles ts out n x := by
  intro c hc
  have hlevel : level ≠ 0 := by
    obtain ⟨_, _, hlevel, _⟩ := hv
    exact hlevel
  have hbefore (hmade : Made [v] c x.pos) : Made ts c x.pos ∨
      (∃ level, level ≠ 0 ∧ (k.choice level = some c ∨ (k.round level).owns c)) ∧
        ∀ q, k.Resumes n c x.pos q → k.Covers ts out q := by
    obtain ⟨hcv, hpos⟩ := hmade.of_singleton
    rw [← hpos]
    exact hsettles c hcv
  rcases (hk.round level).made hlive (hv.inside hk hts) hx hc with hown | hmade
  · rcases (hk.round level).kept (hv.inside hk hts) hx hc hown with hmade | hresumes
    · exact hbefore hmade
    · refine .inr ⟨⟨level, hlevel, .inr hown⟩, fun q hq => ?_⟩
      obtain ⟨level', hlevel', ⟨hc', _⟩ | ⟨hown', r, hr, hrounds⟩⟩ := hq
      · exact absurd hown (hk.apart hc')
      · obtain ⟨hround, hafter⟩ := hk.round_inj hlevel' hlevel hown' hown
        rw [hround] at hr
        rw [hafter] at hrounds
        exact covers_of_within hk hts h hvisits hv (fun _ => hsettles) (hresumes r hr) hrounds
  · exact hbefore hmade

theorem settles_of_comes (hk : k.Orderly text live) (hts : Inside text ts)
    (h : k.Explored top ts out seen) (hlive : live = true)
    (hvisits : k.CoversVisits top ts out seen n)
    {level : Nat} {u : Thread} (hu : k.Comes top ts out seen level u) :
    k.Settles ts out n u ∧ ∀ v, level ≠ 0 → u.choose (k.choice level) = some v →
      k.Followed out seen level v → k.Settles ts out n v := by
  -- The choice at the level is settled since the thread that makes it is a visitor.
  have hchosen {level : Nat} {u v : Thread} (hu : k.Comes top ts out seen level u)
      (hsettles : k.Settles ts out n u) (hlevel : level ≠ 0)
      (hchoose : u.choose (k.choice level) = some v) (hfollowed : k.Followed out seen level v) :
      k.Settles ts out n v := by
    intro c hc
    have hpos := Thread.choose_pos hchoose
    rcases Thread.choose_trail hchoose hc with hown | hold
    · refine .inr ⟨⟨level, hlevel, .inl hown⟩, fun q hq => ?_⟩
      obtain ⟨level', hlevel', ⟨hc', hrounds⟩ | ⟨hown', _⟩⟩ := hq
      · rw [hk.choice_inj hlevel' hlevel hc' hown] at hrounds
        exact hvisits level v ⟨u, hu, hlevel, hchoose, hfollowed⟩ q hrounds
      · exact absurd hown' (hk.apart hown)
    · rw [hpos]
      exact hsettles c hold
  induction hu with
  | start ht =>
    have hstart : k.Settles ts out n _ := fun c hc => .inl ⟨_, ht, hc, rfl⟩
    exact ⟨hstart, fun v => hchosen (.start ht) hstart⟩
  | @round level u v x hu hlevel hchoose hfollowed hx ih =>
    have hv : k.Visits top ts out seen level v := ⟨u, hu, hlevel, hchoose, hfollowed⟩
    have hsettles := ih.2 v hlevel hchoose hfollowed
    have hx' := settles_of_round hk hts h hlive hvisits hv hsettles hx
    exact ⟨hx', fun w => hchosen (.round hu hlevel hchoose hfollowed hx) hx'⟩

/-- A visitor has all matches from its place on. By induction on the rounds: the trail with which a
round begins holds only choices from which all that needs fewer rounds is covered. -/
theorem covers_of_visits (hk : k.Orderly text live) (hts : Inside text ts)
    (h : k.Explored top ts out seen) {level : Nat} {v : Thread}
    (hv : k.Visits top ts out seen level v) {q : Position}
    (hrounds : k.Rounds n level v.pos q) : k.Covers ts out q := by
  induction n generalizing level v q with
  | zero =>
    obtain ⟨u, _, hlevel, _, hleaves, _⟩ := hv
    obtain ⟨hzero | hmay, hpos⟩ := hrounds
    · exact absurd hzero hlevel
    · exact .inl ⟨v, hleaves hmay, hpos⟩
  | succ n ih =>
    obtain ⟨_, r, hr, hrounds⟩ := hrounds
    have hvisits : k.CoversVisits top ts out seen n := fun level v hv q hq => ih hv hq
    have hsettles (hlive : live = true) : k.Settles ts out n v := by
      obtain ⟨u, hu, hlevel, hchoose, hfollowed⟩ := hv
      exact (settles_of_comes hk hts h hlive hvisits hu).2 v hlevel hchoose hfollowed
    have hfound := (hk.round level).found (hv.inside hk hts) (List.mem_singleton_self v) hr
    exact covers_of_within hk hts h hvisits hv hsettles hfound hrounds

theorem settles_of_left (hk : k.Orderly text live) (hts : Inside text ts)
    (h : k.Explored top ts out seen) (hlive : live = true) {u : Thread} (hu : u ∈ out) :
    k.Settles ts out n u := by
  have hvisits : k.CoversVisits top ts out seen n :=
    fun level v hv q => covers_of_visits hk hts h hv
  rcases h.left u hu with hcomes | ⟨level, v, hcomes, hlevel, hchoose, hfollowed⟩
  · exact (settles_of_comes hk hts h hlive hvisits hcomes).1
  · exact (settles_of_comes hk hts h hlive hvisits hcomes).2 u hlevel hchoose hfollowed

end Explored

/-- A loop that explores whatever threads it is given loses no match. -/
theorem Explored.faithful (hk : k.Orderly text live) {run : List Thread → List Thread}
    (h : ∀ ts, Inside text ts → ∃ seen, k.Explored top ts (run ts) seen) :
    (k.stage top run).Faithful text live := by
  have hsettles {ts : List Thread} {u : Thread} (hlive : live = true) (hts : Inside text ts)
      (hu : u ∈ run ts) (n : Nat) : k.Settles ts (run ts) n u := by
    obtain ⟨seen, hexplored⟩ := h ts hts
    exact hexplored.settles_of_left hk hts hlive hu
  have hcovers {ts : List Thread} {q : Position} (hq : k.Covers ts (run ts) q) :
      (k.stage top run).Covers ts q := by
    refine hq.imp id ?_
    rintro ⟨c, p, hmade, hresumes, hown⟩
    exact ⟨c, p, hmade, hown, hresumes⟩
  have hlive {c : List Turn} (hown : (k.stage top run).owns c) : live = true := by
    obtain ⟨level, _, hc | hown⟩ := hown
    · exact hk.live_of_choice hc
    · exact (hk.round level).live_of_owns hown
  refine ⟨hlive, fun {ts} hts u hu => ?_, fun hl hts hu hc => ?_, fun {ts t q} hts ht hl => ?_,
    fun {ts u c} hts hu hc hown => ?_⟩
  · obtain ⟨seen, hexplored⟩ := h ts hts
    rcases hexplored.left u hu with hcomes | ⟨level, hvisits⟩
    · exact hcomes.inside hk hts
    · exact hvisits.inside hk hts u (List.mem_singleton_self u)
  · exact ((hsettles hl hts hu 0) _ hc).symm.imp (fun h => h.1) id
  · obtain ⟨n, hrounds⟩ := hl
    obtain ⟨seen, hexplored⟩ := h ts hts
    apply hcovers
    -- The thread has left at once, had made the choice before, or came to a visited place.
    rcases hexplored.start t ht with ⟨hzero, hleft⟩ | ⟨htop, hnone | hseen⟩
    · rw [hzero] at hrounds
      cases n with
      | zero => exact .inl ⟨t, hleft, hrounds.2⟩
      | succ n => exact absurd rfl hrounds.1
    · obtain ⟨c, hc, hmem⟩ := Thread.choose_none hnone
      exact covers_of_resumes ⟨t, ht, hmem, rfl⟩ ⟨top, htop, .inl ⟨hc, hrounds⟩⟩
    · obtain ⟨v, hv, hpos⟩ := hexplored.visited hseen
      rw [← hpos] at hrounds
      exact hexplored.covers_of_visits hk hts hv hrounds
  · by_cases hmade : Made ts c u.pos
    · exact .inl hmade
    · refine .inr fun q hq => ?_
      obtain ⟨n, hresumes⟩ := hq
      have hsettled := (hsettles (hlive hown) hts hu n) c hc
      exact hcovers ((hsettled.resolve_left hmade).2 q hresumes)

end Course

end TemplateMatch.Regex
