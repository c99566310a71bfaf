import TemplateMatch.Proofs.Regex.Soundness

/-!
Parts of a run, and why no match is lost to the trails. Inside of a loop a thread does not make a
choice again at the place where it has made it. What it might have gone on to from there is not
lost: the thread has gone on to it from the first time that it made the choice. So a part of a run
is `Faithful` if every match is found, or goes on from a choice that a thread had made before.
-/

namespace TemplateMatch.Regex

/-- One of the threads stands at the place and has made the choice there. -/
def Made (ts : List Thread) (c : List Turn) (p : Position) : Prop :=
  ∃ t ∈ ts, c ∈ t.trail ∧ t.pos = p

theorem Made.of_singleton {t : Thread} {c : List Turn} {p : Position} (h : Made [t] c p) :
    c ∈ t.trail ∧ t.pos = p := by
  obtain ⟨u, hu, hc, hp⟩ := h
  rw [List.mem_singleton.mp hu] at hc hp
  exact ⟨hc, hp⟩

/-- All threads stand at places of the text. -/
def Inside (text : List Char) (ts : List Thread) : Prop := ∀ t ∈ ts, t.pos ∈ Position.all text

theorem Inside.single {text : List Char} {ts : List Thread} (h : Inside text ts) {t : Thread}
    (ht : t ∈ ts) : Inside text [t] := by
  intro u hu
  rw [List.mem_singleton.mp hu]
  exact h t ht

namespace Thread

/-- A thread that makes a choice stays where it is. -/
theorem choose_pos {A : Address} {t v : Thread} (h : t.choose A = some v) : v.pos = t.pos := by
  obtain ⟨trail, rfl⟩ := choose_eq_some h
  rfl

theorem choose_trail {A : Address} {t v : Thread} (h : t.choose A = some v) {c : List Turn}
    (hc : c ∈ v.trail) : A = some c ∨ c ∈ t.trail := by
  unfold choose at h
  split at h
  · cases h
    exact .inr hc
  · next turns =>
    split at h
    · cases h
    · cases h
      exact (List.mem_cons.mp hc).imp (fun h => by rw [h]) id

/-- A thread that may not make a choice has made it before. -/
theorem choose_none {A : Address} {t : Thread} (h : t.choose A = none) :
    ∃ c, A = some c ∧ c ∈ t.trail := by
  unfold choose at h
  split at h
  · cases h
  · next turns =>
    split at h
    · next hmem => exact ⟨turns, rfl, List.contains_iff_mem.mp hmem⟩
    · cases h

/-- Every place of a thread is that of a distinct one, unless it has been seen. -/
theorem exists_mem_distinctFrom {ts : List Thread} (seen : Std.TreeSet Nat) {t : Thread}
    (ht : t ∈ ts) : seen.contains t.pos.index = true ∨
      ∃ u ∈ distinctFrom seen ts, u.pos.index = t.pos.index := by
  induction ts generalizing seen with
  | nil => cases ht
  | cons v ts ih =>
    rw [distinctFrom]
    split
    · next hv =>
      rcases List.mem_cons.mp ht with rfl | ht
      · exact .inl hv
      · exact ih seen ht
    · rcases List.mem_cons.mp ht with rfl | ht
      · exact .inr ⟨t, List.mem_cons_self, rfl⟩
      · rcases ih (seen.insert v.pos.index) ht with h | ⟨u, hu, h⟩
        · rw [Std.TreeSet.contains_insert, Bool.or_eq_true, beq_iff_eq] at h
          refine h.symm.imp id fun hc => ⟨v, List.mem_cons_self, ?_⟩
          exact Std.LawfulEqCmp.eq_of_compare hc
        · exact .inr ⟨u, List.mem_cons_of_mem _ hu, h⟩

theorem exists_mem_distinct {ts : List Thread} {t : Thread} (ht : t ∈ ts) :
    ∃ u ∈ distinct ts, u.pos.index = t.pos.index := by
  rcases exists_mem_distinctFrom ∅ ht with h | h
  · rw [Std.TreeSet.contains_emptyc] at h; cases h
  · exact h

end Thread

/-- A part of a run: what it does with threads, and what it means. -/
structure Stage where
  run : List Thread → List Thread
  /-- The matches of the part. -/
  leads : Position → Position → Prop
  /-- The choices that are made in it. -/
  owns : List Turn → Prop
  /-- What can be reached from one of its choices, made at a place. -/
  resumes : List Turn → Position → Position → Prop

namespace Stage

/-- A thread is found at the place, or the way there begins at a choice made before. -/
def Covers (s : Stage) (ts : List Thread) (q : Position) : Prop :=
  (∃ u ∈ s.run ts, u.pos = q) ∨ ∃ c p, Made ts c p ∧ s.owns c ∧ s.resumes c p q

/-- No match of the stage is lost. Trails count inside of loops, where the stage is `live`. -/
structure Faithful (text : List Char) (live : Bool) (s : Stage) : Prop where
  live_of_owns {c : List Turn} : s.owns c → live = true
  inside {ts : List Thread} : Inside text ts → Inside text (s.run ts)
  /-- Choices are made in the stage, or were made before at the same place. -/
  made {ts : List Thread} {u : Thread} {c : List Turn} :
    live = true → Inside text ts → u ∈ s.run ts → c ∈ u.trail → s.owns c ∨ Made ts c u.pos
  found {ts : List Thread} {t : Thread} {q : Position} :
    Inside text ts → t ∈ ts → s.leads t.pos q → s.Covers ts q
  /-- So whoever comes back to a choice of the stage may give up. -/
  kept {ts : List Thread} {u : Thread} {c : List Turn} :
    Inside text ts → u ∈ s.run ts → c ∈ u.trail → s.owns c →
      Made ts c u.pos ∨ ∀ q, s.resumes c u.pos q → s.Covers ts q

/-- One stage after the other. -/
def andThen (f g : Stage) : Stage where
  run ts := g.run (f.run ts)
  leads p q := ∃ r, f.leads p r ∧ g.leads r q
  owns c := f.owns c ∨ g.owns c
  resumes c p q := (f.owns c ∧ ∃ r, f.resumes c p r ∧ g.leads r q) ∨ (g.owns c ∧ g.resumes c p q)

/-- The stage for each thread on its own. -/
def each (s : Stage) : Stage := { s with run := fun ts => ts.flatMap fun t => s.run [t] }

/-- Making a choice. -/
def choice (A : Address) : Stage where
  run ts := ts.filterMap (Thread.choose A)
  leads p q := p = q
  owns c := A = some c
  resumes _ p q := p = q

/-- Both stages with the same threads. -/
def both (f g : Stage) : Stage where
  run ts := f.run ts ++ g.run ts
  leads p q := f.leads p q ∨ g.leads p q
  owns c := f.owns c ∨ g.owns c
  resumes c p q := (f.owns c ∧ f.resumes c p q) ∨ (g.owns c ∧ g.resumes c p q)

/-- So many stages, the one with the lowest number last. -/
def rounds (round : Nat → Stage) : Nat → Stage
  | 0 => choice none
  | n + 1 => (round n).andThen (rounds round n)

/-- The stages with lower numbers. Those with other numbers do nothing. -/
def below (top : Nat) (round : Nat → Stage) (n : Nat) : Stage :=
  if n < top then round n else choice none

/-- The same with other matches and further choices that no thread makes. -/
def withOwns (s : Stage) (leads : Position → Position → Prop) (owns : List Turn → Prop) :
    Stage where
  run := s.run
  leads := leads
  owns := owns
  resumes c p q := s.owns c ∧ s.resumes c p q

theorem below_of_lt {top n : Nat} (h : n < top) (round : Nat → Stage) :
    below top round n = round n := if_pos h

theorem of_owns_below {top n : Nat} {round : Nat → Stage} {c : List Turn}
    (h : (below top round n).owns c) : n < top ∧ (round n).owns c := by
  rw [below] at h
  split at h
  · next hn => exact ⟨hn, h⟩
  · cases h

theorem run_rounds {round : Nat → Stage} (hnil : ∀ n, (round n).run [] = []) (n : Nat) :
    (rounds round n).run = requiredRounds (fun n => (round n).run) n := by
  induction n with
  | zero =>
    funext ts
    exact List.filterMap_some
  | succ n ih =>
    funext ts
    rw [requiredRounds]
    change (rounds round n).run ((round n).run ts) = _
    rw [ih]
    split
    · next hts =>
      rw [List.isEmpty_iff.mp hts, hnil]
      cases n with
      | zero => rfl
      | succ n => rfl
    · rfl

variable {text : List Char} {live : Bool} {s f g : Stage}

namespace Faithful

theorem withOwns (h : s.Faithful text live) {leads : Position → Position → Prop}
    {owns : List Turn → Prop} (hleads : ∀ p q, leads p q → s.leads p q)
    (howns : ∀ c, s.owns c → owns c) (hlive : ∀ c, owns c → live = true) :
    (s.withOwns leads owns).Faithful text live := by
  have hcovers {ts : List Thread} {q : Position} (hq : s.Covers ts q) :
      (s.withOwns leads owns).Covers ts q := by
    refine hq.imp id ?_
    rintro ⟨c, p, hmade, hown, hresumes⟩
    exact ⟨c, p, hmade, howns c hown, hown, hresumes⟩
  refine ⟨fun hown => hlive _ hown, h.inside, fun hl hts hu hc => ?_, fun hts ht hl => ?_,
    fun hts hu hc hown => ?_⟩
  · exact (h.made hl hts hu hc).imp (howns _) id
  · exact hcovers (h.found hts ht (hleads _ _ hl))
  · rcases h.made (hlive _ hown) hts hu hc with hs | hmade
    · exact (h.kept hts hu hc hs).imp id fun hresumes q hq => hcovers (hresumes q hq.2)
    · exact .inl hmade

theorem andThen (hf : f.Faithful text live) (hg : g.Faithful text live)
    (hdisjoint : ∀ c, f.owns c → ¬ g.owns c) : (f.andThen g).Faithful text live := by
  -- What the second stage covers, and what it finds behind what the first one covers.
  have hsecond {ts : List Thread} {q : Position} (hts : Inside text ts)
      (hq : g.Covers (f.run ts) q) : (f.andThen g).Covers ts q := by
    refine hq.imp id ?_
    rintro ⟨c, _, ⟨u, hu, hc, rfl⟩, hown, hresumes⟩
    rcases hf.made (hg.live_of_owns hown) hts hu hc with hfirst | hmade
    · exact absurd hown (hdisjoint c hfirst)
    · exact ⟨c, u.pos, hmade, .inr hown, .inr ⟨hown, hresumes⟩⟩
  have hfirst {ts : List Thread} {r q : Position} (hts : Inside text ts) (hr : f.Covers ts r)
      (hq : g.leads r q) : (f.andThen g).Covers ts q := by
    rcases hr with ⟨u, hu, rfl⟩ | ⟨c, p, hmade, hown, hresumes⟩
    · exact hsecond hts (hg.found (hf.inside hts) hu hq)
    · exact .inr ⟨c, p, hmade, .inl hown, .inl ⟨hown, r, hresumes, hq⟩⟩
  refine ⟨?_, fun hts => hg.inside (hf.inside hts), fun hl hts hu hc => ?_,
    fun hts ht hl => ?_, fun hts hu hc hown => ?_⟩
  · rintro c (hown | hown)
    · exact hf.live_of_owns hown
    · exact hg.live_of_owns hown
  · rcases hg.made hl (hf.inside hts) hu hc with hown | ⟨v, hv, hcv, hpos⟩
    · exact .inl (.inr hown)
    · rw [← hpos]
      exact (hf.made hl hts hv hcv).imp .inl id
  · obtain ⟨r, hr, hq⟩ := hl
    exact hfirst hts (hf.found hts ht hr) hq
  · rcases hown with hown | hown
    · rcases hg.made (hf.live_of_owns hown) (hf.inside hts) hu hc with
        hg' | ⟨v, hv, hcv, hpos⟩
      · exact absurd hg' (hdisjoint _ hown)
      · rw [← hpos]
        refine (hf.kept hts hv hcv hown).imp id fun hresumes q hq => ?_
        rcases hq with ⟨_, r, hr, hq⟩ | ⟨hg', _⟩
        · exact hfirst hts (hresumes r hr) hq
        · exact absurd hg' (hdisjoint _ hown)
    · rcases hg.kept (hf.inside hts) hu hc hown with ⟨v, hv, hcv, hpos⟩ | hresumes
      · rcases hf.made (hg.live_of_owns hown) hts hv hcv with hf' | hmade
        · exact absurd hown (hdisjoint _ hf')
        · rw [← hpos]
          exact .inl hmade
      · refine .inr fun q hq => ?_
        rcases hq with ⟨hf', _⟩ | ⟨_, hq⟩
        · exact absurd hown (hdisjoint _ hf')
        · exact hsecond hts (hresumes q hq)

theorem each (h : s.Faithful text live) : s.each.Faithful text live := by
  have hmade {ts : List Thread} {t : Thread} (ht : t ∈ ts) {c : List Turn} {p : Position}
      (hc : Made [t] c p) : Made ts c p := ⟨t, ht, hc.of_singleton⟩
  have hcovers {ts : List Thread} {t : Thread} (ht : t ∈ ts) {q : Position}
      (hq : s.Covers [t] q) : s.each.Covers ts q := by
    rcases hq with ⟨u, hu, hpos⟩ | ⟨c, p, hc, hown⟩
    · exact .inl ⟨u, List.mem_flatMap.mpr ⟨t, ht, hu⟩, hpos⟩
    · exact .inr ⟨c, p, hmade ht hc, hown⟩
  refine ⟨h.live_of_owns, fun hts u hu => ?_, fun hl hts hu hc => ?_, fun hts ht hl => ?_,
    fun hts hu hc hown => ?_⟩
  · obtain ⟨t, ht, hu⟩ := List.mem_flatMap.mp hu
    exact h.inside (hts.single ht) u hu
  · obtain ⟨t, ht, hu⟩ := List.mem_flatMap.mp hu
    exact (h.made hl (hts.single ht) hu hc).imp id (hmade ht)
  · exact hcovers ht (h.found (hts.single ht) (List.mem_singleton_self _) hl)
  · obtain ⟨t, ht, hu⟩ := List.mem_flatMap.mp hu
    exact (h.kept (hts.single ht) hu hc hown).imp (hmade ht)
      fun hresumes q hq => hcovers ht (hresumes q hq)

/-- Of the threads at a place only the first is needed. -/
theorem distinct (h : s.Faithful text live) {all : List Thread → List Thread}
    (hall : ∀ ts u, u ∈ all ts ↔ u ∈ s.run ts) :
    Faithful text live { s with run := fun ts => Thread.distinct (all ts) } := by
  have hmem {ts : List Thread} {u : Thread} (hu : u ∈ Thread.distinct (all ts)) : u ∈ s.run ts :=
    (hall ts u).mp (Thread.mem_distinct hu)
  have hcovers {ts : List Thread} (hts : Inside text ts) {q : Position} (hq : s.Covers ts q) :
      Covers { s with run := fun ts => Thread.distinct (all ts) } ts q := by
    refine hq.imp ?_ id
    rintro ⟨u, hu, rfl⟩
    obtain ⟨v, hv, hindex⟩ := Thread.exists_mem_distinct ((hall ts u).mpr hu)
    exact ⟨v, hv, Position.eq_of_index_eq (h.inside hts v (hmem hv)) (h.inside hts u hu) hindex⟩
  exact ⟨h.live_of_owns, fun hts u hu => h.inside hts u (hmem hu),
    fun hl hts hu hc => h.made hl hts (hmem hu) hc,
    fun hts ht hl => hcovers hts (h.found hts ht hl),
    fun hts hu hc hown => (h.kept hts (hmem hu) hc hown).imp id
      fun hresumes q hq => hcovers hts (hresumes q hq)⟩

theorem choice {A : Address} (hlive : ∀ c, A = some c → live = true) :
    (Stage.choice A).Faithful text live := by
  have hchosen {ts : List Thread} {u : Thread} (hu : u ∈ (Stage.choice A).run ts) :
      ∃ t ∈ ts, u.pos = t.pos ∧ ∀ c ∈ u.trail, A = some c ∨ c ∈ t.trail := by
    obtain ⟨t, ht, hchoose⟩ := List.mem_filterMap.mp hu
    exact ⟨t, ht, Thread.choose_pos hchoose, fun c => Thread.choose_trail hchoose⟩
  refine ⟨hlive _, fun hts u hu => ?_, fun _ _ hu hc => ?_, fun {ts t q} _ ht hl => ?_,
    fun _ hu _ _ => ?_⟩
  · obtain ⟨t, ht, hpos, _⟩ := hchosen hu
    rw [hpos]
    exact hts t ht
  · obtain ⟨t, ht, hpos, htrail⟩ := hchosen hu
    exact (htrail _ hc).imp id fun hc => ⟨t, ht, hc, hpos.symm⟩
  · cases hchoose : t.choose A with
    | none =>
      obtain ⟨c, hc, hmem⟩ := Thread.choose_none hchoose
      exact .inr ⟨c, t.pos, ⟨t, ht, hmem, rfl⟩, hc, hl⟩
    | some v =>
      have hpos : v.pos = q := (Thread.choose_pos hchoose).trans hl
      exact .inl ⟨v, List.mem_filterMap.mpr ⟨t, ht, hchoose⟩, hpos⟩
  · exact .inr fun q hq => .inl ⟨_, hu, hq⟩

theorem both (hf : f.Faithful text live) (hg : g.Faithful text live)
    (hdisjoint : ∀ c, f.owns c → ¬ g.owns c) : (f.both g).Faithful text live := by
  have hleft {ts : List Thread} {q : Position} (hq : f.Covers ts q) : (f.both g).Covers ts q := by
    rcases hq with ⟨u, hu, hpos⟩ | ⟨c, p, hc, hown, hresumes⟩
    · exact .inl ⟨u, List.mem_append_left _ hu, hpos⟩
    · exact .inr ⟨c, p, hc, .inl hown, .inl ⟨hown, hresumes⟩⟩
  have hright {ts : List Thread} {q : Position} (hq : g.Covers ts q) :
      (f.both g).Covers ts q := by
    rcases hq with ⟨u, hu, hpos⟩ | ⟨c, p, hc, hown, hresumes⟩
    · exact .inl ⟨u, List.mem_append_right _ hu, hpos⟩
    · exact .inr ⟨c, p, hc, .inr hown, .inr ⟨hown, hresumes⟩⟩
  refine ⟨fun hown => hown.elim hf.live_of_owns hg.live_of_owns, fun hts u hu => ?_,
    fun hl hts hu hc => ?_, fun hts ht hl => ?_, fun hts hu hc hown => ?_⟩
  · exact (List.mem_append.mp hu).elim (hf.inside hts u) (hg.inside hts u)
  · rcases List.mem_append.mp hu with hu | hu
    · exact (hf.made hl hts hu hc).imp .inl id
    · exact (hg.made hl hts hu hc).imp .inr id
  · exact hl.elim (fun hl => hleft (hf.found hts ht hl)) fun hl => hright (hg.found hts ht hl)
  · have hlive : live = true := hown.elim hf.live_of_owns hg.live_of_owns
    rcases List.mem_append.mp hu with hu | hu
    · rcases hf.made hlive hts hu hc with hown | hmade
      · refine (hf.kept hts hu hc hown).imp id fun hresumes q hq => ?_
        rcases hq with ⟨_, hq⟩ | ⟨hown', _⟩
        · exact hleft (hresumes q hq)
        · exact absurd hown' (hdisjoint _ hown)
      · exact .inl hmade
    · rcases hg.made hlive hts hu hc with hown | hmade
      · refine (hg.kept hts hu hc hown).imp id fun hresumes q hq => ?_
        rcases hq with ⟨hown', _⟩ | ⟨_, hq⟩
        · exact absurd hown (hdisjoint _ hown')
        · exact hright (hresumes q hq)
      · exact .inl hmade

theorem exists_of_owns_rounds {round : Nat → Stage} {n : Nat} {c : List Turn}
    (h : (Stage.rounds round n).owns c) : ∃ i < n, (round i).owns c := by
  induction n with
  | zero => cases h
  | succ n ih =>
    rcases h with h | h
    · exact ⟨n, Nat.lt_succ_self n, h⟩
    · obtain ⟨i, hi, h⟩ := ih h
      exact ⟨i, Nat.lt_succ_of_lt hi, h⟩

theorem rounds {round : Nat → Stage} (h : ∀ n, (round n).Faithful text live)
    (hdisjoint : ∀ m n c, (round m).owns c → (round n).owns c → m = n) (n : Nat) :
    (Stage.rounds round n).Faithful text live := by
  induction n with
  | zero => exact .choice nofun
  | succ n ih =>
    refine (h n).andThen ih fun c hc hrest => ?_
    obtain ⟨i, hi, hc'⟩ := exists_of_owns_rounds hrest
    exact Nat.ne_of_gt hi (hdisjoint n i c hc hc')

theorem below {round : Nat → Stage} (h : ∀ n, (round n).Faithful text live) (top n : Nat) :
    (Stage.below top round n).Faithful text live := by
  rw [Stage.below]
  split
  · exact h n
  · exact .choice nofun

/-- A stage in which no choices are made. -/
theorem plain {run : List Thread → List Thread} {leads : Position → Position → Prop}
    (hmem : ∀ ts, ∀ u ∈ run ts, ∃ t ∈ ts, (t.pos ∈ Position.all text → u.pos ∈ Position.all text) ∧
      ∀ c ∈ u.trail, c ∈ t.trail ∧ t.pos = u.pos)
    (hfound : ∀ ts, ∀ t ∈ ts, ∀ q, leads t.pos q → ∃ u ∈ run ts, u.pos = q) :
    Faithful text live ⟨run, leads, fun _ => False, fun _ _ _ => False⟩ := by
  refine ⟨False.elim, fun hts u hu => ?_, fun _ _ hu hc => ?_,
    fun _ ht hl => .inl (hfound _ _ ht _ hl), fun _ _ _ => False.elim⟩
  · obtain ⟨t, ht, hpos, _⟩ := hmem _ u hu
    exact hpos (hts t ht)
  · obtain ⟨t, ht, _, htrail⟩ := hmem _ _ hu
    exact .inr ⟨t, ht, htrail _ hc⟩

/-- Whatever else happens to the threads before and behind. -/
theorem between (h : s.Faithful text live) {before behind : Thread → Thread}
    (hbefore : ∀ t, (before t).pos = t.pos ∧ (before t).trail = t.trail)
    (hbehind : ∀ t, (behind t).pos = t.pos ∧ (behind t).trail = t.trail) :
    Faithful text live
      { s with run := fun ts => (s.run (ts.map before)).map behind } := by
  have hinside {ts : List Thread} (hts : Inside text ts) : Inside text (ts.map before) := by
    intro u hu
    obtain ⟨t, ht, rfl⟩ := List.mem_map.mp hu
    rw [(hbefore t).1]
    exact hts t ht
  have hmade {ts : List Thread} {c : List Turn} {p : Position} (hc : Made (ts.map before) c p) :
      Made ts c p := by
    obtain ⟨u, hu, hc, hpos⟩ := hc
    obtain ⟨t, ht, rfl⟩ := List.mem_map.mp hu
    rw [(hbefore t).1] at hpos
    rw [(hbefore t).2] at hc
    exact ⟨t, ht, hc, hpos⟩
  have hcovers {ts : List Thread} {q : Position} (hq : s.Covers (ts.map before) q) :
      Covers { s with run := fun ts => (s.run (ts.map before)).map behind } ts q := by
    rcases hq with ⟨u, hu, hpos⟩ | ⟨c, p, hc, hown⟩
    · exact .inl ⟨behind u, List.mem_map_of_mem hu, (hbehind u).1.trans hpos⟩
    · exact .inr ⟨c, p, hmade hc, hown⟩
  refine ⟨h.live_of_owns, fun hts u hu => ?_, fun hl hts hu hc => ?_, fun hts ht hl => ?_,
    fun hts hu hc hown => ?_⟩
  · obtain ⟨v, hv, rfl⟩ := List.mem_map.mp hu
    rw [(hbehind v).1]
    exact h.inside (hinside hts) v hv
  · obtain ⟨v, hv, rfl⟩ := List.mem_map.mp hu
    rw [(hbehind v).2] at hc
    rw [(hbehind v).1]
    exact (h.made hl (hinside hts) hv hc).imp id hmade
  · rw [← (hbefore _).1] at hl
    exact hcovers (h.found (hinside hts) (List.mem_map_of_mem ht) hl)
  · obtain ⟨v, hv, rfl⟩ := List.mem_map.mp hu
    rw [(hbehind v).2] at hc
    rw [(hbehind v).1]
    exact (h.kept (hinside hts) hv hc hown).imp hmade
      fun hresumes q hq => hcovers (hresumes q hq)

/-- Threads without trails give up nowhere. -/
theorem fresh (h : s.Faithful text live) {clear : Thread → Thread}
    (hclear : ∀ t, (clear t).pos = t.pos ∧ (clear t).trail = []) :
    Faithful text false
      ⟨fun ts => s.run (ts.map clear), s.leads, fun _ => False, fun _ _ _ => False⟩ := by
  have hinside {ts : List Thread} (hts : Inside text ts) : Inside text (ts.map clear) := by
    intro u hu
    obtain ⟨t, ht, rfl⟩ := List.mem_map.mp hu
    rw [(hclear t).1]
    exact hts t ht
  refine ⟨False.elim, fun hts => h.inside (hinside hts), fun hl => absurd hl Bool.false_ne_true,
    fun {ts t q} hts ht hl => ?_, fun _ _ _ => False.elim⟩
  rw [← (hclear t).1] at hl
  refine (h.found (hinside hts) (List.mem_map_of_mem ht) hl).imp id ?_
  rintro ⟨c, p, ⟨u, hu, hc, _⟩, _⟩
  obtain ⟨t, _, rfl⟩ := List.mem_map.mp hu
  rw [(hclear t).2] at hc
  exact absurd hc List.not_mem_nil

end Faithful

end Stage

end TemplateMatch.Regex
