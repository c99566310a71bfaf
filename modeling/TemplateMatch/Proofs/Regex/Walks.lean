import TemplateMatch.Proofs.Regex.Courses

/-!
The walks through loops explore their courses. A walk marks the places it visits, so a thread that
comes to a marked place need not go on; and whatever is marked has been followed up when the walk
is over.
-/

namespace TemplateMatch.Regex

/-- A later state of the same walk. -/
structure LoopWalk.Grows (w w' : LoopWalk) : Prop where
  left : ∀ u ∈ w.left, u ∈ w'.left
  seen : ∀ n, w.seen.contains n = true → w'.seen.contains n = true

namespace LoopWalk

variable {w w' w'' : LoopWalk}

theorem Grows.refl (w : LoopWalk) : w.Grows w := ⟨fun _ h => h, fun _ h => h⟩

theorem Grows.trans (h : w.Grows w') (h' : w'.Grows w'') : w.Grows w'' :=
  ⟨fun u hu => h'.left u (h.left u hu), fun n hn => h'.seen n (h.seen n hn)⟩

theorem grows_leave (w : LoopWalk) (t : Thread) : w.Grows (w.leave t) :=
  ⟨fun _ hu => List.mem_cons_of_mem _ hu, fun _ h => h⟩

theorem contains_insert {w : LoopWalk} {n m : Nat × Nat} :
    (w.seen.insert n).contains m = true ↔ m = n ∨ w.seen.contains m = true := by
  rw [Std.TreeSet.contains_insert, Bool.or_eq_true, beq_iff_eq, compareLex_eq_eq]
  refine or_congr ⟨fun h => ?_, fun h => ?_⟩ Iff.rfl
  · exact Prod.ext (Nat.compare_eq_eq.mp h.1).symm (Nat.compare_eq_eq.mp h.2).symm
  · subst h
    exact ⟨Nat.compare_eq_eq.mpr rfl, Nat.compare_eq_eq.mpr rfl⟩

end LoopWalk

open LoopWalk (Grows)

/-- How a walk marks the levels of a course. -/
structure Marking where
  key : Nat → Nat
  marks : Nat → Prop
  key_inj : ∀ level level', marks level → marks level' → key level = key level' → level = level'

namespace Marking

variable (m : Marking) (k : Course) (text : List Char)

def IsMarked (w : LoopWalk) (level : Nat) (p : Position) : Prop :=
  w.seen.contains (m.key level, p.index) = true

/-- What the walk has visited is among what is seen in the end, and so is what has left. -/
structure Ends (w : LoopWalk) (out : List Thread) (seen : Nat → Position → Prop) : Prop where
  left : ∀ u ∈ w.left, u ∈ out
  seen {level : Nat} {p : Position} :
    m.marks level → p ∈ Position.all text → m.IsMarked w level p → seen level p

/-- All that was added to the walk has been followed up. -/
structure Explains (top : Nat) (ts out : List Thread) (seen : Nat → Position → Prop)
    (w w' : LoopWalk) : Prop where
  marked {level : Nat} {p : Position} : m.marks level → p ∈ Position.all text →
    m.IsMarked w' level p →
      m.IsMarked w level p ∨ ∃ v, k.Visits top ts out seen level v ∧ v.pos = p
  left : ∀ u ∈ w'.left, u ∈ w.left ∨ k.Comes top ts out seen 0 u ∨
    ∃ level, k.Visits top ts out seen level u

/-- The thread has left, or need not go on. -/
def Settled (level : Nat) (t : Thread) (w : LoopWalk) : Prop :=
  (level = 0 ∧ t ∈ w.left) ∨
    level ≠ 0 ∧ (t.choose (k.choice level) = none ∨ m.IsMarked w level t.pos)

/-- The thread has been walked on from a level. -/
structure Walked (level : Nat) (t : Thread) (w w' : LoopWalk) : Prop where
  grows : w.Grows w'
  settled : m.Settled k level t w'
  explains {top : Nat} {ts out : List Thread} {seen : Nat → Position → Prop} :
    Inside text ts → m.Ends text w' out seen → k.Comes top ts out seen level t →
      m.Explains k text top ts out seen w w'

variable {m k text} {top level : Nat} {ts out : List Thread} {seen : Nat → Position → Prop}
  {live : Bool} {w w' w'' : LoopWalk} {t v x : Thread}

theorem Ends.mono (h : m.Ends text w' out seen) (hw : w.Grows w') : m.Ends text w out seen :=
  ⟨fun u hu => h.left u (hw.left u hu), fun hm hp hmark => h.seen hm hp (hw.seen _ hmark)⟩

theorem Explains.refl (w : LoopWalk) : m.Explains k text top ts out seen w w :=
  ⟨fun _ _ h => .inl h, fun _ h => .inl h⟩

theorem Explains.trans (h : m.Explains k text top ts out seen w w')
    (h' : m.Explains k text top ts out seen w' w'') :
    m.Explains k text top ts out seen w w'' := by
  refine ⟨fun hm hp hmark => ?_, fun u hu => ?_⟩
  · exact (h'.marked hm hp hmark).elim (h.marked hm hp) .inr
  · exact (h'.left u hu).elim (h.left u) .inr

theorem Settled.mono (h : m.Settled k level t w) (hw : w.Grows w') : m.Settled k level t w' := by
  rcases h with ⟨hzero, hleft⟩ | ⟨hlevel, hnone | hmark⟩
  · exact .inl ⟨hzero, hw.left _ hleft⟩
  · exact .inr ⟨hlevel, .inl hnone⟩
  · exact .inr ⟨hlevel, .inr (hw.seen _ hmark)⟩

theorem Settled.arrives (h : m.Settled k level t w) (hends : m.Ends text w out seen)
    (hmarks : level ≠ 0 → m.marks level) (hp : t.pos ∈ Position.all text) :
    k.Arrives out seen level t := by
  rcases h with ⟨hzero, hleft⟩ | ⟨hlevel, hnone | hmark⟩
  · exact .inl ⟨hzero, hends.left _ hleft⟩
  · exact .inr ⟨hlevel, .inl hnone⟩
  · exact .inr ⟨hlevel, .inr (hends.seen (hmarks hlevel) hp hmark)⟩

/-- Threads that are walked on one after the other. -/
theorem walked_foldl {walk : LoopWalk → Thread → LoopWalk} {xs : List Thread} (w : LoopWalk)
    (h : ∀ w', w.Grows w' → ∀ x ∈ xs, m.Walked k text level x w' (walk w' x)) :
    w.Grows (xs.foldl walk w) ∧ (∀ x ∈ xs, m.Settled k level x (xs.foldl walk w)) ∧
      ∀ top ts out seen, Inside text ts → m.Ends text (xs.foldl walk w) out seen →
        (∀ x ∈ xs, k.Comes top ts out seen level x) →
          m.Explains k text top ts out seen w (xs.foldl walk w) := by
  induction xs generalizing w with
  | nil => exact ⟨.refl w, fun x hx => absurd hx List.not_mem_nil, fun _ _ _ _ _ _ _ => .refl w⟩
  | cons x xs ih =>
    have hx := h w (.refl w) x List.mem_cons_self
    obtain ⟨hgrows, hsettled, hexplains⟩ := ih (walk w x) fun w' hw' y hy =>
      h w' (hx.grows.trans hw') y (List.mem_cons_of_mem x hy)
    refine ⟨hx.grows.trans hgrows, ?_, fun top ts out seen hts hends hcomes => ?_⟩
    · exact List.forall_mem_cons.mpr ⟨hx.settled.mono hgrows, hsettled⟩
    · obtain ⟨hfirst, hrest⟩ := List.forall_mem_cons.mp hcomes
      exact (hx.explains hts (hends.mono hgrows) hfirst).trans
        (hexplains top ts out seen hts hends hrest)

/-- A thread that has made the choice at a level is a visitor once its round has been walked on. -/
theorem visits_of_foldl {next : LoopWalk → Thread → LoopWalk} (hk : k.Orderly text live)
    (hmarks : k.after level ≠ 0 → m.marks (k.after level))
    (hnext : ∀ w', w.Grows w' → ∀ x ∈ (k.round level).run [v],
      m.Walked k text (k.after level) x w' (next w' x))
    (hgrows : (((k.round level).run [v]).foldl next w).Grows w')
    (hleft : k.leaves level → v ∈ w'.left) (hts : Inside text ts) (hends : m.Ends text w' out seen)
    (hcomes : k.Comes top ts out seen level t) (hlevel : level ≠ 0)
    (hchoose : t.choose (k.choice level) = some v) :
    k.Visits top ts out seen level v ∧
      m.Explains k text top ts out seen w (((k.round level).run [v]).foldl next w) := by
  obtain ⟨_, hsettled, hexplains⟩ := walked_foldl w hnext
  have hinside : Inside text ((k.round level).run [v]) := by
    refine (hk.round level).inside fun y hy => ?_
    rw [List.mem_singleton.mp hy, Thread.choose_pos hchoose]
    exact hcomes.inside hk hts
  have hfollowed : k.Followed out seen level v := by
    refine ⟨fun hmay => hends.left v (hleft hmay), fun x hx => ?_⟩
    exact ((hsettled x hx).mono hgrows).arrives hends hmarks (hinside x hx)
  refine ⟨⟨t, hcomes, hlevel, hchoose, hfollowed⟩, ?_⟩
  exact hexplains top ts out seen hts (hends.mono hgrows)
    fun x hx => .round hcomes hlevel hchoose hfollowed hx

/-- A thread that has made the choice leaves and goes through a round, whichever is preferred. -/
theorem visits_of_prefer {next : LoopWalk → Thread → LoopWalk} (l : Loop)
    (hk : k.Orderly text live) (hmarks : k.after level ≠ 0 → m.marks (k.after level))
    (hnext : ∀ w', w.Grows w' → ∀ x ∈ (k.round level).run [v],
      m.Walked k text (k.after level) x w' (next w' x)) :
    w.Grows (l.prefer (fun w => ((k.round level).run [v]).foldl next w) w v) ∧
      ∀ top ts out seen t, Inside text ts →
        m.Ends text (l.prefer (fun w => ((k.round level).run [v]).foldl next w) w v) out seen →
        k.Comes top ts out seen level t → level ≠ 0 → t.choose (k.choice level) = some v →
        k.Visits top ts out seen level v ∧ m.Explains k text top ts out seen w
          (l.prefer (fun w => ((k.round level).run [v]).foldl next w) w v) := by
  -- Leaving adds the visitor itself to what has left.
  have hleave {top : Nat} {ts out : List Thread} {seen : Nat → Position → Prop} (w : LoopWalk)
      (hv : k.Visits top ts out seen level v) :
      m.Explains k text top ts out seen w (w.leave v) := by
    refine ⟨fun _ _ h => .inl h, fun u hu => ?_⟩
    rcases List.mem_cons.mp hu with rfl | hu
    · exact .inr (.inr ⟨level, hv⟩)
    · exact .inl hu
  rw [Loop.prefer]
  split
  · have hgrows := (walked_foldl w hnext).1
    have hlast := LoopWalk.grows_leave (((k.round level).run [v]).foldl next w) v
    refine ⟨hgrows.trans hlast, fun top ts out seen t hts hends hcomes hlevel hchoose => ?_⟩
    obtain ⟨hv, hexplains⟩ := visits_of_foldl hk hmarks hnext hlast
      (fun _ => List.mem_cons_self) hts hends hcomes hlevel hchoose
    exact ⟨hv, hexplains.trans (hleave _ hv)⟩
  · have hnext' : ∀ w', (w.leave v).Grows w' → ∀ x ∈ (k.round level).run [v],
        m.Walked k text (k.after level) x w' (next w' x) :=
      fun w' hw' => hnext w' ((LoopWalk.grows_leave w v).trans hw')
    have hgrows := (walked_foldl (w.leave v) hnext').1
    refine ⟨(LoopWalk.grows_leave w v).trans hgrows,
      fun top ts out seen t hts hends hcomes hlevel hchoose => ?_⟩
    obtain ⟨hv, hexplains⟩ := visits_of_foldl hk hmarks hnext' (.refl _)
      (fun _ => hgrows.left v List.mem_cons_self) hts hends hcomes hlevel hchoose
    exact ⟨hv, (hleave w hv).trans hexplains⟩

/-- The mark of a visit is explained by the visitor. -/
theorem explains_mark (hmark : m.marks level) (ht : t.pos ∈ Position.all text)
    (hv : k.Visits top ts out seen level v) (hpos : v.pos = t.pos) :
    m.Explains k text top ts out seen w
      { w with seen := w.seen.insert (m.key level, t.pos.index) } := by
  refine ⟨fun {level' p} hm hp hmark' => ?_, fun u hu => .inl hu⟩
  rcases LoopWalk.contains_insert.mp hmark' with heq | hold
  · obtain ⟨hkey, hindex⟩ := Prod.ext_iff.mp heq
    have hsame : level' = level := m.key_inj _ _ hm hmark hkey
    have hp : p = t.pos := Position.eq_of_index_eq hp ht hindex
    subst hsame hp
    exact .inr ⟨v, hv, hpos⟩
  · exact .inl hold

/-- One step of a walk: the choice at a level, the visit, and what comes behind it. -/
theorem walked_step {next : LoopWalk → Thread → LoopWalk} (l : Loop) (hk : k.Orderly text live)
    (hlevel : level ≠ 0) (hmark : m.marks level)
    (hmarks : k.after level ≠ 0 → m.marks (k.after level)) (ht : t.pos ∈ Position.all text)
    (hnext : ∀ v w', t.choose (k.choice level) = some v →
      ¬ m.IsMarked w level t.pos → (∀ n, w.seen.contains n = true → w'.seen.contains n = true) →
      m.IsMarked w' level t.pos → ∀ x ∈ (k.round level).run [v],
        m.Walked k text (k.after level) x w' (next w' x)) :
    m.Walked k text level t w
      (match t.choose (k.choice level) with
      | none => w
      | some v =>
        match w.visit? (m.key level) v with
        | none => w
        | some w => l.prefer (fun w => ((k.round level).run [v]).foldl next w) w v) := by
  cases hchoose : t.choose (k.choice level) with
  | none => exact ⟨.refl w, .inr ⟨hlevel, .inl hchoose⟩, fun _ _ _ => .refl w⟩
  | some v =>
    have hpos := Thread.choose_pos hchoose
    simp only [LoopWalk.visit?]
    split
    · next hvisited =>
      split at hvisited
      · next hseen =>
        -- The place is marked already, so the walk ends here and nothing is added.
        rw [hpos] at hseen
        exact ⟨.refl w, .inr ⟨hlevel, .inr hseen⟩, fun _ _ _ => .refl w⟩
      · cases hvisited
    · next w₁ hvisited =>
      split at hvisited
      · cases hvisited
      · next hnew =>
        obtain rfl := Option.some.inj hvisited
        rw [hpos] at hnew ⊢
        have hmarked : (w.seen.insert (m.key level, t.pos.index)).contains
            (m.key level, t.pos.index) = true := LoopWalk.contains_insert.mpr (.inl rfl)
        have hfirst : w.Grows
            { w with seen := w.seen.insert (m.key level, t.pos.index) } :=
          ⟨fun _ h => h, fun n hn => LoopWalk.contains_insert.mpr (.inr hn)⟩
        obtain ⟨hgrows, hvisits⟩ := visits_of_prefer l (v := v) hk hmarks fun w' hw' x hx =>
          hnext v w' hchoose hnew (fun n hn => hw'.seen n (hfirst.seen n hn))
            (hw'.seen _ hmarked) x hx
        refine ⟨hfirst.trans hgrows, .inr ⟨hlevel, .inr (hgrows.seen _ hmarked)⟩,
          fun {top ts out seen} hts hends hcomes => ?_⟩
        obtain ⟨hv, hexplains⟩ := hvisits _ _ _ _ t hts hends hcomes hlevel hchoose
        exact (explains_mark hmark ht hv hpos).trans hexplains

/-- What a walk from marked levels leaves behind has been explored. -/
theorem explored_of_walked {walk : LoopWalk → Thread → LoopWalk} (hts : Inside text ts)
    (hmarks : top ≠ 0 → m.marks top)
    (h : ∀ w, ∀ t ∈ ts, m.Walked k text top t w (walk w t)) :
    ∃ seen, k.Explored top ts (ts.foldl walk {}).left seen := by
  obtain ⟨_, hsettled, hexplains⟩ := walked_foldl {} fun w _ t ht => h w t ht
  let seen (level : Nat) (p : Position) : Prop :=
    m.marks level ∧ p ∈ Position.all text ∧ m.IsMarked (ts.foldl walk {}) level p
  have hends : m.Ends text (ts.foldl walk {}) (ts.foldl walk {}).left seen :=
    ⟨fun _ h => h, fun hm hp hmark => ⟨hm, hp, hmark⟩⟩
  have hall := hexplains top ts _ seen hts hends fun t ht => .start ht
  refine ⟨seen, fun t ht => (hsettled t ht).arrives hends hmarks (hts t ht), ?_, fun u hu => ?_⟩
  · rintro level p ⟨hm, hp, hmark⟩
    refine (hall.marked hm hp hmark).resolve_left fun hnone => ?_
    rw [IsMarked, Std.TreeSet.contains_emptyc] at hnone
    cases hnone
  · exact (hall.left u hu).resolve_left List.not_mem_nil

/-- A thread has come to a level that is not marked, and has been walked on from there. -/
structure Entered (m : Marking) (k : Course) (text : List Char) (level : Nat) (t : Thread)
    (w w' : LoopWalk) : Prop where
  grows : w.Grows w'
  visits {top : Nat} {ts out : List Thread} {seen : Nat → Position → Prop} {v : Thread} :
    Inside text ts → m.Ends text w' out seen → k.Comes top ts out seen level t →
      t.choose (k.choice level) = some v → k.Visits top ts out seen level v
  explains {top : Nat} {ts out : List Thread} {seen : Nat → Position → Prop} :
    Inside text ts → m.Ends text w' out seen → k.Comes top ts out seen level t →
      m.Explains k text top ts out seen w w'

theorem entered_foldl {walk : LoopWalk → Thread → LoopWalk} {xs : List Thread}
    (h : ∀ w, ∀ x ∈ xs, m.Entered k text level x w (walk w x)) (w : LoopWalk) :
    w.Grows (xs.foldl walk w) ∧
      ∀ top ts out seen, Inside text ts → m.Ends text (xs.foldl walk w) out seen →
        (∀ x ∈ xs, k.Comes top ts out seen level x) →
          (∀ x ∈ xs, ∀ v, x.choose (k.choice level) = some v →
            k.Visits top ts out seen level v) ∧
          m.Explains k text top ts out seen w (xs.foldl walk w) := by
  induction xs generalizing w with
  | nil => exact ⟨.refl w, fun _ _ _ _ _ _ _ => ⟨fun x hx => absurd hx List.not_mem_nil, .refl w⟩⟩
  | cons x xs ih =>
    have hx := h w x List.mem_cons_self
    obtain ⟨hgrows, hrest⟩ := ih (fun w y hy => h w y (List.mem_cons_of_mem x hy)) (walk w x)
    refine ⟨hx.grows.trans hgrows, fun top ts out seen hts hends hcomes => ?_⟩
    obtain ⟨hcomesx, hcomes⟩ := List.forall_mem_cons.mp hcomes
    obtain ⟨hvisits, hexplains⟩ := hrest top ts out seen hts hends hcomes
    have hends' := hends.mono hgrows
    exact ⟨List.forall_mem_cons.mpr ⟨fun v => hx.visits hts hends' hcomesx, hvisits⟩,
      (hx.explains hts hends' hcomesx).trans hexplains⟩

theorem explored_of_entered {walk : LoopWalk → Thread → LoopWalk} (hts : Inside text ts)
    (htop : top ≠ 0) (hmarks : ¬ m.marks top)
    (h : ∀ w, ∀ t ∈ ts, m.Entered k text top t w (walk w t)) :
    ∃ seen, k.Explored top ts (ts.foldl walk {}).left seen := by
  obtain ⟨_, hall⟩ := entered_foldl (m := m) h {}
  -- The places of the level itself are those of the threads that have made the choice there.
  let seen (level : Nat) (p : Position) : Prop :=
    (m.marks level ∧ p ∈ Position.all text ∧ m.IsMarked (ts.foldl walk {}) level p) ∨
      level = top ∧ ∃ t ∈ ts, ∃ v, t.choose (k.choice top) = some v ∧ t.pos = p
  have hends : m.Ends text (ts.foldl walk {}) (ts.foldl walk {}).left seen :=
    ⟨fun _ h => h, fun hm hp hmark => .inl ⟨hm, hp, hmark⟩⟩
  obtain ⟨hvisits, hexplains⟩ := hall top ts _ seen hts hends fun t ht => .start ht
  refine ⟨seen, fun t ht => .inr ⟨htop, ?_⟩, ?_, fun u hu => ?_⟩
  · cases hchoose : t.choose (k.choice top) with
    | none => exact .inl rfl
    | some v => exact .inr (.inr ⟨rfl, t, ht, v, hchoose, rfl⟩)
  · rintro level p (⟨hm, hp, hmark⟩ | ⟨rfl, t, ht, v, hchoose, rfl⟩)
    · refine (hexplains.marked hm hp hmark).resolve_left fun hnone => ?_
      rw [IsMarked, Std.TreeSet.contains_emptyc] at hnone
      cases hnone
    · exact ⟨v, hvisits t ht v hchoose, Thread.choose_pos hchoose⟩
  · exact (hexplains.left u hu).resolve_left List.not_mem_nil

end Marking

/-! ## Loops with and without a bound -/

namespace Loop

variable (l : Loop) (round : Nat → Stage)

/-- At most so many rounds: the level is the number of rounds left. -/
def bounded : Course where
  choice level := l.address.down (.choice (level - 1))
  round level := round (level - 1)
  after level := level - 1
  leaves _ := True

/-- Any number of rounds: level 1 goes on as long as it likes, and with levels 2 and 3 begin loops
that offer another choice first, and none. -/
def unbounded : Course where
  choice
    | 1 => l.address.down (.choice 0)
    | 2 => l.address.down (.choice 1)
    | _ => none
  round _ := round 0
  after _ := 1
  leaves level := level ≤ 2

/-- Every level of a bounded loop is marked by itself. -/
def boundedMarking : Marking := ⟨id, fun _ => True, fun _ _ _ _ h => h⟩

/-- Only level 1 of an unbounded loop is marked. -/
def unboundedMarking : Marking :=
  ⟨fun _ => 0, fun level => level = 1, fun _ _ h h' _ => h.trans h'.symm⟩

variable {l round} {text : List Char} {live : Bool}

theorem walked_atMost (hk : (l.bounded round).Orderly text live) {rounds : Nat}
    (hround : ∀ n < rounds, ∀ t, l.round n t = (round n).run [t]) {w : LoopWalk} {t : Thread}
    (ht : t.pos ∈ Position.all text) :
    boundedMarking.Walked (l.bounded round) text rounds t w (l.atMost rounds w t) := by
  induction rounds generalizing w t with
  | zero =>
    refine ⟨LoopWalk.grows_leave w t, .inl ⟨rfl, List.mem_cons_self⟩, fun hts hends hcomes => ?_⟩
    refine ⟨fun _ _ h => .inl h, fun u hu => ?_⟩
    rcases List.mem_cons.mp hu with rfl | hu
    · exact .inr (.inl hcomes)
    · exact .inl hu
  | succ rounds ih =>
    rw [atMost]
    simp only [hround rounds (Nat.lt_succ_self rounds)]
    refine Marking.walked_step (m := boundedMarking) l hk (Nat.succ_ne_zero rounds) trivial
      (fun _ => trivial) ht fun v w' hchoose _ _ _ x hx => ?_
    refine ih (fun n hn => hround n (Nat.lt_succ_of_lt hn))
      ((hk.round (rounds + 1)).inside (fun y hy => ?_) x hx)
    rw [List.mem_singleton.mp hy, Thread.choose_pos hchoose]
    exact ht

/-- The rounds of a loop lead onward. -/
def Onward (s : Stage) : Prop := ∀ v x, x ∈ s.run [v] → v.pos.index ≤ x.pos.index

theorem walked_goOn (hk : (l.unbounded round).Orderly text live)
    (hround : ∀ t, l.round 0 t = (round 0).run [t]) (honward : Onward (round 0)) (fuel : Nat)
    {w : LoopWalk} {t : Thread} (ht : t.pos ∈ Position.all text)
    (hfuel : t.pos.rest.length < fuel ∨ unboundedMarking.IsMarked w 1 t.pos) :
    unboundedMarking.Walked (l.unbounded round) text 1 t w (l.goOn fuel w t) := by
  induction fuel generalizing w t with
  | zero =>
    have hmarked := hfuel.resolve_left (Nat.not_lt_zero _)
    exact ⟨.refl w, .inr ⟨Nat.one_ne_zero, .inr hmarked⟩, fun _ _ _ => .refl w⟩
  | succ fuel ih =>
    rw [goOn]
    simp only [hround]
    refine Marking.walked_step (m := unboundedMarking) l hk Nat.one_ne_zero rfl (fun _ => rfl) ht
      fun v w' hchoose hnew _ hmarked x hx => ?_
    have hpos := Thread.choose_pos hchoose
    have hx' : x.pos ∈ Position.all text := by
      refine (hk.round 1).inside (fun y hy => ?_) x hx
      rw [List.mem_singleton.mp hy, hpos]
      exact ht
    refine ih hx' ?_
    -- A thread that has not moved stands at the place that has just been marked.
    by_cases hindex : x.pos.index = t.pos.index
    · rw [Position.eq_of_index_eq hx' ht hindex]
      exact .inr hmarked
    · have hrest := hfuel.resolve_right hnew
      have hle := honward v x hx
      rw [hpos] at hle
      have htext := Position.index_add_length ht
      have htext' := Position.index_add_length hx'
      exact .inl (by omega)

theorem walked_again (hk : (l.unbounded round).Orderly text live)
    (hround : ∀ t, l.round 0 t = (round 0).run [t]) (honward : Onward (round 0))
    {w : LoopWalk} {t : Thread} (ht : t.pos ∈ Position.all text) :
    unboundedMarking.Walked (l.unbounded round) text 1 t w (l.again w t) :=
  walked_goOn hk hround honward _ ht (.inl (Nat.lt_succ_self _))

theorem walked_rounds (hk : (l.unbounded round).Orderly text live)
    (hround : ∀ t, l.round 0 t = (round 0).run [t]) (honward : Onward (round 0)) (level : Nat)
    {v : Thread} (hv : v.pos ∈ Position.all text) (w : LoopWalk) :
    ∀ x ∈ ((l.unbounded round).round level).run [v], unboundedMarking.Walked (l.unbounded round)
      text ((l.unbounded round).after level) x w (l.again w x) := by
  intro x hx
  refine walked_again hk hround honward ((hk.round level).inside (fun y hy => ?_) x hx)
  rw [List.mem_singleton.mp hy]
  exact hv

theorem entered_orNone (hk : (l.unbounded round).Orderly text live)
    (hround : ∀ t, l.round 0 t = (round 0).run [t]) (honward : Onward (round 0)) {w : LoopWalk}
    {t : Thread} (ht : t.pos ∈ Position.all text) :
    unboundedMarking.Entered (l.unbounded round) text 2 t w (l.orNone w t) := by
  have hunfold : l.orNone w t = match t.choose ((l.unbounded round).choice 2) with
      | none => w
      | some v => l.prefer (fun w => ((round 0).run [v]).foldl l.again w) w v := by
    simp only [orNone, onceOrMore, hround]
    rfl
  rw [hunfold]
  cases hchoose : t.choose ((l.unbounded round).choice 2) with
  | none =>
    refine ⟨.refl w, fun _ _ _ hv => ?_, fun _ _ _ => .refl w⟩
    rw [hchoose] at hv
    cases hv
  | some v =>
    have hv : v.pos ∈ Position.all text := by rwa [Thread.choose_pos hchoose]
    obtain ⟨hgrows, hvisits⟩ := Marking.visits_of_prefer l hk (fun _ => rfl)
      fun w' (_ : w.Grows w') => walked_rounds hk hround honward 2 hv w'
    refine ⟨hgrows, fun hts hends hcomes hv' => ?_, fun hts hends hcomes => ?_⟩
    · rw [hchoose] at hv'
      cases hv'
      exact (hvisits _ _ _ _ t hts hends hcomes (by decide) hchoose).1
    · exact (hvisits _ _ _ _ t hts hends hcomes (by decide) hchoose).2

theorem entered_onceOrMore (hk : (l.unbounded round).Orderly text live)
    (hround : ∀ t, l.round 0 t = (round 0).run [t]) (honward : Onward (round 0)) {w : LoopWalk}
    {t : Thread} (ht : t.pos ∈ Position.all text) :
    unboundedMarking.Entered (l.unbounded round) text 3 t w (l.onceOrMore w t) := by
  have hnext (w' : LoopWalk) (_ : w.Grows w') := walked_rounds hk hround honward 3 ht w'
  have hstays : ¬ (l.unbounded round).leaves 3 := show ¬ 3 ≤ 2 by decide
  rw [onceOrMore, hround]
  refine ⟨(Marking.walked_foldl w hnext).1, fun hts hends hcomes hv => ?_,
    fun hts hends hcomes => ?_⟩
  · cases hv
    exact (Marking.visits_of_foldl hk (fun _ => rfl) hnext (.refl _) (absurd · hstays) hts hends
      hcomes (by decide) rfl).1
  · exact (Marking.visits_of_foldl hk (fun _ => rfl) hnext (.refl _) (absurd · hstays) hts hends
      hcomes (by decide) rfl).2

end Loop

end TemplateMatch.Regex
