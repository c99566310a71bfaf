import TemplateMatch.Proofs.Regex.Walks

/-!
What a lazy dot does with threads in their order. From each one it goes onward place by place, until
it comes to where an earlier thread has been (`run_lazyDot`). So a place is reached by the first of
the threads that can reach it (`exists_sweep`), and among the places of one thread the nearer comes
first (`pairwise_sweep`).
-/

namespace TemplateMatch.Regex

namespace Thread

/-- The thread so many characters further on. -/
def ahead (t : Thread) (n : Nat) : Thread := { t with pos := t.pos.skip n, trail := [] }

@[simp] theorem pos_ahead (t : Thread) (n : Nat) : (t.ahead n).pos = t.pos.skip n := rfl

theorem ahead_zero {t : Thread} (h : t.trail = []) : t.ahead 0 = t := by
  cases t
  cases h
  rfl

theorem ahead_ahead (t : Thread) (m n : Nat) : (t.ahead m).ahead n = t.ahead (m + n) := by
  rw [ahead, ahead, ahead, Position.skip_add]

theorem pos_closeGroup (name : String) (t : Thread) : (t.closeGroup name).pos = t.pos := by
  rw [closeGroup]
  split <;> rfl

/-- From each thread in turn, the threads ahead of it up to a place, which is where the threads
before it have begun. -/
def sweep (stop : Nat) : List Thread → List Thread
  | [] => []
  | t :: ts => (List.range (stop - t.pos.index)).map t.ahead ++ sweep (min stop t.pos.index) ts

end Thread

open Thread (sweep)

/-! ## The walk -/

/-- The loop of a lazy dot that stands in no other loop. -/
def lazyDot : Loop := ⟨fun _ t => [t].filterMap (Thread.step .any), none, false⟩

/-- The place of a thread is visited, and the thread leaves there. -/
def LoopWalk.pass (w : LoopWalk) (t : Thread) : LoopWalk :=
  ⟨w.seen.insert (0, t.pos.index), t :: w.left⟩

section

variable {text : List Char} {stop fuel : Nat} {w : LoopWalk} {t : Thread} {ts : List Thread}

theorem goOn_visited (h : w.seen.contains (0, t.pos.index) = true) :
    lazyDot.goOn fuel w t = w := by
  cases fuel with
  | zero => rfl
  | succ fuel =>
    have hvisit : w.visit? 0 t = none := if_pos h
    simp only [Loop.goOn, lazyDot, Address.down, Option.map_none, Thread.choose, hvisit]

theorem goOn_new (h : w.seen.contains (0, t.pos.index) = false) :
    lazyDot.goOn (fuel + 1) w t =
      ([t].filterMap (Thread.step .any)).foldl (lazyDot.goOn fuel) (w.pass t) := by
  have hvisit : w.visit? 0 t = some { w with seen := w.seen.insert (0, t.pos.index) } := by
    rw [LoopWalk.visit?, if_neg (by simp [h])]
  simp only [Loop.goOn, lazyDot, Address.down, Option.map_none, Thread.choose, hvisit, Loop.prefer]
  rfl

theorem goOn_new_end (h : w.seen.contains (0, t.pos.index) = false) (hrest : t.pos.rest = []) :
    lazyDot.goOn (fuel + 1) w t = w.pass t := by
  have hstep : t.step .any = none := by rw [Thread.step, hrest]
  rw [goOn_new h, List.filterMap_cons_none hstep]
  rfl

theorem step_any {c : Char} {rest : List Char} (hrest : t.pos.rest = c :: rest) :
    t.step .any = some (t.ahead 1) := by
  rw [Thread.step, Thread.ahead, Position.skip_succ hrest, hrest]
  exact if_pos (CharSet.mem_any c)

theorem goOn_new_next (h : w.seen.contains (0, t.pos.index) = false) {c : Char} {rest : List Char}
    (hrest : t.pos.rest = c :: rest) :
    lazyDot.goOn (fuel + 1) w t = lazyDot.goOn fuel (w.pass t) (t.ahead 1) := by
  rw [goOn_new h, List.filterMap_cons_some (step_any hrest)]
  rfl

theorem contains_pass {i : Nat} : (w.pass t).seen.contains (0, i) = true ↔
    i = t.pos.index ∨ w.seen.contains (0, i) = true := by
  rw [LoopWalk.pass, LoopWalk.contains_insert, Prod.mk.injEq]
  exact or_congr (and_iff_right rfl) Iff.rfl

theorem left_pass : (w.pass t).left.reverse = w.left.reverse ++ [t] := List.reverse_cons

/-- The places from `stop` on have been visited, as far as they lie at `start` or behind it. -/
def LoopWalk.VisitedFrom (text : List Char) (start stop : Nat) (w : LoopWalk) : Prop :=
  ∀ i, start ≤ i → i ≤ text.length → (w.seen.contains (0, i) = true ↔ stop ≤ i)

/-- From a thread the walk goes up to the first place that has been visited, and then all places
from the thread on have been. -/
theorem goOn_lazyDot (ht : t.pos ∈ Position.all text) (htrail : t.trail = [])
    (hfuel : t.pos.rest.length < fuel) (hstop : stop ≤ text.length + 1)
    (hseen : w.VisitedFrom text t.pos.index stop) :
    (lazyDot.goOn fuel w t).left.reverse =
        w.left.reverse ++ (List.range (stop - t.pos.index)).map t.ahead ∧
      ∀ i ≤ text.length, (lazyDot.goOn fuel w t).seen.contains (0, i) = true ↔
        w.seen.contains (0, i) = true ∨ t.pos.index ≤ i := by
  induction fuel generalizing w t with
  | zero => omega
  | succ fuel ih =>
    have hlen := Position.index_add_length ht
    have hhere := hseen t.pos.index (Nat.le_refl _) (by omega)
    cases hvisited : w.seen.contains (0, t.pos.index) with
    | true =>
      have hle := hhere.mp hvisited
      rw [goOn_visited hvisited, Nat.sub_eq_zero_of_le hle]
      refine ⟨(List.append_nil _).symm, fun i hi => (or_iff_left_of_imp fun h => ?_).symm⟩
      exact (hseen i h hi).mpr (by omega)
    | false =>
      have hlt : t.pos.index < stop := by
        rw [← Nat.not_le, ← hhere, hvisited]
        exact Bool.false_ne_true
      cases hrest : t.pos.rest with
      | nil =>
        -- There is only the place at the end of the text.
        rw [hrest, List.length_nil] at hlen
        rw [goOn_new_end hvisited hrest, left_pass, show stop - t.pos.index = 1 by omega,
          List.range_one, List.map_singleton, Thread.ahead_zero htrail]
        refine ⟨rfl, fun i hi => ?_⟩
        rw [contains_pass]
        grind
      | cons c rest =>
        have hlong : t.pos.rest.length = rest.length + 1 := by rw [hrest, List.length_cons]
        have hnext : (t.ahead 1).pos.index = t.pos.index + 1 := Position.index_skip (by omega)
        have hfuel' : (t.ahead 1).pos.rest.length < fuel := by
          rw [Thread.pos_ahead, Position.rest_skip, List.length_drop]
          omega
        have hseen' : (w.pass t).VisitedFrom text (t.ahead 1).pos.index stop := by
          intro i hi hi'
          rw [contains_pass, or_iff_right (by omega)]
          exact hseen i (by omega) hi'
        obtain ⟨hleft, hall⟩ := ih (Position.skip_mem_all ht (by omega)) rfl hfuel' hseen'
        rw [goOn_new_next hvisited hrest]
        constructor
        · have hcount : stop - t.pos.index = stop - (t.ahead 1).pos.index + 1 := by omega
          rw [hleft, left_pass, hcount, List.range_succ_eq_map, List.map_cons, List.map_map,
            Thread.ahead_zero htrail, List.append_assoc, List.singleton_append]
          congr 3
          funext n
          rw [Function.comp, Thread.ahead_ahead, Nat.add_comm]
        · intro i hi
          rw [hall i hi, contains_pass, hnext]
          grind

theorem foldl_lazyDot (hts : Inside text ts) (htrails : ∀ t ∈ ts, t.trail = [])
    (hstop : stop ≤ text.length + 1) (hseen : w.VisitedFrom text 0 stop) :
    (ts.foldl lazyDot.again w).left.reverse = w.left.reverse ++ sweep stop ts := by
  induction ts generalizing w stop with
  | nil => exact (List.append_nil _).symm
  | cons t ts ih =>
    rw [List.forall_mem_cons] at htrails
    obtain ⟨ht, hts⟩ := List.forall_mem_cons.mp hts
    obtain ⟨hleft, hall⟩ := goOn_lazyDot ht htrails.1 (Nat.lt_succ_self _) hstop
      fun i _ hi => hseen i (Nat.zero_le i) hi
    have hseen' : (lazyDot.again w t).VisitedFrom text 0 (min stop t.pos.index) := by
      intro i _ hi
      rw [Loop.again, hall i hi, hseen i (Nat.zero_le i) hi]
      omega
    rw [List.foldl_cons, ih hts htrails.2 (by omega) hseen', Loop.again, hleft, sweep,
      List.append_assoc]

end

/-! ## The order of what is found -/

namespace Thread

variable {stop : Nat} {t u : Thread} {ts : List Thread}

theorem mem_sweep (h : u ∈ sweep stop ts) :
    ∃ t ∈ ts, ∃ n, t.pos.index + n < stop ∧ u = t.ahead n := by
  induction ts generalizing stop with
  | nil => cases h
  | cons t ts ih =>
    rcases List.mem_append.mp h with h | h
    · obtain ⟨n, hn, rfl⟩ := List.mem_map.mp h
      exact ⟨t, List.mem_cons_self, n, by have := List.mem_range.mp hn; omega, rfl⟩
    · obtain ⟨t', ht', n, hn, rfl⟩ := ih h
      exact ⟨t', List.mem_cons_of_mem _ ht', n, by omega, rfl⟩

/-- Of the places ahead of one thread the nearer comes first, and what is ahead of a thread comes
before what is ahead of a later one. -/
theorem pairwise_sweep {R S : Thread → Thread → Prop} (hR : ts.Pairwise R)
    (hsame : ∀ t ∈ ts, ∀ m n, m < n → t.pos.index + n < stop → S (t.ahead m) (t.ahead n))
    (hlater : ∀ t ∈ ts, ∀ u ∈ ts, ∀ m n, R t u → t.pos.index + m < stop →
      u.pos.index + n < t.pos.index → S (t.ahead m) (u.ahead n)) :
    (sweep stop ts).Pairwise S := by
  induction ts generalizing stop with
  | nil => exact .nil
  | cons t ts ih =>
    obtain ⟨hfirst, hrest⟩ := List.pairwise_cons.mp hR
    rw [sweep, List.pairwise_append]
    refine ⟨?_, ?_, ?_⟩
    · rw [List.pairwise_map]
      refine List.pairwise_lt_range.imp_of_mem fun _ hn hlt => ?_
      exact hsame t List.mem_cons_self _ _ hlt (by have := List.mem_range.mp hn; omega)
    · refine ih hrest (fun u hu m n hlt hn => ?_) fun u hu v hv m n huv hm hn => ?_
      · exact hsame u (List.mem_cons_of_mem _ hu) m n hlt (by omega)
      · exact hlater u (List.mem_cons_of_mem _ hu) v (List.mem_cons_of_mem _ hv) m n huv
          (by omega) hn
    · intro x hx y hy
      obtain ⟨m, hm, rfl⟩ := List.mem_map.mp hx
      obtain ⟨u, hu, n, hn, rfl⟩ := mem_sweep hy
      exact hlater t List.mem_cons_self u (List.mem_cons_of_mem _ hu) m n (hfirst u hu)
        (by have := List.mem_range.mp hm; omega) (by omega)

/-- A place ahead of a thread is reached from this thread, or from one before it. -/
theorem exists_sweep {R : Thread → Thread → Prop} (hR : ts.Pairwise R) (ht : t ∈ ts) {n : Nat}
    (hn : t.pos.index + n < stop) :
    ∃ u ∈ ts, ∃ m, (u = t ∧ m = n ∨ R u t) ∧ u.pos.index + m = t.pos.index + n ∧
      u.ahead m ∈ sweep stop ts := by
  induction ts generalizing stop with
  | nil => cases ht
  | cons v ts ih =>
    obtain ⟨hfirst, hrest⟩ := List.pairwise_cons.mp hR
    have hahead {m : Nat} (hm : v.pos.index + m < stop) : v.ahead m ∈ sweep stop (v :: ts) :=
      List.mem_append_left _ (List.mem_map_of_mem (List.mem_range.mpr (by omega)))
    rcases List.mem_cons.mp ht with rfl | ht
    · exact ⟨t, List.mem_cons_self, n, .inl ⟨rfl, rfl⟩, rfl, hahead hn⟩
    · by_cases hbefore : t.pos.index + n < v.pos.index
      · have hstop : t.pos.index + n < min stop v.pos.index := by omega
        obtain ⟨u, hu, m, hut, hm, hmem⟩ := ih hrest ht hstop
        exact ⟨u, List.mem_cons_of_mem _ hu, m, hut, hm, List.mem_append_right _ hmem⟩
      · exact ⟨v, List.mem_cons_self, t.pos.index + n - v.pos.index, .inr (hfirst t ht), by omega,
          hahead (by omega)⟩

theorem distinctFrom_eq_self {seen : Std.TreeSet Nat}
    (hseen : ∀ t ∈ ts, seen.contains t.pos.index = false)
    (h : ts.Pairwise fun t u => t.pos.index ≠ u.pos.index) : distinctFrom seen ts = ts := by
  induction ts generalizing seen with
  | nil => rfl
  | cons t ts ih =>
    rw [List.forall_mem_cons] at hseen
    obtain ⟨hfirst, hrest⟩ := List.pairwise_cons.mp h
    rw [distinctFrom, hseen.1, if_neg Bool.false_ne_true, ih (fun u hu => ?_) hrest]
    rw [Std.TreeSet.contains_insert, hseen.2 u hu, Bool.or_false, beq_eq_false_iff_ne, ne_eq,
      Nat.compare_eq_eq]
    exact hfirst u hu

/-- A sweep comes to no place twice. -/
theorem distinct_sweep {text : List Char} (hts : Inside text ts) (hstop : stop ≤ text.length + 1) :
    distinct (sweep stop ts) = sweep stop ts := by
  have hindex {t : Thread} (ht : t ∈ ts) {n : Nat} (hn : t.pos.index + n < stop) :
      (t.ahead n).pos.index = t.pos.index + n := by
    have hlen := Position.index_add_length (hts t ht)
    exact Position.index_skip (by omega)
  refine distinctFrom_eq_self (fun t _ => Std.TreeSet.contains_emptyc) ?_
  refine pairwise_sweep (R := fun _ _ => True) (List.pairwise_of_forall fun _ _ => trivial)
    (fun t ht m n hlt hn => ?_) fun t ht u hu m n _ hm hn => ?_
  · rw [hindex ht (by omega), hindex ht hn]
    omega
  · rw [hindex ht hm, hindex hu (by omega)]
    omega

end Thread

/-- A lazy dot that may be repeated sweeps the places behind its threads. -/
theorem run_lazyDot {text : List Char} {ts : List Thread} (hts : Inside text ts) :
    (Expr.repetition 0 none false (.chars .any)).run none ts =
      sweep (text.length + 1) (ts.map (Thread.enterLoop none)) := by
  have hloop : (Expr.repetition 0 none false (.chars .any)).run none ts =
      Loop.walkAll lazyDot.again (ts.map (Thread.enterLoop none)) := rfl
  have hinside : Inside text (ts.map (Thread.enterLoop none)) := by
    intro u hu
    obtain ⟨t, ht, rfl⟩ := List.mem_map.mp hu
    exact hts t ht
  have htrails : ∀ u ∈ ts.map (Thread.enterLoop none), u.trail = [] := by
    intro u hu
    obtain ⟨t, _, rfl⟩ := List.mem_map.mp hu
    rfl
  -- At first nothing has been visited, and every place is one of the text.
  have hseen : LoopWalk.VisitedFrom text 0 (text.length + 1) {} := by
    intro i _ hi
    rw [Std.TreeSet.contains_emptyc]
    exact iff_of_false Bool.false_ne_true (by omega)
  rw [hloop, Loop.walkAll, foldl_lazyDot hinside htrails (Nat.le_refl _) hseen]
  exact Thread.distinct_sweep hinside (Nat.le_refl _)

end TemplateMatch.Regex
