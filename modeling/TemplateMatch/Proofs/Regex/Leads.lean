import TemplateMatch.Regex.Matching

/-!
What it means that an expression matches: `Leads e p q spans` says that `e` takes a match from the
place `p` to the place `q` and completes the groups `spans` on the way. Nothing is said of which
way is preferred, so this is what a match is, and `Expr.run` is how one is found.
-/

namespace TemplateMatch.Regex

/-! ## Places behind a place -/

namespace Position

/-- The place so many characters further on. -/
def skip : Nat → Position → Position
  | 0, p => p
  | n + 1, p =>
    match p.rest with
    | [] => p
    | c :: rest => skip n ⟨p.index + 1, some c, rest⟩

@[simp] theorem skip_zero (p : Position) : p.skip 0 = p := rfl

theorem skip_succ {p : Position} {c : Char} {rest : List Char} (h : p.rest = c :: rest) (n : Nat) :
    p.skip (n + 1) = skip n ⟨p.index + 1, some c, rest⟩ := by
  rw [skip, h]

theorem skip_of_rest_nil {p : Position} (h : p.rest = []) (n : Nat) : p.skip n = p := by
  cases n with
  | zero => rfl
  | succ n => rw [skip, h]

theorem skip_add (m n : Nat) (p : Position) : (p.skip m).skip n = p.skip (m + n) := by
  induction m generalizing p with
  | zero => rw [Nat.zero_add]; rfl
  | succ m ih =>
    cases hp : p.rest with
    | nil => rw [skip_of_rest_nil hp, skip_of_rest_nil hp, skip_of_rest_nil hp]
    | cons c rest => rw [skip_succ hp, ih, Nat.succ_add, skip_succ hp]

@[simp] theorem rest_skip (n : Nat) (p : Position) : (p.skip n).rest = p.rest.drop n := by
  induction n generalizing p with
  | zero => rfl
  | succ n ih =>
    cases hp : p.rest with
    | nil => rw [skip_of_rest_nil hp, hp, List.drop_nil]
    | cons c rest => rw [skip_succ hp, ih, List.drop_succ_cons]

theorem index_skip {n : Nat} {p : Position} (h : n ≤ p.rest.length) :
    (p.skip n).index = p.index + n := by
  induction n generalizing p with
  | zero => rfl
  | succ n ih =>
    cases hp : p.rest with
    | nil => rw [hp, List.length_nil] at h; omega
    | cons c rest =>
      rw [hp, List.length_cons] at h
      rw [skip_succ hp, ih (by simpa using h)]
      simp only
      omega

/-- The text between a place and one behind it. -/
theorem textTo_skip {n : Nat} {p : Position} (h : n ≤ p.rest.length) :
    p.textTo (p.skip n) = p.rest.take n := by
  rw [textTo, index_skip h, Nat.add_sub_cancel_left]

theorem before_skip_isNone {n : Nat} {p : Position} (h : n ≤ p.rest.length)
    (hb : (p.skip n).before = none) : n = 0 := by
  induction n generalizing p with
  | zero => rfl
  | succ n ih =>
    cases hp : p.rest with
    | nil => rw [hp, List.length_nil] at h; omega
    | cons c rest =>
      rw [hp, List.length_cons] at h
      rw [skip_succ hp] at hb
      have hn : n = 0 := ih (by simpa using h) hb
      subst hn
      exact absurd hb (by simp)

theorem mem_onward_iff {index : Nat} {before : Option Char} {text : List Char} {p : Position} :
    p ∈ onward index before text ↔ ∃ n ≤ text.length, p = skip n ⟨index, before, text⟩ := by
  induction text generalizing index before with
  | nil =>
    simp only [onward, List.mem_singleton, List.length_nil, Nat.le_zero]
    exact ⟨fun h => ⟨0, rfl, h⟩, fun ⟨n, hn, h⟩ => by subst hn; exact h⟩
  | cons c rest ih =>
    rw [onward, List.mem_cons, ih]
    constructor
    · rintro (h | ⟨n, hn, h⟩)
      · exact ⟨0, Nat.zero_le _, h⟩
      · exact ⟨n + 1, Nat.succ_le_succ hn, by rw [h, skip_succ rfl]⟩
    · rintro ⟨n, hn, h⟩
      cases n with
      | zero => exact .inl h
      | succ n => exact .inr ⟨n, Nat.le_of_succ_le_succ hn, by rw [h, skip_succ rfl]⟩

/-- The places of a text are those behind its start. -/
theorem mem_all_iff {text : List Char} {p : Position} :
    p ∈ all text ↔ ∃ n ≤ text.length, p = (start text).skip n :=
  mem_onward_iff

theorem start_mem_all (text : List Char) : start text ∈ all text :=
  mem_all_iff.mpr ⟨0, Nat.zero_le _, rfl⟩

theorem index_add_length {text : List Char} {p : Position} (h : p ∈ all text) :
    p.index + p.rest.length = text.length := by
  obtain ⟨n, hn, rfl⟩ := mem_all_iff.mp h
  rw [index_skip hn, rest_skip, List.length_drop]
  simp only [start]
  omega

/-- A text is cut by two of its places. -/
theorem eq_append_textTo {text : List Char} {p : Position} {n : Nat} (hp : p ∈ all text)
    (hn : n ≤ p.rest.length) :
    text = text.take p.index ++ p.textTo (p.skip n) ++ (p.skip n).rest := by
  obtain ⟨m, hm, rfl⟩ := mem_all_iff.mp hp
  have hi : ((start text).skip m).index = m := by rw [index_skip hm, start]; simp
  rw [textTo_skip hn, hi, rest_skip n, List.append_assoc, List.take_append_drop, rest_skip]
  exact (List.take_append_drop m text).symm

theorem skip_mem_all {text : List Char} {p : Position} {n : Nat} (hp : p ∈ all text)
    (hn : n ≤ p.rest.length) : p.skip n ∈ all text := by
  obtain ⟨m, hm, rfl⟩ := mem_all_iff.mp hp
  rw [rest_skip, List.length_drop] at hn
  exact mem_all_iff.mpr ⟨m + n, by change _ ≤ text.length at hm; simp only [start] at hn; omega,
    skip_add m n _⟩

/-- Places of one text are told apart by their indices. -/
theorem eq_of_index_eq {text : List Char} {p q : Position} (hp : p ∈ all text) (hq : q ∈ all text)
    (h : p.index = q.index) : p = q := by
  obtain ⟨m, hm, rfl⟩ := mem_all_iff.mp hp
  obtain ⟨n, hn, rfl⟩ := mem_all_iff.mp hq
  rw [index_skip hm, index_skip hn, Nat.add_left_cancel_iff] at h
  rw [h]

end Position

/-! ## Matches -/

/-- A group that is complete, with the places where it began and ended. -/
abbrev Span := String × Position × Position

/-- The match between two places with the texts of these groups. -/
def Match.ofSpans (p q : Position) (spans : List Span) : Match :=
  ⟨p.index, q.index, spans.map fun s => (s.1, String.ofList (s.2.1.textTo s.2.2))⟩

/-- An expression leads from one place to another and completes groups, the latest first. -/
inductive Leads : Expr → Position → Position → List Span → Prop
  | empty {p : Position} : Leads .empty p p []
  | look {l : Look} {p : Position} : l.holds p = true → Leads (.look l) p p []
  | chars {s : CharSet} {p : Position} {c : Char} {rest : List Char} :
    p.rest = c :: rest → s.mem c = true → Leads (.chars s) p ⟨p.index + 1, some c, rest⟩ []
  | cat {a b : Expr} {p q r : Position} {first then_ : List Span} :
    Leads a p q first → Leads b q r then_ → Leads (.cat a b) p r (then_ ++ first)
  | left {a b : Expr} {p q : Position} {spans : List Span} :
    Leads a p q spans → Leads (.alt a b) p q spans
  | right {a b : Expr} {p q : Position} {spans : List Span} :
    Leads b p q spans → Leads (.alt a b) p q spans
  | group {name : String} {a : Expr} {p q : Position} {spans : List Span} :
    Leads a p q spans → Leads (.group name a) p q ((name, p, q) :: spans)
  /-- No round is required any more. -/
  | leave {max : Option Nat} {greedy : Bool} {a : Expr} {p : Position} :
    Leads (.repetition 0 max greedy a) p p []
  /-- A round that is required or allowed, and the rounds left. -/
  | round {min : Nat} {max : Option Nat} {greedy : Bool} {a : Expr} {p q r : Position}
    {first then_ : List Span} :
    min ≠ 0 ∨ max ≠ some 0 → Leads a p q first →
      Leads (.repetition (min - 1) (max.map (· - 1)) greedy a) q r then_ →
      Leads (.repetition min max greedy a) p r (then_ ++ first)

namespace Leads

/-- A match goes onward in the text. -/
theorem exists_skip {e : Expr} {p q : Position} {spans : List Span} (h : Leads e p q spans) :
    ∃ n ≤ p.rest.length, q = p.skip n := by
  induction h with
  | empty | look | leave => exact ⟨0, Nat.zero_le _, rfl⟩
  | @chars s p c rest hp hc =>
    refine ⟨1, ?_, ?_⟩
    · rw [hp, List.length_cons]; omega
    · rw [Position.skip_succ hp, Position.skip_zero]
  | cat _ _ iha ihb | round _ _ _ iha ihb =>
    obtain ⟨m, hm, rfl⟩ := iha
    obtain ⟨n, hn, rfl⟩ := ihb
    rw [Position.rest_skip, List.length_drop] at hn
    exact ⟨m + n, by omega, Position.skip_add m n _⟩
  | left _ ih | right _ ih | group _ ih => exact ih

theorem mem_all {e : Expr} {p q : Position} {spans : List Span} {text : List Char}
    (h : Leads e p q spans) (hp : p ∈ Position.all text) : q ∈ Position.all text := by
  obtain ⟨n, hn, rfl⟩ := h.exists_skip
  exact Position.skip_mem_all hp hn

/-- Only groups of the expression are completed. -/
theorem name_mem_groups {e : Expr} {p q : Position} {spans : List Span} (h : Leads e p q spans) :
    ∀ s ∈ spans, s.1 ∈ e.groups := by
  induction h with
  | empty | look | chars | leave => intro s hs; cases hs
  | cat _ _ iha ihb =>
    intro s hs
    rw [Expr.groups, List.mem_append]
    exact (List.mem_append.mp hs).symm.imp (iha s) (ihb s)
  | left _ ih => exact fun s hs => List.mem_append_left _ (ih s hs)
  | right _ ih => exact fun s hs => List.mem_append_right _ (ih s hs)
  | group _ ih =>
    intro s hs
    rw [Expr.groups]
    rcases List.mem_cons.mp hs with rfl | hs
    · exact List.mem_cons_self
    · exact List.mem_cons_of_mem _ (ih s hs)
  | round _ _ _ iha ihb =>
    intro s hs
    rcases List.mem_append.mp hs with hs | hs
    · exact ihb s hs
    · exact iha s hs

/-- A completed group lies on the way. -/
theorem span_on_way {e : Expr} {p q : Position} {spans : List Span} (h : Leads e p q spans) :
    ∀ s ∈ spans, ∃ m n, m + n ≤ p.rest.length ∧ s.2.1 = p.skip m ∧ s.2.2 = s.2.1.skip n := by
  induction h with
  | empty | look | chars | leave => intro s hs; cases hs
  | cat ha _ iha ihb | round _ ha _ iha ihb =>
    intro s hs
    rcases List.mem_append.mp hs with hs | hs
    · obtain ⟨k, hk, rfl⟩ := ha.exists_skip
      obtain ⟨m, n, hmn, h₁, h₂⟩ := ihb s hs
      rw [Position.rest_skip, List.length_drop] at hmn
      exact ⟨k + m, n, by omega, by rw [h₁, Position.skip_add], h₂⟩
    · exact iha s hs
  | left _ ih | right _ ih => exact ih
  | group ha ih =>
    intro s hs
    rcases List.mem_cons.mp hs with rfl | hs
    · obtain ⟨n, hn, rfl⟩ := ha.exists_skip
      exact ⟨0, n, by omega, rfl, rfl⟩
    · exact ih s hs

end Leads

end TemplateMatch.Regex
