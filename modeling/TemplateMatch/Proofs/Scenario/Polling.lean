import TemplateMatch.Proofs.Scenario.Symbols
import TemplateMatch.Proofs.Walk.Errors

/-!
Polling is one comparison, made with the value of the first attempt that decides (`poll_eq_some`).
An attempt that does not decide leaves the scenario as it was (`attempt_of_not_decides`), so the one
that does starts from the scenario that the poll was given.
-/

namespace TemplateMatch

/-- An outcome that a comparison with another actual value cannot better: the documents match, or
the expected one is at fault. -/
inductive Conclusive : Except CompareError Comparison → Prop
  | passed {captured : SymbolTable} : Conclusive (.ok (.passed captured))
  | pattern {path : Pointer} {cause : PatternError} : Conclusive (.error (.pattern path cause))
  | malformed {cause : Json.ReadError} : Conclusive (.error (.malformed .expected cause))

namespace Scenario

variable (s : Scenario) (type : ContentType) (expected : Document) (policy : PollPolicy)

/-- An attempt that ends a poll: it has a value that settles the comparison, or time is up. -/
def Decides (a : Attempt) : Prop :=
  policy.timeout ≤ a.elapsed ∨
    ∃ actual, a.supplied = .ok actual ∧ Conclusive (s.compare type expected (.text actual)).1

/-- The answer of one attempt by itself, with its number, and the scenario that it leaves. -/
def Answers (number : Nat) (a : Attempt) (o : PollOutcome) : Prop :=
  match a.supplied with
  | .error cause => o.result = .error (.supplier number cause) ∧ o.scenario = s
  | .ok actual =>
    o.result = (s.compare type expected (.text actual)).1.mapError .compare ∧
      o.scenario = (s.compare type expected (.text actual)).2

variable {s type expected policy}

/-- A comparison that has not passed and is not given up is tried again. -/
theorem isFinal_iff_conclusive {outcome : Except CompareError Comparison}
    (h : ∀ report, outcome ≠ .error (.mismatch report)) :
    isFinal (outcome.mapError .compare) = true ↔ Conclusive outcome := by
  cases outcome with
  | ok comparison =>
    cases comparison with
    | passed captured => exact ⟨fun _ => .passed, fun _ => rfl⟩
    | failed report => exact ⟨nofun, nofun⟩
  | error err =>
    cases err with
    | pattern path cause => exact ⟨fun _ => .pattern, fun _ => rfl⟩
    | mismatch report => exact absurd rfl (h report)
    | malformed side cause =>
      cases side with
      | expected => exact ⟨fun _ => .malformed, fun _ => rfl⟩
      | actual => exact ⟨nofun, nofun⟩

/-- A comparison reports differences as its outcome, never as an error. -/
theorem compare_ne_mismatch (s : Scenario) (type : ContentType) (expected actual : Document)
    (report : List Mismatch) : (s.compare type expected actual).1 ≠ .error (.mismatch report) := by
  intro h
  rcases Comparison.error_of_ofDocuments h with ⟨side, cause, heq⟩ | ⟨path, cause, heq⟩
  · cases heq
  · cases heq

/-- The test that stops the loop, as the property of the attempt. -/
theorem stops_iff_decides (s : Scenario) (type : ContentType) (expected : Document)
    (policy : PollPolicy) (number : Nat) (a : Attempt) :
    (isFinal (s.attempt type expected number a.supplied).1 || policy.timeout ≤ a.elapsed) = true ↔
      s.Decides type expected policy a := by
  unfold Decides
  rw [Bool.or_eq_true, decide_eq_true_iff, or_comm]
  refine or_congr_right ?_
  cases hsupplied : a.supplied with
  | error cause =>
    constructor
    · intro hfinal
      cases hfinal
    · rintro ⟨actual, heq, _⟩
      cases heq
  | ok actual =>
    have hfinal := isFinal_iff_conclusive (s.compare_ne_mismatch type expected (.text actual))
    constructor
    · intro h
      exact ⟨actual, rfl, hfinal.mp h⟩
    · rintro ⟨_, heq, hconclusive⟩
      cases heq
      exact hfinal.mpr hconclusive

theorem answers_attempt (s : Scenario) (type : ContentType) (expected : Document) (number : Nat)
    (a : Attempt) (o : PollOutcome) :
    s.Answers type expected number a o ↔
      (o.result, o.scenario) = s.attempt type expected number a.supplied := by
  unfold Answers
  cases a.supplied with
  | error cause => exact Prod.mk.injEq .. ▸ Iff.rfl
  | ok actual => exact Prod.mk.injEq .. ▸ Iff.rfl

/-- An attempt that does not decide leaves no trace. -/
theorem attempt_of_not_decides {number : Nat} {a : Attempt}
    (h : ¬s.Decides type expected policy a) :
    (s.attempt type expected number a.supplied).2 = s := by
  have hfinal : isFinal (s.attempt type expected number a.supplied).1 = false := by
    rw [← stops_iff_decides s type expected policy number, Bool.or_eq_true, not_or] at h
    exact Bool.eq_false_iff.mpr h.1
  have hleaves := s.leaves_attempt type expected number a.supplied
  rw [passed?_of_not_final hfinal] at hleaves
  exact hleaves

theorem pollFrom_of_decides {number : Nat} {a : Attempt} (rest : List Attempt)
    (h : s.Decides type expected policy a) :
    s.pollFrom type expected policy number (a :: rest) =
      some ⟨(s.attempt type expected number a.supplied).1, number,
        (s.attempt type expected number a.supplied).2⟩ := by
  rw [pollFrom]
  simp only
  rw [if_pos ((stops_iff_decides s type expected policy number a).mpr h)]

/-- The loop goes on from where it was. -/
theorem pollFrom_of_not_decides {number : Nat} {a : Attempt} (rest : List Attempt)
    (h : ¬s.Decides type expected policy a) :
    s.pollFrom type expected policy number (a :: rest) =
      s.pollFrom type expected policy (number + 1) rest := by
  rw [pollFrom]
  simp only
  rw [if_neg fun hstop => h ((stops_iff_decides s type expected policy number a).mp hstop),
    attempt_of_not_decides h]

/-- Attempts that do not decide are only counted. -/
theorem pollFrom_append {before : List Attempt}
    (h : ∀ b ∈ before, ¬s.Decides type expected policy b) (number : Nat) (rest : List Attempt) :
    s.pollFrom type expected policy number (before ++ rest) =
      s.pollFrom type expected policy (number + before.length) rest := by
  induction before generalizing number with
  | nil => rfl
  | cons b before ih =>
    rw [List.forall_mem_cons] at h
    rw [List.cons_append, pollFrom_of_not_decides _ h.1, ih h.2, List.length_cons]
    congr 1
    omega

/-- Either no attempt decides, or one is the first to do so. -/
theorem first_decides (s : Scenario) (type : ContentType) (expected : Document)
    (policy : PollPolicy) (attempts : List Attempt) :
    (∀ a ∈ attempts, ¬s.Decides type expected policy a) ∨
      ∃ before a after, attempts = before ++ a :: after ∧
        (∀ b ∈ before, ¬s.Decides type expected policy b) ∧ s.Decides type expected policy a := by
  induction attempts with
  | nil => exact .inl nofun
  | cons a rest ih =>
    by_cases h : s.Decides type expected policy a
    · exact .inr ⟨[], a, rest, rfl, nofun, h⟩
    · rcases ih with hnone | ⟨before, b, after, rfl, hbefore, hb⟩
      · exact .inl (List.forall_mem_cons.mpr ⟨h, hnone⟩)
      · exact .inr ⟨a :: before, b, after, rfl, List.forall_mem_cons.mpr ⟨h, hbefore⟩, hb⟩

/-- A poll ends with the first attempt that decides: as many attempts are made as there are up to
this one, whatever would come later, and the answer and the scenario are those of this attempt by
itself, on the scenario as it was at the start. Without such an attempt it does not end. -/
theorem poll_eq_some (s : Scenario) (type : ContentType) (expected : Document)
    (policy : PollPolicy) (attempts : List Attempt) (o : PollOutcome) :
    s.poll type expected policy attempts = some o ↔
      ∃ before a after, attempts = before ++ a :: after ∧
        (∀ b ∈ before, ¬s.Decides type expected policy b) ∧ s.Decides type expected policy a ∧
        o.attempts = before.length + 1 ∧
        s.Answers type expected (before.length + 1) a o := by
  -- The run up to the first attempt that decides, if there is one.
  have hrun (before after : List Attempt) (a : Attempt)
      (hbefore : ∀ b ∈ before, ¬s.Decides type expected policy b)
      (ha : s.Decides type expected policy a) :
      s.poll type expected policy (before ++ a :: after) =
        some ⟨(s.attempt type expected (before.length + 1) a.supplied).1, before.length + 1,
          (s.attempt type expected (before.length + 1) a.supplied).2⟩ := by
    rw [poll, pollFrom_append hbefore, pollFrom_of_decides after ha, Nat.add_comm 1]
  constructor
  · intro h
    rcases s.first_decides type expected policy attempts with
      hnone | ⟨before, a, after, rfl, hbefore, ha⟩
    · rw [poll, ← List.append_nil attempts, pollFrom_append hnone] at h
      cases h
    · rw [hrun before after a hbefore ha] at h
      cases h
      exact ⟨before, a, after, rfl, hbefore, ha, rfl, (answers_attempt ..).mpr rfl⟩
  · rintro ⟨before, a, after, rfl, hbefore, ha, hcount, hanswer⟩
    rw [hrun before after a hbefore ha]
    obtain ⟨result, count, left⟩ := o
    cases hcount
    have hpair := (answers_attempt ..).mp hanswer
    rw [← hpair]

/-- A failing supplier, a malformed value and a value that differs are passed over. -/
example : ((start ⟨.lenient, false, .standard, .literal⟩).poll .json (.text "\"~[x]-1\"") {}
    [⟨.error "no", 0⟩, ⟨.ok "[", 1⟩, ⟨.ok "\"a-2\"", 2⟩, ⟨.ok "\"a-1\"", 3⟩,
      ⟨.ok "\"b-1\"", 4⟩]).map (fun o => (o.attempts, o.scenario.symbols.entries)) =
    some (4, [("x", "a")]) := by cbv

end Scenario

end TemplateMatch
