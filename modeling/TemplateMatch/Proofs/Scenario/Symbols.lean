import Mathlib
import TemplateMatch.Poll
import TemplateMatch.Proofs.Walk.Nodes

/-!
The symbols of a scenario over its steps. A step that compares adds what it captured if it passed,
all of it new, and otherwise leaves the scenario as it was; so between resets only `bind` gives a
bound symbol another value (`symbols_append_only`).
-/

namespace TemplateMatch

/-- A passing comparison captures only symbols that the table does not have. -/
theorem captured_unbound {c : Config} {symbols captured : SymbolTable} {type : ContentType}
    {expected actual : Document}
    (h : Comparison.ofDocuments c symbols type expected actual = .ok (.passed captured)) :
    ∀ e ∈ captured.entries, symbols.get? e.1 = none := by
  have hwalk : ∃ run : List Mismatch × Scope, (Scope.ofTable symbols).Extends run.2 ∧
      Walk.finish run = .passed captured := by
    cases type with
    | json =>
      obtain ⟨e, a, run, _, _, hrun, hfinish⟩ := exists_walk_of_ofJson h
      exact ⟨run, Walk.extends_of_compareNode hrun, hfinish⟩
    | text =>
      rw [Comparison.ofDocuments, Comparison.ofText] at h
      cases hrun : Walk.compareText c .root (.ofTable symbols) expected.wholeText
          actual.wholeText with
      | error err => rw [hrun] at h; cases h
      | ok run =>
        rw [hrun] at h
        exact ⟨run, (Walk.textRun_of_compareText hrun).grows, Except.ok.inj h⟩
  -- What was captured is what the scope at the end has beyond the table.
  obtain ⟨⟨ms, out⟩, hgrown, hfinish⟩ := hwalk
  cases ms with
  | nil =>
    cases hfinish
    exact hgrown.not_bound
  | cons m ms => cases hfinish

namespace Scenario

/-- What a comparison that ended like this leaves of a scenario: if it passed, what it captured is
new and stands behind the other symbols, and if it did not, nothing has changed. -/
def Leaves (s : Scenario) : Option SymbolTable → Scenario → Prop
  | some captured, after =>
    after.symbols.entries = s.symbols.entries ++ captured.entries ∧
      (captured.entries.map Prod.fst).Nodup ∧
      (∀ e ∈ captured.entries, s.symbols.get? e.1 = none) ∧ after.config = s.config
  | none, after => after = s

/-- What was captured, if a comparison passed. -/
def passed? {ε : Type} : Except ε Comparison → Option SymbolTable
  | .ok (.passed captured) => some captured
  | _ => none

theorem passed?_mapError {ε ε' : Type} (f : ε → ε') (outcome : Except ε Comparison) :
    passed? (outcome.mapError f) = passed? outcome := by
  cases outcome with
  | error e => rfl
  | ok c => cases c <;> rfl

theorem leaves_compare (s : Scenario) (type : ContentType) (expected actual : Document) :
    s.Leaves (passed? (s.compare type expected actual).1)
      (s.compare type expected actual).2 := by
  change s.Leaves (passed? (s.judge type expected actual))
    (s.commit (s.judge type expected actual))
  cases houtcome : s.judge type expected actual with
  | error e => rfl
  | ok outcome =>
    cases outcome with
    | failed ms => rfl
    | passed captured =>
      have hunbound := captured_unbound houtcome
      refine ⟨?_, captured.nodup, hunbound, rfl⟩
      -- Inserting unbound names one by one appends them.
      change (s.symbols.insertAll captured.entries).entries = _
      rw [SymbolTable.entries_insertAll, foldl_assign_append, lastWriteWins_of_nodup captured.nodup]
      exact fun e he => SymbolTable.get?_eq_none.mp (hunbound e he)

theorem leaves_expect (s : Scenario) (type : ContentType) (expected actual : Document) :
    s.Leaves (s.expect type expected actual).1.toOption
      (s.expect type expected actual).2 := by
  have hcompare := s.leaves_compare type expected actual
  unfold expect
  split
  · next heq => rwa [heq] at hcompare
  · next heq => rwa [heq] at hcompare
  · next heq => rwa [heq] at hcompare

theorem leaves_attempt (s : Scenario) (type : ContentType) (expected : Document) (number : Nat)
    (supplied : Except String String) :
    s.Leaves (passed? (s.attempt type expected number supplied).1)
      (s.attempt type expected number supplied).2 := by
  cases supplied with
  | error cause => rfl
  | ok actual =>
    change s.Leaves
      (passed? ((s.compare type expected (.text actual)).1.mapError PollError.compare))
      (s.compare type expected (.text actual)).2
    rw [passed?_mapError]
    exact s.leaves_compare type expected (.text actual)

theorem passed?_of_not_final {outcome : Except PollError Comparison}
    (h : isFinal outcome = false) : passed? outcome = none := by
  cases outcome with
  | error e => rfl
  | ok c =>
    cases c with
    | passed captured => cases h
    | failed ms => rfl

/-- The attempts before the last leave the scenario as it was. -/
theorem leaves_pollFrom {s : Scenario} {type : ContentType} {expected : Document}
    {policy : PollPolicy} {number : Nat} {attempts : List Attempt} {o : PollOutcome}
    (h : s.pollFrom type expected policy number attempts = some o) :
    s.Leaves (passed? o.result) o.scenario := by
  induction attempts generalizing number with
  | nil => cases h
  | cons a rest ih =>
    have hattempt := s.leaves_attempt type expected number a.supplied
    rw [pollFrom] at h
    generalize s.attempt type expected number a.supplied = run at h hattempt
    obtain ⟨outcome, after⟩ := run
    simp only at h
    split at h
    · cases h
      exact hattempt
    · next hgo =>
      -- The poll goes on, so this attempt did not pass and the next one starts where it did.
      have hfinal : isFinal outcome = false := by
        rw [Bool.or_eq_true, not_or] at hgo
        exact Bool.eq_false_iff.mpr hgo.1
      rw [passed?_of_not_final hfinal] at hattempt
      have hsame : after = s := hattempt
      rw [hsame] at h
      exact ih h

/-! ## Steps -/

/-- A step that compares. -/
inductive Trial
  | compare (type : ContentType) (expected actual : Document)
  | expect (type : ContentType) (expected actual : Document)
  | poll (type : ContentType) (expected : Document) (policy : PollPolicy)
    (attempts : List Attempt)

/-- What a trial captured if it passed, and the scenario after it; nothing if the attempts of a poll
run out. -/
def Trial.run? (s : Scenario) : Trial → Option (Option SymbolTable × Scenario)
  | .compare type expected actual =>
    let (outcome, after) := s.compare type expected actual
    some (passed? outcome, after)
  | .expect type expected actual =>
    let (outcome, after) := s.expect type expected actual
    some (outcome.toOption, after)
  | .poll type expected policy attempts =>
    (s.poll type expected policy attempts).map fun o => (passed? o.result, o.scenario)

inductive Step
  | trial (t : Trial)
  | resolve (substitution : Substitution) (template : String)
  | bind (name value : String)
  | reset

/-- One step after the other. -/
inductive Run : Scenario → List Step → Scenario → Prop
  | nil {s : Scenario} : Run s [] s
  | trial {s after last : Scenario} {t : Trial} {captured : Option SymbolTable}
    {steps : List Step} :
    t.run? s = some (captured, after) → Run after steps last → Run s (.trial t :: steps) last
  /-- The scenario is only read. -/
  | resolve {s last : Scenario} {substitution : Substitution} {template : String}
    {result : Except PatternError String} {steps : List Step} :
    s.resolve substitution template = result → Run s steps last →
      Run s (.resolve substitution template :: steps) last
  | bind {s last : Scenario} {name value : String} {steps : List Step} :
    Run (s.bind name value) steps last → Run s (.bind name value :: steps) last
  | reset {s last : Scenario} {steps : List Step} :
    Run s.reset steps last → Run s (.reset :: steps) last

theorem Trial.leaves_run? {s after : Scenario} {t : Trial} {captured : Option SymbolTable}
    (h : t.run? s = some (captured, after)) : s.Leaves captured after := by
  cases t with
  | compare type expected actual =>
    cases h
    exact s.leaves_compare type expected actual
  | expect type expected actual =>
    cases h
    exact s.leaves_expect type expected actual
  | poll type expected policy attempts =>
    obtain ⟨o, ho, heq⟩ := Option.map_eq_some_iff.mp h
    cases heq
    exact leaves_pollFrom ho

theorem Leaves.get?_eq {s after : Scenario} {captured : Option SymbolTable}
    (h : s.Leaves captured after) {name value : String} (hname : s.symbols.get? name = some value) :
    after.symbols.get? name = some value := by
  cases captured with
  | none =>
    have hsame : after = s := h
    rwa [hsame]
  | some captured =>
    obtain ⟨hentries, _⟩ := h
    rw [SymbolTable.get?_eq_lookup] at hname ⊢
    rw [hentries, List.lookup_append]
    exact Option.or_eq_some_iff.mpr (.inl hname)

theorem Leaves.names_grow {s after : Scenario} {captured : Option SymbolTable}
    (h : s.Leaves captured after) : s.symbols.names <+: after.symbols.names := by
  cases captured with
  | none =>
    have hsame : after = s := h
    subst hsame
    exact List.prefix_rfl
  | some captured =>
    obtain ⟨hentries, _⟩ := h
    rw [SymbolTable.names, SymbolTable.names, hentries, List.map_append]
    exact List.prefix_append _ _

/-- Names keep their places until a reset. -/
theorem Run.names_grow {s last : Scenario} {steps : List Step} (h : Run s steps last)
    (hreset : .reset ∉ steps) : s.symbols.names <+: last.symbols.names := by
  induction h with
  | nil => exact List.prefix_rfl
  | trial ht _ ih =>
    rw [List.mem_cons, not_or] at hreset
    exact (Trial.leaves_run? ht).names_grow.trans (ih hreset.2)
  | resolve _ _ ih =>
    rw [List.mem_cons, not_or] at hreset
    exact ih hreset.2
  | bind _ ih =>
    rw [List.mem_cons, not_or] at hreset
    refine List.IsPrefix.trans ?_ (ih hreset.2)
    rw [Scenario.bind, SymbolTable.names, SymbolTable.names, SymbolTable.entries_insert]
    exact map_fst_assign_grow _ _ _
  | reset => exact absurd List.mem_cons_self hreset

/-- The value of a bound symbol stays until a reset or until it is bound again. -/
theorem Run.get?_eq {s last : Scenario} {steps : List Step} (h : Run s steps last)
    {name value : String} (hname : s.symbols.get? name = some value)
    (hreset : .reset ∉ steps) (hbind : ∀ other, .bind name other ∉ steps) :
    last.symbols.get? name = some value := by
  induction h with
  | nil => exact hname
  | trial ht _ ih =>
    rw [List.mem_cons, not_or] at hreset
    exact ih ((Trial.leaves_run? ht).get?_eq hname) hreset.2
      fun other hmem => hbind other (List.mem_cons_of_mem _ hmem)
  | resolve _ _ ih =>
    rw [List.mem_cons, not_or] at hreset
    exact ih hname hreset.2 fun other hmem => hbind other (List.mem_cons_of_mem _ hmem)
  | @bind s _ bound other _ _ ih =>
    rw [List.mem_cons, not_or] at hreset
    -- The step binds another name.
    have hne : name ≠ bound := fun heq => hbind other (heq ▸ List.mem_cons_self)
    have hkept : (s.bind bound other).symbols.get? name = some value := by
      rw [Scenario.bind, SymbolTable.get?_insert, if_neg hne]
      exact hname
    exact ih hkept hreset.2 fun other hmem => hbind other (List.mem_cons_of_mem _ hmem)
  | reset => exact absurd List.mem_cons_self hreset

/-- However a scenario was reached, a trial adds to it what it captured, all of it new, or changes
nothing. Over further steps without a reset the names keep their places, and a bound symbol its
value unless it is bound again. -/
theorem symbols_append_only (s : Scenario) :
    (∀ t captured after, Trial.run? s t = some (captured, after) → s.Leaves captured after) ∧
      ∀ steps last, Run s steps last → .reset ∉ steps →
        s.symbols.names <+: last.symbols.names ∧
          ∀ name value, s.symbols.get? name = some value →
            (∀ other, .bind name other ∉ steps) → last.symbols.get? name = some value := by
  refine ⟨fun t captured after => Trial.leaves_run?, fun steps last hrun hreset => ?_⟩
  exact ⟨hrun.names_grow hreset, fun name value hname => hrun.get?_eq hname hreset⟩

theorem symbols_append_only_user :
    ∃ captured after, Trial.run? (start ⟨.lenient, false, .standard, .literal⟩)
        (.compare .text (.text "user-~[name]") (.text "user-bob")) = some (some captured, after) ∧
      captured.entries = [("name", "bob")] ∧ after.symbols.entries = [("name", "bob")] ∧
      ∀ last, Run after [.bind "id" "7"] last → last.symbols.get? "name" = some "bob" := by
  have hrun : ∃ after, Trial.run? (start ⟨.lenient, false, .standard, .literal⟩)
      (.compare .text (.text "user-~[name]") (.text "user-bob")) =
        some (some ⟨[("name", "bob")], by decide⟩, after) := ⟨_, by cbv⟩
  obtain ⟨after, hrun⟩ := hrun
  obtain ⟨hentries, _⟩ := (symbols_append_only _).1 _ _ _ hrun
  refine ⟨_, after, hrun, rfl, hentries, fun last hlast => ?_⟩
  refine ((symbols_append_only after).2 _ last hlast (by simp)).2 "name" "bob" ?_ (by simp)
  rw [SymbolTable.get?_eq_lookup, hentries]
  rfl

end Scenario

end TemplateMatch
