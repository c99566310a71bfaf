import Mathlib
import TemplateMatch.Proofs.Command.Exporting
import TemplateMatch.Proofs.Command.Layering

/-!
The command that compares: what it is given (`CompareArgs.Given`), and that it ends as the comparison
of that does and reports it, and fails without a report if it is not given all it needs
(`run_compare`).
-/

namespace TemplateMatch.Command

/-! ## Jobs -/

namespace Job

variable {α β : Type}

theorem after_lift_bind (x : Except CommandError α) (f : α → Job β) (written : String) :
    ((liftM x : Job α) >>= f).after written =
      match x with
      | .ok a => (f a).after written
      | .error cause => (.error cause, written) := by
  cases x <;> rfl

theorem after_write (text written : String) (a : α) :
    (write text >>= fun _ => (pure a : Job α)).after written = (.ok a, written ++ text) := rfl

/-- If the job fails, it has written nothing. -/
def QuietOnFailure (job : Job α) : Prop :=
  ∀ written cause output, job.after written = (.error cause, output) → output = written

theorem quietOnFailure_lift_bind {x : Except CommandError α} {f : α → Job β}
    (h : ∀ a, (f a).QuietOnFailure) : ((liftM x : Job α) >>= f).QuietOnFailure := by
  intro written cause output hafter
  rw [after_lift_bind] at hafter
  cases x with
  | error e => exact (congrArg Prod.snd hafter).symm
  | ok a => exact h a written cause output hafter

/-- Nothing is left to fail once the report is written. -/
theorem quietOnFailure_write (text : String) (a : α) :
    (write text >>= fun _ => (pure a : Job α)).QuietOnFailure := by
  intro written cause output hafter
  rw [after_write] at hafter
  cases hafter

theorem exists_of_lift_bind_eq_ok {x : Except CommandError α} {f : α → Job β} {b : β}
    {written output : String} (h : ((liftM x : Job α) >>= f).after written = (.ok b, output)) :
    ∃ a, x = .ok a ∧ (f a).after written = (.ok b, output) := by
  rw [after_lift_bind] at h
  cases x with
  | error e => cases h
  | ok a => exact ⟨a, rfl, h⟩

end Job

open Job in
theorem Request.quietOnFailure (s : Surroundings) (r : Request) : (r.job s).QuietOnFailure := by
  refine quietOnFailure_lift_bind fun base => ?_
  cases r with
  | compare a =>
    exact quietOnFailure_lift_bind fun config => quietOnFailure_lift_bind fun expected =>
      quietOnFailure_lift_bind fun actual => quietOnFailure_lift_bind fun symbols =>
      quietOnFailure_lift_bind fun comparison => quietOnFailure_write _ _
  | resolve a =>
    exact quietOnFailure_lift_bind fun delimiters => quietOnFailure_lift_bind fun symbols =>
      quietOnFailure_lift_bind fun text => quietOnFailure_write _ _

/-! ## Reading -/

theorem decode_eq_ok {bytes : ByteArray} {text : String} :
    decode bytes = .ok text ↔ bytes = text.toUTF8 := by
  constructor
  · intro h
    rw [decode, String.fromUTF8?] at h
    split at h
    · next hsome =>
      cases h
      split at hsome
      · cases hsome
        rfl
      · cases hsome
    · cases h
  · rintro rfl
    exact decode_toUTF8 text

theorem read_decode_eq_ok {content : Except ReadFailure ByteArray} {text : String} :
    content.bind decode = .ok text ↔ content = .ok text.toUTF8 := by
  cases content with
  | error e => exact ⟨nofun, nofun⟩
  | ok bytes => exact decode_eq_ok.trans ⟨congrArg Except.ok, Except.ok.inj⟩

theorem readDocument_eq_ok {s : Surroundings} {role path text : String} :
    readDocument s role path = .ok text ↔ s.file path = .ok text.toUTF8 :=
  mapError_eq_ok.trans read_decode_eq_ok

theorem readActual_eq_ok {s : Surroundings} {a : CompareArgs} {text : String} :
    a.readActual s = .ok text ↔ a.actual.elim s.input s.file = .ok text.toUTF8 := by
  rw [CompareArgs.readActual]
  cases a.actual with
  | some path => exact readDocument_eq_ok
  | none => exact mapError_eq_ok.trans read_decode_eq_ok

/-- The texts of scalars, one for each field. -/
theorem symbolsOf_eq_ok {fields : List (String × Json.Value)} {symbols : List (String × String)} :
    symbolsOf fields = .ok symbols ↔
      fields.map (fun f => (f.1, f.2.scalarText?)) = symbols.map fun e => (e.1, some e.2) := by
  induction fields generalizing symbols with
  | nil =>
    rw [symbolsOf, List.map_nil, eq_comm (a := []), List.map_eq_nil_iff, Except.ok.injEq, eq_comm]
  | cons field fields ih =>
    obtain ⟨name, value⟩ := field
    rw [symbolsOf, List.map_cons]
    cases value.scalarText? with
    | none =>
      constructor
      · intro h
        cases h
      · intro h
        cases symbols <;> cases h
    | some text =>
      constructor
      · intro h
        obtain ⟨rest, hrest, rfl⟩ := map_eq_ok.mp h
        rw [List.map_cons, ih.mp hrest]
      · intro h
        cases symbols with
        | nil => cases h
        | cons e symbols =>
          obtain ⟨he, hrest⟩ := List.cons.inj h
          cases he
          change (symbolsOf fields).map _ = _
          rw [ih.mpr hrest]
          rfl

/-- The file holds a JSON object of scalars, whose texts are the values of the symbols. -/
def Surroundings.HoldsSymbols (s : Surroundings) (path : String) (symbols : List (String × String)) :
    Prop :=
  ∃ content fields, s.file path = .ok content.toUTF8 ∧
    Json.Value.read content = .ok (.object fields) ∧
    fields.map (fun f => (f.1, f.2.scalarText?)) = symbols.map fun e => (e.1, some e.2)

theorem loadSymbols_eq_ok {s : Surroundings} {path : String} {table : SymbolTable} :
    loadSymbols s path = .ok table ↔
      ∃ symbols, s.HoldsSymbols path symbols ∧ .ofPairs symbols = table := by
  constructor
  · intro h
    rw [loadSymbols] at h
    split at h
    · cases h
    · next content hcontent =>
      rw [symbolsOfText] at h
      split at h
      · cases h
      · next fields hfields =>
        obtain ⟨symbols, hsymbols, rfl⟩ := map_eq_ok.mp h
        exact ⟨symbols, ⟨content, fields, readDocument_eq_ok.mp hcontent, hfields,
          symbolsOf_eq_ok.mp hsymbols⟩, rfl⟩
      · cases h
  · rintro ⟨symbols, ⟨content, fields, hcontent, hfields, hsymbols⟩, rfl⟩
    rw [loadSymbols, readDocument_eq_ok.mpr hcontent]
    simp only [symbolsOfText, hfields, symbolsOf_eq_ok.mpr hsymbols]
    rfl

/-- What a comparison is given: its configuration, both texts, and the symbols to bind. -/
structure CompareArgs.Given (s : Surroundings) (a : CompareArgs) (config : Config)
    (expected actual : String) (symbols : List (String × String)) : Prop where
  layers : a.Layers s.setting config
  expected_read : s.file a.expected = .ok expected.toUTF8
  actual_read : a.actual.elim s.input s.file = .ok actual.toUTF8
  symbols_read : a.symbols.elim (symbols = []) fun path => s.HoldsSymbols path symbols

theorem readSymbols_eq_ok {s : Surroundings} {a : CompareArgs} {table : SymbolTable} :
    a.readSymbols s = .ok table ↔
      ∃ symbols, (a.symbols.elim (symbols = []) fun path => s.HoldsSymbols path symbols) ∧
        .ofPairs symbols = table := by
  rw [CompareArgs.readSymbols]
  cases a.symbols with
  | some path => exact loadSymbols_eq_ok
  | none =>
    constructor
    · intro h
      cases h
      exact ⟨[], rfl, rfl⟩
    · rintro ⟨symbols, rfl, rfl⟩
      rfl

/-! ## The comparison -/

/-- How a command ends that carries out a comparison. -/
def Outcome.ofComparison (format : Format) : Except CompareError Comparison → Outcome
  | .ok (.passed captured) => ⟨.ok .success, render format (.passed captured)⟩
  | .ok (.failed ms) => ⟨.ok .mismatch, render format (.failed ms)⟩
  | .error e => ⟨.error (.comparison e), ""⟩

theorem bindAll_ofPairs (config : Config) (symbols : List (String × String)) :
    (Scenario.start config).bindAll (SymbolTable.ofPairs symbols).entries =
      (Scenario.start config).bindAll symbols := by
  rw [Scenario.bindAll_eq, Scenario.bindAll_eq]
  exact congrArg (Scenario.mk · config) (SymbolTable.ofPairs_entries (.ofPairs symbols))

theorem after_compareJob {s : Surroundings} {base config : Config} {a : CompareArgs}
    {expected actual : String} {symbols : SymbolTable} (hconfig : a.config base = .ok config)
    (hexpected : readDocument s "expected" a.expected = .ok expected)
    (hactual : a.readActual s = .ok actual) (hsymbols : a.readSymbols s = .ok symbols) :
    let outcome := Outcome.ofComparison a.format
      (((Scenario.start config).bindAll symbols.entries).compare a.contentType (.text expected)
        (.text actual)).1
    (compareJob s base a).after "" = (outcome.ending, outcome.output) := by
  simp only [compareJob, Job.after_lift_bind, hconfig, hexpected, hactual, hsymbols]
  cases (((Scenario.start config).bindAll symbols.entries).compare a.contentType (.text expected)
      (.text actual)).1 with
  | error e => rfl
  | ok comparison =>
    cases comparison <;> rfl

namespace CompareArgs.Given

variable {s : Surroundings} {a : CompareArgs} {config : Config} {expected actual : String}
  {symbols : List (String × String)}

theorem run_eq (h : a.Given s config expected actual symbols) :
    (Request.compare a).run s = .ofComparison a.format
      (((Scenario.start config).bindAll symbols).compare a.contentType (.text expected)
        (.text actual)).1 := by
  obtain ⟨base, hbase, hconfig⟩ := layers_iff.mpr h.layers
  have hexpected : readDocument s "expected" a.expected = .ok expected :=
    readDocument_eq_ok.mpr h.expected_read
  have hactual : a.readActual s = .ok actual := readActual_eq_ok.mpr h.actual_read
  have hsymbols : a.readSymbols s = .ok (.ofPairs symbols) :=
    readSymbols_eq_ok.mpr ⟨symbols, h.symbols_read, rfl⟩
  rw [Request.run, Request.job, Job.after_lift_bind, mapError_eq_ok.mpr hbase]
  simp only
  rw [after_compareJob hconfig hexpected hactual hsymbols, bindAll_ofPairs]

end CompareArgs.Given

/-- A comparison that ends without a failure has been given all it needs. -/
theorem exists_given {s : Surroundings} {a : CompareArgs} {verdict : Verdict}
    (h : ((Request.compare a).run s).ending = .ok verdict) :
    ∃ config expected actual symbols, a.Given s config expected actual symbols := by
  have hafter : ((Request.compare a).job s).after "" =
      (.ok verdict, ((Request.compare a).run s).output) := Prod.ext h rfl
  obtain ⟨base, hbase, hjob⟩ := Job.exists_of_lift_bind_eq_ok hafter
  obtain ⟨config, hconfig, hjob⟩ := Job.exists_of_lift_bind_eq_ok hjob
  obtain ⟨expected, hexpected, hjob⟩ := Job.exists_of_lift_bind_eq_ok hjob
  obtain ⟨actual, hactual, hjob⟩ := Job.exists_of_lift_bind_eq_ok hjob
  obtain ⟨table, htable, -⟩ := Job.exists_of_lift_bind_eq_ok hjob
  obtain ⟨symbols, hsymbols, -⟩ := readSymbols_eq_ok.mp htable
  have hlayers := layers_iff.mp ⟨base, mapError_eq_ok.mp hbase, hconfig⟩
  exact ⟨config, expected, actual, symbols, hlayers, readDocument_eq_ok.mp hexpected,
    readActual_eq_ok.mp hactual, hsymbols⟩

/-- A command that compares ends as the comparison does of the texts that it is given, under the
configuration of the layers and with the symbols bound, and its output is the report of that. If it
is not given all of these, it fails. When it fails, it has written nothing. -/
theorem Request.run_compare (s : Surroundings) (a : CompareArgs) :
    (∀ config expected actual symbols, a.Given s config expected actual symbols →
      (compare a).run s = .ofComparison a.format
        (((Scenario.start config).bindAll symbols).compare a.contentType (.text expected)
          (.text actual)).1) ∧
    ((¬∃ config expected actual symbols, a.Given s config expected actual symbols) →
      ∃ cause, ((compare a).run s).ending = .error cause) ∧
    ∀ cause, ((compare a).run s).ending = .error cause → ((compare a).run s).output = "" := by
  refine ⟨fun _ _ _ _ h => h.run_eq, fun hnot => ?_, fun cause h => ?_⟩
  · cases hending : ((compare a).run s).ending with
    | error cause => exact ⟨cause, rfl⟩
    | ok verdict => exact absurd (exists_given hending) hnot
  · exact Request.quietOnFailure s (.compare a) "" cause _ (Prod.ext h rfl)

/-- Settings in variables, a file of symbols, and a document on standard input. -/
def mixedSurroundings : Surroundings where
  setting := Bindings.ofPairs [("SCENARIO_MATCH_PLACEHOLDER_END", ">"),
    ("SCENARIO_MATCH_CASE_INSENSITIVE", "off"), ("SCENARIO_MATCH_TEMPLATE_MODE", "regex")]
  file := fun path =>
    if path = "e" then .ok "<n>:<u>".toUTF8
    else if path = "s" then .ok "\x7b\"n\":3\x7d".toUTF8
    else .error .notFound
  input := .ok "3:aB".toUTF8

def mixedArgs : CompareArgs where
  expected := "e"
  actual := none
  json := false
  strict := false
  lenient := false
  caseSensitive := false
  templateMode := some .literal
  symbols := some "s"
  format := .human
  delimiters := { start := some "<" }

/-- One delimiter of the option and one of the variable, and the mode of the option. -/
def mixedConfig : Config where
  fieldMode := .lenient
  ignoreCase := false
  delimiters := ⟨"<", ">", by decide, by decide⟩
  templateMode := .literal

theorem given_mixed :
    mixedArgs.Given mixedSurroundings mixedConfig "<n>:<u>" "3:aB" [("n", "3")] where
  layers := {
    fieldMode := ⟨none, .none, rfl⟩
    ignoreCase := ⟨some false, .some (by decide), rfl⟩
    start := ⟨none, .none, rfl⟩
    stop := ⟨some ">", .some rfl, rfl⟩
    templateMode := ⟨some .regex, .some (by decide), rfl⟩ }
  expected_read := rfl
  actual_read := rfl
  symbols_read := by
    have hread : Json.Value.read "\x7b\"n\":3\x7d" =
        .ok (.object [("n", .number (.integer 3))]) := by cbv
    exact ⟨_, _, rfl, hread, rfl⟩

/-- A command line with these arguments. -/
theorem Request.run_compare_mixed :
    Invocation.ofArgs ["compare", "--expected", "e", "--symbols", "s", "--placeholder-start", "<",
        "--template-mode", "literal"] = .ok ⟨none, .compare mixedArgs⟩ ∧
      mixedArgs.Given mixedSurroundings mixedConfig "<n>:<u>" "3:aB" [("n", "3")] ∧
      (compare mixedArgs).run mixedSurroundings =
        ⟨.ok .success, render .human (.passed (.ofPairs [("u", "aB")]))⟩ := by
  refine ⟨by decide, given_mixed, ?_⟩
  have hcompare : (((Scenario.start mixedConfig).bindAll [("n", "3")]).compare
      mixedArgs.contentType (.text "<n>:<u>") (.text "3:aB")).1 =
      .ok (.passed (.ofPairs [("u", "aB")])) := by cbv
  rw [(Request.run_compare mixedSurroundings mixedArgs).1 _ _ _ _ given_mixed, hcompare]
  rfl

end TemplateMatch.Command
