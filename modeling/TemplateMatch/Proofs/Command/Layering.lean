import TemplateMatch.Command.Run
import TemplateMatch.Proofs.Json.Parts
import TemplateMatch.Proofs.Results

/-!
Where the settings of a comparison come from. An option counts before a variable and a variable
before the default, but a variable that is set has to be valid even then (`Layered`). The two
delimiters are settings of their own, although they are taken in pairs, once from the variables and
once from the options (`layers_iff`).
-/

namespace TemplateMatch

/-! ## Delimiters -/

theorem Delimiters.ofTexts_eq_ok {start stop : String} {d : Delimiters} :
    ofTexts start stop = .ok d ↔ d.start = start ∧ d.stop = stop := by
  constructor
  · intro h
    rw [ofTexts] at h
    split at h
    · cases h
    · split at h
      · cases h
      · cases h
        exact ⟨rfl, rfl⟩
  · rintro ⟨rfl, rfl⟩
    exact ofTexts_self d

namespace Config

/-- Whether a pair is given or not, each delimiter is the given one or that of the base. -/
theorem pairOver_eq_ok {base d : Delimiters} {start stop : Option String} :
    (∃ pair, pairOver base start stop = .ok pair ∧ pair.getD base = d) ↔
      d.start = start.getD base.start ∧ d.stop = stop.getD base.stop := by
  rw [pairOver]
  split
  · next hnone =>
    obtain ⟨rfl, rfl⟩ : start = none ∧ stop = none := by simpa using hnone
    constructor
    · rintro ⟨pair, hpair, rfl⟩
      cases hpair
      exact ⟨rfl, rfl⟩
    · rintro ⟨hstart, hstop⟩
      exact ⟨none, rfl, Except.ok.inj ((Delimiters.ofTexts_self base).symm.trans
        (Delimiters.ofTexts_eq_ok.mpr ⟨hstart, hstop⟩))⟩
  · rw [← Delimiters.ofTexts_eq_ok]
    cases Delimiters.ofTexts (start.getD base.start) (stop.getD base.stop) with
    | error e =>
      constructor
      · rintro ⟨pair, hpair, -⟩
        cases hpair
      · intro hd
        cases hd
    | ok given =>
      constructor
      · rintro ⟨pair, hpair, rfl⟩
        cases hpair
        rfl
      · intro hd
        cases hd
        exact ⟨some d, rfl, rfl⟩

end Config

namespace Command

/-! ## Options -/

theorem getD_orElse {α : Type} (option set : Option α) (default : α) :
    (option <|> set).getD default = option.getD (set.getD default) := by
  cases option <;> rfl

theorem getD_ne_empty {text : Option String} {default : String} (htext : text ≠ some "")
    (hdefault : default ≠ "") : text.getD default ≠ "" := by
  cases text with
  | none => exact hdefault
  | some text => exact fun h => htext (congrArg some h)

/-! ## Layers -/

/-- What a variable sets: the value of its text, which has to have one, or nothing if there is no
text. -/
def Gives {α : Type} (read : String → Option α) (text : Option String) (set : Option α) : Prop :=
  Option.Rel (fun text value => read text = some value) text set

/-- The value of a setting: that of the option if it is given, else that of the variable if it is
set, else the default. The text of the variable has to be valid in any case. -/
def Layered {α : Type} (option : Option α) (read : String → Option α) (text : Option String)
    (default value : α) : Prop :=
  ∃ set, Gives read text set ∧ value = (option <|> set).getD default

/-- A delimiter as a variable gives it. -/
def delimiter? (text : String) : Option String := if text = "" then none else some text

/-- The configuration of all layers. There is none if a delimiter would be empty, since that is ruled
out in every configuration. -/
structure CompareArgs.Layers (a : CompareArgs) (lookup : String → Option String) (c : Config) :
    Prop where
  fieldMode : Layered
    (if a.strict then some .strict else if a.lenient then some .lenient else none)
    (fun text => (FieldMode.ofLabel text).toOption) (lookup "SCENARIO_MATCH_FIELD_MODE")
    .lenient c.fieldMode
  ignoreCase : Layered (if a.caseSensitive then some false else none)
    Config.boolean? (lookup "SCENARIO_MATCH_CASE_INSENSITIVE") true c.ignoreCase
  start : Layered a.delimiters.start
    delimiter? (lookup "SCENARIO_MATCH_PLACEHOLDER_START") "~[" c.delimiters.start
  stop : Layered a.delimiters.stop
    delimiter? (lookup "SCENARIO_MATCH_PLACEHOLDER_END") "]" c.delimiters.stop
  templateMode : Layered a.templateMode
    (fun text => (TemplateMode.ofLabel text).toOption) (lookup "SCENARIO_MATCH_TEMPLATE_MODE")
    .auto c.templateMode

theorem gives_delimiter? {text set : Option String} :
    Gives delimiter? text set ↔ set = text ∧ text ≠ some "" := by
  constructor
  · rintro (h | _)
    · rw [delimiter?] at h
      split at h
      · cases h
      · next hne =>
        cases h
        exact ⟨rfl, fun h => hne (Option.some.inj h)⟩
    · exact ⟨rfl, nofun⟩
  · rintro ⟨rfl, hne⟩
    cases set with
    | none => exact .none
    | some text => exact .some (if_neg fun h => hne (congrArg some h))

theorem layered_delimiter? {option text : Option String} {default value : String} :
    Layered option delimiter? text default value ↔
      value = option.getD (text.getD default) ∧ text ≠ some "" := by
  constructor
  · rintro ⟨set, hset, rfl⟩
    obtain ⟨rfl, hne⟩ := gives_delimiter?.mp hset
    exact ⟨getD_orElse .., hne⟩
  · rintro ⟨rfl, hne⟩
    exact ⟨text, gives_delimiter?.mpr ⟨rfl, hne⟩, (getD_orElse ..).symm⟩

/-! ## Variables -/

theorem toOption_readBoolean (setting text : String) :
    (Config.readBoolean setting text).toOption = Config.boolean? text := by
  rw [Config.readBoolean]
  cases Config.boolean? text <;> rfl

theorem readVariable_eq_ok {α : Type} {lookup : String → Option String} {setting : String}
    {read : String → Except ConfigError α} {set : Option α} :
    Config.readVariable lookup setting read = .ok set ↔
      Gives (fun text => (read text).toOption) (lookup (Config.varName setting)) set := by
  rw [Config.readVariable]
  cases lookup (Config.varName setting) with
  | none =>
    constructor
    · intro h
      cases h
      exact .none
    · intro h
      cases h
      rfl
  | some text =>
    constructor
    · intro h
      obtain ⟨value, hvalue, rfl⟩ := map_eq_ok.mp h
      exact .some (toOption_eq_some.mpr hvalue)
    · intro h
      cases h with
      | some hvalue =>
        change (read text).map some = _
        rw [toOption_eq_some.mp hvalue]
        rfl

theorem variableOverrides_eq_ok {lookup : String → Option String} {o : Overrides} :
    Config.variableOverrides lookup = .ok o ↔
      Gives (fun text => (FieldMode.ofLabel text).toOption) (lookup "SCENARIO_MATCH_FIELD_MODE")
        o.fieldMode ∧
      Gives Config.boolean? (lookup "SCENARIO_MATCH_CASE_INSENSITIVE") o.ignoreCase ∧
      Config.pairOver .standard (lookup "SCENARIO_MATCH_PLACEHOLDER_START")
        (lookup "SCENARIO_MATCH_PLACEHOLDER_END") = .ok o.delimiters ∧
      Gives (fun text => (TemplateMode.ofLabel text).toOption)
        (lookup "SCENARIO_MATCH_TEMPLATE_MODE") o.templateMode := by
  have hnames : Config.varName "FIELD_MODE" = "SCENARIO_MATCH_FIELD_MODE" ∧
      Config.varName "CASE_INSENSITIVE" = "SCENARIO_MATCH_CASE_INSENSITIVE" ∧
      Config.varName "PLACEHOLDER_START" = "SCENARIO_MATCH_PLACEHOLDER_START" ∧
      Config.varName "PLACEHOLDER_END" = "SCENARIO_MATCH_PLACEHOLDER_END" ∧
      Config.varName "TEMPLATE_MODE" = "SCENARIO_MATCH_TEMPLATE_MODE" := by decide
  obtain ⟨hfield, hcase, hstart, hstop, hmode⟩ := hnames
  simp only [Config.variableOverrides, bind_eq_ok, readVariable_eq_ok, mapError_eq_ok,
    toOption_readBoolean, toOption_mapError, hfield, hcase, hstart, hstop, hmode]
  constructor
  · rintro ⟨fieldMode, hfieldMode, ignoreCase, hignoreCase, delimiters, hdelimiters, templateMode,
      htemplateMode, ho⟩
    cases ho
    exact ⟨hfieldMode, hignoreCase, hdelimiters, htemplateMode⟩
  · rintro ⟨hfieldMode, hignoreCase, hdelimiters, htemplateMode⟩
    exact ⟨_, hfieldMode, _, hignoreCase, _, hdelimiters, _, htemplateMode, rfl⟩

/-! ## Configurations -/

theorem layers_of_config {lookup : String → Option String} {a : CompareArgs} {base c : Config}
    (hbase : Config.ofVariables lookup = .ok base) (hc : a.config base = .ok c) :
    a.Layers lookup c := by
  obtain ⟨o, ho, rfl⟩ := map_eq_ok.mp hbase
  obtain ⟨hfieldMode, hignoreCase, hvariables, htemplateMode⟩ := variableOverrides_eq_ok.mp ho
  obtain ⟨pair, hpair, rfl⟩ := map_eq_ok.mp hc
  -- The pair of the options is laid over that of the variables.
  obtain ⟨hstart, hstop⟩ := Config.pairOver_eq_ok.mp ⟨_, hvariables, rfl⟩
  obtain ⟨hstart', hstop'⟩ := Config.pairOver_eq_ok.mp ⟨_, mapError_eq_ok.mp hpair, rfl⟩
  have hbelow : (({} : Config).override o).delimiters = o.delimiters.getD .standard := rfl
  rw [hbelow] at hstart' hstop'
  refine ⟨⟨_, hfieldMode, (getD_orElse ..).symm⟩, ⟨_, hignoreCase, (getD_orElse ..).symm⟩, ?_, ?_,
    ⟨_, htemplateMode, (getD_orElse ..).symm⟩⟩
  · refine layered_delimiter?.mpr ⟨hstart'.trans (by rw [hstart]; rfl), fun h => ?_⟩
    exact (o.delimiters.getD .standard).start_ne (by rw [hstart, h]; rfl)
  · refine layered_delimiter?.mpr ⟨hstop'.trans (by rw [hstop]; rfl), fun h => ?_⟩
    exact (o.delimiters.getD .standard).stop_ne (by rw [hstop, h]; rfl)

theorem CompareArgs.Layers.exists_config {lookup : String → Option String} {a : CompareArgs}
    {c : Config} (h : a.Layers lookup c) :
    ∃ base, Config.ofVariables lookup = .ok base ∧ a.config base = .ok c := by
  obtain ⟨⟨fieldMode, hfieldMode, hfieldMode'⟩, ⟨ignoreCase, hignoreCase, hignoreCase'⟩, hstart,
    hstop, ⟨templateMode, htemplateMode, htemplateMode'⟩⟩ := h
  rw [layered_delimiter?] at hstart hstop
  -- The pair of the variables, with the defaults.
  let below : Delimiters :=
    ⟨(lookup "SCENARIO_MATCH_PLACEHOLDER_START").getD "~[",
      (lookup "SCENARIO_MATCH_PLACEHOLDER_END").getD "]",
      getD_ne_empty hstart.2 (by decide), getD_ne_empty hstop.2 (by decide)⟩
  obtain ⟨pair, hpair, hbelow⟩ := (@Config.pairOver_eq_ok .standard below _ _).mpr ⟨rfl, rfl⟩
  obtain ⟨pair', hpair', habove⟩ :=
    (@Config.pairOver_eq_ok below c.delimiters _ _).mpr ⟨hstart.1, hstop.1⟩
  have hvariables : Config.variableOverrides lookup =
      .ok ⟨fieldMode, ignoreCase, pair, templateMode⟩ :=
    variableOverrides_eq_ok.mpr ⟨hfieldMode, hignoreCase, hpair, htemplateMode⟩
  refine ⟨({} : Config).override ⟨fieldMode, ignoreCase, pair, templateMode⟩, ?_, ?_⟩
  · rw [Config.ofVariables, hvariables]
    rfl
  · have hdelimiters : (({} : Config).override
        ⟨fieldMode, ignoreCase, pair, templateMode⟩).delimiters = below := hbelow
    rw [CompareArgs.config, DelimiterArgs.pairFor, hdelimiters, hpair']
    rw [getD_orElse] at hfieldMode' hignoreCase' htemplateMode'
    refine congrArg Except.ok ((Config.mk.injEq ..).mpr ?_)
    exact ⟨hfieldMode'.symm, hignoreCase'.symm, (congrArg pair'.getD hdelimiters).trans habove,
      htemplateMode'.symm⟩

/-- Reading the variables, and then the options over them, gives the configuration of all layers, and
fails if there is none. -/
theorem layers_iff {lookup : String → Option String} {a : CompareArgs} {c : Config} :
    (∃ base, Config.ofVariables lookup = .ok base ∧ a.config base = .ok c) ↔ a.Layers lookup c :=
  ⟨fun ⟨_, hbase, hc⟩ => layers_of_config hbase hc, CompareArgs.Layers.exists_config⟩

end Command

end TemplateMatch
