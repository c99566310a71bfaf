import TemplateMatch.Proofs.Template.Captures
import TemplateMatch.Template.Resolution

/-!
Templates without unbound placeholders. Taken verbatim with case observed, such a template always
compiles or is compared directly, and it matches the one text that it resolves to
(`exists_isFixed_of_names`).
-/

namespace TemplateMatch.Template

open Regex

variable {bound : Bindings} {tokens : List Token}

theorem resolveTokens_plain {text : String} (h : boundText? bound tokens = some text) :
    resolveTokens bound .plain tokens = .ok text := by
  induction tokens generalizing text with
  | nil =>
    cases h
    rfl
  | cons token tokens ih =>
    cases token with
    | literal part =>
      obtain ⟨rest, hrest, rfl⟩ := Option.map_eq_some_iff.mp h
      rw [resolveTokens, ih hrest]
      rfl
    | placeholder position name =>
      rw [boundText?] at h
      cases hbound : bound name with
      | none => rw [hbound] at h; cases h
      | some value =>
        rw [hbound] at h
        obtain ⟨rest, hrest, rfl⟩ := Option.map_eq_some_iff.mp h
        simp only [resolveTokens, hbound, ih hrest]
        rfl

theorem exists_boundText? (h : ∀ name ∈ tokens.filterMap Token.name?, (bound name).isSome = true) :
    ∃ text, boundText? bound tokens = some text := by
  induction tokens with
  | nil => exact ⟨"", rfl⟩
  | cons token tokens ih =>
    cases token with
    | literal part =>
      obtain ⟨rest, hrest⟩ := ih h
      exact ⟨part ++ rest, by rw [boundText?, hrest]; rfl⟩
    | placeholder position name =>
      rw [List.filterMap_cons_some (b := name) (by rfl), List.forall_mem_cons] at h
      obtain ⟨value, hvalue⟩ := Option.isSome_iff_exists.mp h.1
      obtain ⟨rest, hrest⟩ := ih h.2
      exact ⟨value ++ rest, by simp only [boundText?, hvalue, hrest]; rfl⟩

theorem boundText?_of_unplaced {d : Delimiters} (h : tokens.filterMap Token.name? = []) :
    boundText? bound tokens = some (render d tokens) := by
  induction tokens with
  | nil => rfl
  | cons token tokens ih =>
    cases token with
    | literal part =>
      rw [boundText?, ih h, Option.map_some, render, render, List.map_cons, String.join_cons]
      rfl
    | placeholder position name => cases h

/-- Tokens without an unbound placeholder stand for one text. -/
theorem spells_iff_of_boundText? {text source : String} {values : List String}
    (h : boundText? bound tokens = some text) :
    Spells false bound tokens values source ↔ values = [] ∧ source = text := by
  induction tokens generalizing text source values with
  | nil =>
    cases h
    constructor
    · intro hs
      cases hs
      exact ⟨rfl, rfl⟩
    · rintro ⟨rfl, rfl⟩
      exact .nil
  | cons token tokens ih =>
    cases token with
    | literal part =>
      obtain ⟨rest, hrest, rfl⟩ := Option.map_eq_some_iff.mp h
      constructor
      · intro hs
        cases hs with
        | literal hsame hs =>
          obtain ⟨rfl, rfl⟩ := (ih hrest).mp hs
          exact ⟨rfl, by rw [show part = _ by simpa [SameText] using hsame]⟩
      · rintro ⟨rfl, rfl⟩
        exact .literal (by simp [SameText]) ((ih hrest).mpr ⟨rfl, rfl⟩)
    | placeholder position name =>
      rw [boundText?] at h
      cases hbound : bound name with
      | none => rw [hbound] at h; cases h
      | some value =>
        rw [hbound] at h
        obtain ⟨rest, hrest, rfl⟩ := Option.map_eq_some_iff.mp h
        constructor
        · intro hs
          cases hs with
          | value hvalue hsame hs =>
            rw [hbound] at hvalue
            cases hvalue
            obtain ⟨rfl, rfl⟩ := (ih hrest).mp hs
            exact ⟨rfl, by rw [show value = _ by simpa [SameText] using hsame]⟩
          | capture hunbound => rw [hbound] at hunbound; cases hunbound
        · rintro ⟨rfl, rfl⟩
          exact .value hbound (by simp [SameText]) ((ih hrest).mpr ⟨rfl, rfl⟩)

end TemplateMatch.Template

namespace TemplateMatch.Synthesis

open Template Regex

/-- A template that matches one text only and captures nothing. -/
def IsFixed (s : Synthesis) (text : String) : Prop :=
  ∀ source, s.captures source = if source = text then some [] else none

theorem Of.isFixed {o : TemplateOptions} {bound : Bindings} {tokens : List Token} {s : Synthesis}
    {text : String} (h : Of o bound tokens s) (hmode : s.mode = .literal)
    (hcase : o.ignoreCase = false) (htext : boundText? bound tokens = some text) :
    s.IsFixed text := by
  intro source
  cases h with
  | @program mode p hne hcompile =>
    have hexpr := expr_of_literal (.program hne hcompile) hmode rfl
    have hfind : (p.find source).isSome = true ↔ source = text := by
      rw [Program.find, hexpr, hcase, find_pieces_isSome_iff]
      simp [spells_iff_of_boundText? htext]
    simp only [captures, unboundNames_of_boundText? htext]
    cases hm : p.find source with
    | none => rw [if_neg fun h => by simp [hm] at hfind; exact hfind h]; rfl
    | some m => rw [if_pos (hfind.mp (by rw [hm]; rfl))]; rfl
  | text htext' =>
    rw [htext] at htext'
    cases htext'
    simp only [captures, textMatches, hcase, Bool.false_eq_true, if_false, beq_iff_eq,
      eq_comm (a := text)]

/-- Such a template always has a synthesis: what is too large to compile is compared directly. -/
theorem exists_isFixed {o : TemplateOptions} {bound : Bindings} {template text : String}
    {tokens : List Token} (hmode : o.mode = .literal) (hcase : o.ignoreCase = false)
    (hlex : lex o.delimiters template = .ok tokens) (htext : boundText? bound tokens = some text) :
    ∃ s, ofTemplate o bound template = .ok s ∧ s.IsFixed text := by
  -- The expression is well formed, so its size alone decides how the text is compared.
  have hsynthesis : ∃ s, ofTokens o bound tokens = .ok s := by
    have hmode : o.modeFor tokens = .literal := by rw [TemplateOptions.modeFor, hmode]
    have hflags : o.flags = flagsOf o.ignoreCase := rfl
    rw [ofTokens, hmode]
    by_cases hsize : (verbatimExpr o.ignoreCase (pieces bound 0 tokens)).size ≤ Program.sizeLimit
    · simp only [verbatim, inMode, hflags, compile_source_literal, if_pos hsize]
      exact ⟨_, rfl⟩
    · simp only [verbatim, inMode, hflags, compile_source_literal, if_neg hsize, htext]
      exact ⟨_, rfl⟩
  obtain ⟨s, hs⟩ := hsynthesis
  have hliteral : s.mode = .literal := by
    rw [ofTokens, TemplateOptions.modeFor, hmode] at hs
    exact mode_of_verbatim hs
  refine ⟨s, ?_, (of_ofTokens hs).isFixed hliteral hcase htext⟩
  simp only [ofTemplate, hlex, hs]
  rfl

/-- A template whose placeholders are all bound matches the text that it resolves to. -/
theorem exists_isFixed_of_names {o : TemplateOptions} {bound : Bindings} {template : String}
    {names : List String} (hmode : o.mode = .literal) (hcase : o.ignoreCase = false)
    (hnames : Template.names o.delimiters template = .ok names)
    (hbound : ∀ name ∈ names, (bound name).isSome = true) :
    ∃ s text, ofTemplate o bound template = .ok s ∧
      resolve o.delimiters bound .plain template = .ok text ∧ s.IsFixed text := by
  obtain ⟨tokens, hlex, rfl⟩ := map_eq_ok.mp hnames
  obtain ⟨text, htext⟩ := exists_boundText? hbound
  obtain ⟨s, hs, hfixed⟩ := exists_isFixed hmode hcase hlex htext
  refine ⟨s, text, hs, ?_, hfixed⟩
  simp only [resolve, hlex]
  exact resolveTokens_plain htext

/-- A template without placeholders matches itself. -/
theorem exists_isFixed_self {o : TemplateOptions} (bound : Bindings) {template : String}
    (hmode : o.mode = .literal) (hcase : o.ignoreCase = false)
    (hnames : Template.names o.delimiters template = .ok []) :
    ∃ s, ofTemplate o bound template = .ok s ∧ s.IsFixed template := by
  obtain ⟨tokens, hlex, hunplaced⟩ := map_eq_ok.mp hnames
  have htext : boundText? bound tokens = some template := by
    rw [boundText?_of_unplaced (d := o.delimiters) hunplaced, render_lex hlex]
  exact exists_isFixed hmode hcase hlex htext

end TemplateMatch.Synthesis
