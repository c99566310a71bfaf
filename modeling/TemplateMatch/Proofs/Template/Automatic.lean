import TemplateMatch.Proofs.Template.Fixed

/-!
How the modes of a template relate. Automatic mode is the mode of expressions when the literal text
of the template and its whole expression both compile, and is verbatim otherwise; the names are the
same in all modes, and only the mode of expressions can fail on syntax (`ofTemplate_auto`).
-/

namespace TemplateMatch

namespace Template

theorem lexFrom_eq_error {d : Delimiters} {offset : Nat} {text : List Char} {e : PatternError}
    (h : lexFrom d offset text = .error e) : ∃ position, e = .emptyPlaceholder position := by
  fun_induction lexFrom d offset text with
  | case1 | case2 | case5 => cases h
  | case3 =>
    cases h
    exact ⟨_, rfl⟩
  | case4 _ _ _ _ _ _ _ _ _ _ _ _ hrest ih =>
    cases h
    exact ih hrest

/-- A template is cut into tokens unless one of its placeholders has no name. -/
theorem lex_eq_error {d : Delimiters} {template : String} {e : PatternError}
    (h : lex d template = .error e) : ∃ position, e = .emptyPlaceholder position :=
  lexFrom_eq_error h

/-- Text that stands for nothing yet has a placeholder that is unbound. -/
theorem exists_unbound {bound : Bindings} {tokens : List Token}
    (h : boundText? bound tokens = none) :
    ∃ name ∈ tokens.filterMap Token.name?, bound name = none := by
  by_contra hnone
  have hbound : ∀ name ∈ tokens.filterMap Token.name?, (bound name).isSome = true := by
    intro name hname
    cases hvalue : bound name with
    | none => exact absurd ⟨name, hname, hvalue⟩ hnone
    | some value => rfl
  obtain ⟨text, htext⟩ := exists_boundText? hbound
  rw [htext] at h
  cases h

end Template

/-- The text is an expression that may be compiled in this case mode. -/
def Regex.Compiles (ignoreCase : Bool) (text : String) : Prop :=
  ∃ p, Program.compile (Template.flagsOf ignoreCase) text = .ok p

namespace Synthesis

open Template Regex

variable {d : Delimiters} {ignoreCase : Bool} {bound : Bindings} {tokens : List Token}

theorem inMode_of_compile {o : TemplateOptions} {mode : TemplateMode} {p : Program}
    (h : Program.compile o.flags (source mode bound tokens).1 = .ok p) :
    inMode o bound tokens mode = .ok ⟨.program p, unboundNames bound tokens, mode⟩ := by
  unfold inMode
  simp only [h, names_source]

theorem inMode_of_compile_error {o : TemplateOptions} {mode : TemplateMode} {e : Regex.Error}
    (h : Program.compile o.flags (source mode bound tokens).1 = .error e) :
    inMode o bound tokens mode = .error e := by
  unfold inMode
  simp only [h]

/-- What is taken verbatim is always an expression, so it can fail on its size only; and without
unbound placeholders it is compared directly then. -/
theorem verbatim_eq_error {o : TemplateOptions} {e : Regex.Error}
    (h : verbatim o bound tokens = .error e) :
    e = .tooLarge Program.sizeLimit ∧ boundText? bound tokens = none := by
  have hcompile := compile_source_literal o.ignoreCase bound tokens
  unfold verbatim at h
  by_cases hsize : (verbatimExpr o.ignoreCase (pieces bound 0 tokens)).size ≤ Program.sizeLimit
  · rw [if_pos hsize] at hcompile
    rw [inMode_of_compile hcompile] at h
    cases h
  · rw [if_neg hsize] at hcompile
    rw [inMode_of_compile_error hcompile] at h
    simp only at h
    split at h
    · cases h
    · next hnone =>
      cases h
      exact ⟨rfl, hnone⟩

theorem modeFor_auto_of_compiles (h : Compiles ignoreCase (literalText tokens)) :
    (⟨d, .auto, ignoreCase⟩ : TemplateOptions).modeFor tokens = .regex := by
  obtain ⟨p, hp⟩ := h
  have hflags : TemplateOptions.flags ⟨d, .auto, ignoreCase⟩ = flagsOf ignoreCase := rfl
  simp only [TemplateOptions.modeFor, hflags, hp]

theorem modeFor_auto_of_not_compiles (h : ¬Compiles ignoreCase (literalText tokens)) :
    (⟨d, .auto, ignoreCase⟩ : TemplateOptions).modeFor tokens = .literal := by
  have hflags : TemplateOptions.flags ⟨d, .auto, ignoreCase⟩ = flagsOf ignoreCase := rfl
  cases hp : Program.compile (flagsOf ignoreCase) (literalText tokens) with
  | ok p => exact absurd ⟨p, hp⟩ h
  | error e => simp only [TemplateOptions.modeFor, hflags, hp]

/-- Both attempts of automatic mode succeed, and the second is what the mode of expressions does. -/
theorem ofTokens_auto_of_compiles (htext : Compiles ignoreCase (literalText tokens))
    (hsource : Compiles ignoreCase (source .regex bound tokens).1) :
    ofTokens ⟨d, .auto, ignoreCase⟩ bound tokens =
      ofTokens ⟨d, .regex, ignoreCase⟩ bound tokens := by
  obtain ⟨p, hp⟩ := hsource
  have hrun (mode : TemplateMode) :
      inMode ⟨d, mode, ignoreCase⟩ bound tokens .regex =
        .ok ⟨.program p, unboundNames bound tokens, .regex⟩ :=
    inMode_of_compile hp
  unfold ofTokens
  rw [modeFor_auto_of_compiles htext, TemplateOptions.modeFor]
  simp only [hrun]

/-- One of the attempts of automatic mode fails, whichever it is. -/
theorem ofTokens_auto_of_not_compiles
    (h : ¬(Compiles ignoreCase (literalText tokens) ∧
      Compiles ignoreCase (source .regex bound tokens).1)) :
    ofTokens ⟨d, .auto, ignoreCase⟩ bound tokens =
      ofTokens ⟨d, .literal, ignoreCase⟩ bound tokens := by
  change _ = verbatim ⟨d, .auto, ignoreCase⟩ bound tokens
  unfold ofTokens
  by_cases htext : Compiles ignoreCase (literalText tokens)
  · -- The literal text compiles, so it is the whole expression that does not.
    rw [modeFor_auto_of_compiles htext]
    cases hp : Program.compile (flagsOf ignoreCase) (source .regex bound tokens).1 with
    | ok p => exact absurd ⟨htext, p, hp⟩ h
    | error e =>
      have hrun : inMode ⟨d, .auto, ignoreCase⟩ bound tokens .regex = .error e :=
        inMode_of_compile_error hp
      simp only [hrun, if_true]
  · rw [modeFor_auto_of_not_compiles htext]

/-- Only the mode of expressions can fail on anything but size. -/
theorem ofTokens_eq_error {mode : TemplateMode} (hmode : mode ≠ .regex) {e : Regex.Error}
    (h : ofTokens ⟨d, mode, ignoreCase⟩ bound tokens = .error e) :
    e = .tooLarge Program.sizeLimit ∧ boundText? bound tokens = none := by
  cases mode with
  | regex => exact absurd rfl hmode
  | literal => exact verbatim_eq_error h
  | auto =>
    by_cases hboth : Compiles ignoreCase (literalText tokens) ∧
        Compiles ignoreCase (source .regex bound tokens).1
    · rw [ofTokens_auto_of_compiles hboth.1 hboth.2] at h
      obtain ⟨p, hp⟩ := hboth.2
      have hrun : inMode ⟨d, .regex, ignoreCase⟩ bound tokens .regex = .ok _ :=
        inMode_of_compile hp
      unfold ofTokens at h
      rw [TemplateOptions.modeFor] at h
      simp only [hrun] at h
      cases h
    · rw [ofTokens_auto_of_not_compiles hboth] at h
      exact verbatim_eq_error h

/-- A template in automatic mode is what it is in the mode of expressions if its literal text and
its whole expression both compile, and what it is verbatim if not. In every mode its names are the
placeholders that are unbound, in order and with repeats. A template that is not forced to be an
expression fails on a placeholder without a name or, if a placeholder is unbound, on the size of the
expression, never on its syntax. -/
theorem ofTemplate_auto (d : Delimiters) (ignoreCase : Bool) (bound : Bindings)
    (template : String) :
    (∀ tokens, lex d template = .ok tokens →
      (Compiles ignoreCase (literalText tokens) ∧
          Compiles ignoreCase (source .regex bound tokens).1 →
        ofTemplate ⟨d, .auto, ignoreCase⟩ bound template =
          ofTemplate ⟨d, .regex, ignoreCase⟩ bound template) ∧
      (¬(Compiles ignoreCase (literalText tokens) ∧
          Compiles ignoreCase (source .regex bound tokens).1) →
        ofTemplate ⟨d, .auto, ignoreCase⟩ bound template =
          ofTemplate ⟨d, .literal, ignoreCase⟩ bound template)) ∧
    (∀ mode s, ofTemplate ⟨d, mode, ignoreCase⟩ bound template = .ok s →
      ∃ names, Template.names d template = .ok names ∧
        s.names = names.filter fun name => (bound name).isNone) ∧
    ∀ mode e, mode ≠ .regex → ofTemplate ⟨d, mode, ignoreCase⟩ bound template = .error e →
      (∃ position, e = .emptyPlaceholder position ∧ lex d template = .error e) ∨
      (e = .expression (.tooLarge Program.sizeLimit) ∧
        ∃ names, Template.names d template = .ok names ∧ ∃ name ∈ names, bound name = none) := by
  refine ⟨fun tokens hlex => ⟨fun hboth => ?_, fun hnot => ?_⟩, fun mode s hs => ?_,
    fun mode e hmode he => ?_⟩
  · simp only [ofTemplate, hlex]
    rw [ofTokens_auto_of_compiles hboth.1 hboth.2]
  · simp only [ofTemplate, hlex]
    rw [ofTokens_auto_of_not_compiles hnot]
  · obtain ⟨tokens, hlex, hof⟩ := of_ofTemplate hs
    exact ⟨_, names_eq_ok hlex, hof.names_eq⟩
  · -- An error comes from the tokens or else from the expression that they make.
    cases hlex : lex d template with
    | error cause =>
      simp only [ofTemplate, hlex] at he
      cases he
      obtain ⟨position, hposition⟩ := lex_eq_error hlex
      exact .inl ⟨position, hposition, rfl⟩
    | ok tokens =>
      simp only [ofTemplate, hlex] at he
      cases hrun : ofTokens ⟨d, mode, ignoreCase⟩ bound tokens with
      | ok s => rw [hrun] at he; cases he
      | error cause =>
        rw [hrun] at he
        cases he
        obtain ⟨rfl, hnone⟩ := ofTokens_eq_error hmode hrun
        exact .inr ⟨rfl, _, names_eq_ok hlex, exists_unbound hnone⟩

theorem ofTemplate_auto_parenthesis :
    ofTemplate ⟨.standard, .auto, true⟩ .none "(~[x]" =
        ofTemplate ⟨.standard, .literal, true⟩ .none "(~[x]" ∧
      ofTemplate ⟨.standard, .auto, true⟩ .none "(~[x])+~[x]" =
        ofTemplate ⟨.standard, .regex, true⟩ .none "(~[x])+~[x]" ∧
      ∃ s, ofTemplate ⟨.standard, .auto, true⟩ .none "(~[x])+~[x]" = .ok s ∧
        s.names = ["x", "x"] := by
  refine ⟨?_, ?_, ?_⟩
  · -- The text without its placeholder opens a group that nothing closes.
    have hlex : lex .standard "(~[x]" = .ok [.literal "(", .placeholder 1 "x"] := by cbv
    refine ((ofTemplate_auto .standard true .none "(~[x]").1 _ hlex).2 fun hboth => ?_
    obtain ⟨p, hp⟩ := hboth.1
    have hopen : Program.compile (flagsOf true)
        (literalText [.literal "(", .placeholder 1 "x"]) = .error (.malformed .groupUnclosed) := by
      cbv
    rw [hopen] at hp
    cases hp
  · have hlex : lex .standard "(~[x])+~[x]" =
        .ok [.literal "(", .placeholder 1 "x", .literal ")+", .placeholder 7 "x"] := by cbv
    exact ((ofTemplate_auto .standard true .none "(~[x])+~[x]").1 _ hlex).1
      ⟨⟨_, by cbv⟩, ⟨_, by cbv⟩⟩
  · have hrun : ∃ s, ofTemplate ⟨.standard, .auto, true⟩ .none "(~[x])+~[x]" = .ok s :=
      ⟨_, by cbv⟩
    obtain ⟨s, hs⟩ := hrun
    obtain ⟨names, hnames, heq⟩ := (ofTemplate_auto .standard true .none "(~[x])+~[x]").2.1 _ s hs
    have hread : Template.names .standard "(~[x])+~[x]" = .ok ["x", "x"] := by cbv
    rw [hread] at hnames
    cases hnames
    exact ⟨s, hs, heq⟩

end Synthesis

end TemplateMatch
