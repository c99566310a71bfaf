import TemplateMatch.Proofs.Template.Automatic
import TemplateMatch.Proofs.Template.Lexing

/-!
Resolving a template beside compiling it. Both go through the same tokens: resolution writes each
once, and fails on the first placeholder that is unbound (`resolve_eq_ok_iff`,
`resolve_eq_unbound_iff`). Where none is, the expression of the template is what it resolves to,
between the anchors and without names; where one is, it is the first of the names
(`resolve_agrees_with_source`).
-/

namespace TemplateMatch

/-- The text of a token, with its value for a placeholder. -/
def Token.filled (bound : Bindings) (substitution : Substitution) : Token → String
  | .literal text => text
  | .placeholder _ name => ((bound name).map substitution.write).getD ""

namespace Template

open Regex

variable {d : Delimiters} {bound : Bindings} {substitution : Substitution} {template : String}
  {tokens : List Token}

/-- The leftmost placeholder that is unbound, with the bytes of the template before it. -/
def IsFirstUnbound (d : Delimiters) (bound : Bindings) (tokens : List Token) (position : Nat)
    (name : String) : Prop :=
  ∃ before after, tokens = before ++ .placeholder position name :: after ∧
    (∀ n ∈ before.filterMap Token.name?, (bound n).isSome = true) ∧ bound name = none ∧
    position = (render d before).utf8ByteSize

/-- Every token once, one after the other. -/
def filledText (bound : Bindings) (substitution : Substitution) (tokens : List Token) : String :=
  String.join (tokens.map (Token.filled bound substitution))

theorem filledText_cons (token : Token) (tokens : List Token) :
    filledText bound substitution (token :: tokens) =
      token.filled bound substitution ++ filledText bound substitution tokens := by
  rw [filledText, List.map_cons, String.join_cons]
  rfl

/-! ## Tokens -/

theorem resolveTokens_of_bound (substitution : Substitution) (h : unboundNames bound tokens = []) :
    resolveTokens bound substitution tokens = .ok (filledText bound substitution tokens) := by
  induction tokens with
  | nil => rfl
  | cons token tokens ih =>
    rw [filledText_cons]
    cases token with
    | literal text =>
      rw [resolveTokens, ih h]
      rfl
    | placeholder position name =>
      rw [unboundNames_placeholder] at h
      cases hbound : bound name with
      | none => simp [hbound] at h
      | some value =>
        rw [hbound] at h
        simp only [resolveTokens, hbound, ih h, Token.filled]
        rfl

/-- What stands behind an unbound placeholder is not looked at. -/
theorem resolveTokens_of_unbound (substitution : Substitution) {before after : List Token}
    {position : Nat} {name : String} (h : unboundNames bound before = [])
    (hname : bound name = none) :
    resolveTokens bound substitution (before ++ .placeholder position name :: after) =
      .error (.unboundSymbol name position) := by
  induction before with
  | nil => simp only [List.nil_append, resolveTokens, hname]
  | cons token before ih =>
    rw [List.cons_append]
    cases token with
    | literal text =>
      rw [resolveTokens, ih h]
      rfl
    | placeholder position name =>
      rw [unboundNames_placeholder] at h
      cases hbound : bound name with
      | none => simp [hbound] at h
      | some value =>
        rw [hbound] at h
        simp only [resolveTokens, hbound, ih h]
        rfl

theorem exists_first_unbound {name : String} {more : List String}
    (h : unboundNames bound tokens = name :: more) :
    ∃ before position after, tokens = before ++ .placeholder position name :: after ∧
      unboundNames bound before = [] ∧ bound name = none := by
  induction tokens with
  | nil => cases h
  | cons token tokens ih =>
    cases token with
    | literal text =>
      obtain ⟨before, position, after, rfl, hbefore, hname⟩ := ih h
      exact ⟨.literal text :: before, position, after, rfl, hbefore, hname⟩
    | placeholder place found =>
      rw [unboundNames_placeholder] at h
      cases hbound : bound found with
      | none =>
        simp only [hbound, Option.isNone_none, if_true, List.cons.injEq] at h
        obtain ⟨rfl, _⟩ := h
        exact ⟨[], place, tokens, rfl, rfl, hbound⟩
      | some value =>
        rw [hbound] at h
        obtain ⟨before, position, after, rfl, hbefore, hname⟩ := ih h
        refine ⟨.placeholder place found :: before, position, after, rfl, ?_, hname⟩
        rw [unboundNames_placeholder, hbound]
        exact hbefore

/-! ## Expressions -/

theorem escape_append (s t : String) :
    Regex.escape (s ++ t) = Regex.escape s ++ Regex.escape t := by
  apply String.toList_inj.mp
  simp [Regex.escape]

/-- Values stand quoted in the text of an expression. -/
theorem body_regex_of_bound (index : Nat) (h : unboundNames bound tokens = []) :
    (body .regex bound index tokens).1 = filledText bound .quoted tokens := by
  induction tokens with
  | nil => rfl
  | cons token tokens ih =>
    rw [filledText_cons]
    cases token with
    | literal text =>
      rw [← ih h]
      rfl
    | placeholder position name =>
      rw [unboundNames_placeholder] at h
      cases hbound : bound name with
      | none => simp [hbound] at h
      | some value =>
        rw [hbound] at h
        simp only [body, hbound, Token.filled, ← ih h]
        rfl

/-- Verbatim text is quoted with the values in it. -/
theorem body_literal_of_bound (index : Nat) (h : unboundNames bound tokens = []) :
    (body .literal bound index tokens).1 = Regex.escape (filledText bound .plain tokens) := by
  induction tokens with
  | nil => rfl
  | cons token tokens ih =>
    rw [filledText_cons, escape_append]
    cases token with
    | literal text =>
      rw [← ih h]
      rfl
    | placeholder position name =>
      rw [unboundNames_placeholder] at h
      cases hbound : bound name with
      | none => simp [hbound] at h
      | some value =>
        rw [hbound] at h
        simp only [body, hbound, Token.filled, ← ih h]
        rfl

theorem source_regex_of_bound (h : unboundNames bound tokens = []) :
    source .regex bound tokens = (anchored (filledText bound .quoted tokens), []) := by
  rw [← body_regex_of_bound 0 h, ← h, ← names_body .regex bound 0 tokens]
  rfl

theorem source_literal_of_bound (h : unboundNames bound tokens = []) :
    source .literal bound tokens =
      (anchored (Regex.escape (filledText bound .plain tokens)), []) := by
  rw [← body_literal_of_bound 0 h, ← h, ← names_body .literal bound 0 tokens]
  rfl

theorem boundText?_of_bound (h : unboundNames bound tokens = []) :
    boundText? bound tokens = some (filledText bound .plain tokens) := by
  obtain ⟨text, htext⟩ := exists_boundText? (unboundNames_eq_nil_iff.mp h)
  have hplain := resolveTokens_plain htext
  rw [resolveTokens_of_bound .plain h] at hplain
  rw [htext, Except.ok.inj hplain]

theorem ofTokens_regex_of_bound {ignoreCase : Bool} (h : unboundNames bound tokens = []) :
    Synthesis.ofTokens ⟨d, .regex, ignoreCase⟩ bound tokens =
      (Program.compile (flagsOf ignoreCase) (anchored (filledText bound .quoted tokens))).map
        fun p => ⟨.program p, [], .regex⟩ := by
  have hflags : TemplateOptions.flags ⟨d, .regex, ignoreCase⟩ = flagsOf ignoreCase := rfl
  rw [Synthesis.ofTokens, TemplateOptions.modeFor]
  simp only [Synthesis.inMode, hflags, source_regex_of_bound h]
  cases Program.compile (flagsOf ignoreCase) (anchored (filledText bound .quoted tokens)) <;> rfl

/-- Only its size stands in the way of verbatim text, which is then compared directly. -/
theorem ofTokens_literal_of_bound {ignoreCase : Bool} (h : unboundNames bound tokens = []) :
    Synthesis.ofTokens ⟨d, .literal, ignoreCase⟩ bound tokens =
      .ok ⟨match Program.compile (flagsOf ignoreCase)
          (anchored (Regex.escape (filledText bound .plain tokens))) with
        | .ok p => .program p
        | .error _ => .text (filledText bound .plain tokens) ignoreCase, [], .literal⟩ := by
  have hcompile := compile_source_literal ignoreCase bound tokens
  have hsource := source_literal_of_bound h
  have hflags : TemplateOptions.flags ⟨d, .literal, ignoreCase⟩ = flagsOf ignoreCase := rfl
  rw [hsource] at hcompile
  rw [Synthesis.ofTokens, TemplateOptions.modeFor]
  simp only [Synthesis.verbatim, Synthesis.inMode, hflags, hsource, hcompile]
  by_cases hsize : (verbatimExpr ignoreCase (pieces bound 0 tokens)).size ≤ Program.sizeLimit
  · simp only [if_pos hsize]
  · simp only [if_neg hsize, boundText?_of_bound h]

/-! ## Templates -/

/-- A template resolves to its tokens, each written once, when all its placeholders are bound. -/
theorem resolve_eq_ok_iff {text : String} : resolve d bound substitution template = .ok text ↔
    ∃ tokens, lex d template = .ok tokens ∧ unboundNames bound tokens = [] ∧
      text = filledText bound substitution tokens := by
  rw [resolve]
  cases hlex : lex d template with
  | error e => simp
  | ok tokens =>
    simp only [Except.ok.injEq, exists_eq_left']
    cases hnames : unboundNames bound tokens with
    | nil =>
      rw [resolveTokens_of_bound substitution hnames, Except.ok.injEq]
      exact ⟨fun h => ⟨rfl, h.symm⟩, fun h => h.2.symm⟩
    | cons name more =>
      obtain ⟨before, position, after, rfl, hbefore, hname⟩ := exists_first_unbound hnames
      rw [resolveTokens_of_unbound substitution hbefore hname]
      constructor
      · intro h
        cases h
      · rintro ⟨h, -⟩
        cases h

/-- The first name without a value is the one that resolution reports, where it stands. -/
theorem resolve_eq_unbound_iff {position : Nat} {name : String} :
    resolve d bound substitution template = .error (.unboundSymbol name position) ↔
      ∃ tokens, lex d template = .ok tokens ∧ IsFirstUnbound d bound tokens position name := by
  rw [resolve]
  cases hlex : lex d template with
  | error e =>
    obtain ⟨place, rfl⟩ := lex_eq_error hlex
    simp
  | ok tokens =>
    simp only [Except.ok.injEq, exists_eq_left']
    constructor
    · intro h
      cases hnames : unboundNames bound tokens with
      | nil =>
        rw [resolveTokens_of_bound substitution hnames] at h
        cases h
      | cons first more =>
        obtain ⟨before, place, after, rfl, hbefore, hname⟩ := exists_first_unbound hnames
        rw [resolveTokens_of_unbound substitution hbefore hname] at h
        cases h
        have hplaced := (lexed_of_lexFrom hlex).placed before position name after rfl
        exact ⟨before, after, rfl, unboundNames_eq_nil_iff.mp hbefore, hname,
          hplaced.position_eq.trans (Nat.zero_add _)⟩
    · rintro ⟨before, after, rfl, hbefore, hname, _⟩
      exact resolveTokens_of_unbound substitution (unboundNames_eq_nil_iff.mpr hbefore) hname

/-- The placeholder that resolution fails on is the first without a value. -/
theorem exists_resolve_eq_unbound_iff {name : String} (hlex : lex d template = .ok tokens) :
    (∃ position, resolve d bound substitution template = .error (.unboundSymbol name position)) ↔
      (unboundNames bound tokens).head? = some name := by
  rw [resolve, hlex]
  simp only
  cases hnames : unboundNames bound tokens with
  | nil => simp [resolveTokens_of_bound substitution hnames]
  | cons first more =>
    obtain ⟨before, place, after, rfl, hbefore, hname⟩ := exists_first_unbound hnames
    simp [resolveTokens_of_unbound substitution hbefore hname]

theorem resolve_eq_error_iff {e : PatternError} :
    resolve d bound substitution template = .error e ↔
      (lex d template = .error e ∧ ∃ position, e = .emptyPlaceholder position) ∨
      ∃ tokens position name, lex d template = .ok tokens ∧
        IsFirstUnbound d bound tokens position name ∧ e = .unboundSymbol name position := by
  constructor
  · intro h
    cases hlex : lex d template with
    | error cause =>
      rw [resolve, hlex] at h
      cases h
      exact .inl ⟨rfl, lex_eq_error hlex⟩
    | ok tokens =>
      obtain ⟨position, name, rfl⟩ : ∃ position name, e = .unboundSymbol name position := by
        rw [resolve, hlex] at h
        cases hnames : unboundNames bound tokens with
        | nil =>
          simp only [resolveTokens_of_bound substitution hnames] at h
          cases h
        | cons first more =>
          obtain ⟨before, place, after, rfl, hbefore, hname⟩ := exists_first_unbound hnames
          simp only [resolveTokens_of_unbound substitution hbefore hname] at h
          exact ⟨place, first, (Except.error.inj h).symm⟩
      obtain ⟨found, hfound, hfirst⟩ := resolve_eq_unbound_iff.mp h
      exact .inr ⟨found, position, name, hlex ▸ hfound, hfirst, rfl⟩
  · rintro (⟨hlex, -⟩ | ⟨tokens, position, name, hlex, hfirst, rfl⟩)
    · rw [resolve, hlex]
    · exact resolve_eq_unbound_iff.mpr ⟨tokens, hlex, hfirst⟩

/-- Resolution fails on the tokens or on the first placeholder that is unbound, and gives each token
once if there is none. The expression of the template is then what it resolves to between the
anchors, with the values quoted or as a whole, and has no names; else the placeholder that
resolution fails on is the first of its names. -/
theorem resolve_agrees_with_source (d : Delimiters) (ignoreCase : Bool) (bound : Bindings)
    (template : String) :
    (∀ substitution e, resolve d bound substitution template = .error e ↔
      (lex d template = .error e ∧ ∃ position, e = .emptyPlaceholder position) ∨
      ∃ tokens position name, lex d template = .ok tokens ∧
        IsFirstUnbound d bound tokens position name ∧ e = .unboundSymbol name position) ∧
    (∀ substitution text, resolve d bound substitution template = .ok text ↔
      ∃ tokens, lex d template = .ok tokens ∧
        (∀ name ∈ tokens.filterMap Token.name?, (bound name).isSome = true) ∧
        text = filledText bound substitution tokens) ∧
    (∀ substitution tokens mode name, lex d template = .ok tokens →
      ((∃ position, resolve d bound substitution template = .error (.unboundSymbol name position)) ↔
        (source mode bound tokens).2.head? = some name)) ∧
    (∀ quoted, resolve d bound .quoted template = .ok quoted →
      (∃ tokens, lex d template = .ok tokens ∧
        source .regex bound tokens = (anchored quoted, [])) ∧
      Synthesis.ofTemplate ⟨d, .regex, ignoreCase⟩ bound template =
        ((Program.compile (flagsOf ignoreCase) (anchored quoted)).map
          fun p => ⟨.program p, [], .regex⟩).mapError .expression) ∧
    ∀ plain, resolve d bound .plain template = .ok plain →
      (∃ tokens, lex d template = .ok tokens ∧
        source .literal bound tokens = (anchored (Regex.escape plain), [])) ∧
      Synthesis.ofTemplate ⟨d, .literal, ignoreCase⟩ bound template =
        .ok ⟨match Program.compile (flagsOf ignoreCase) (anchored (Regex.escape plain)) with
          | .ok p => .program p
          | .error _ => .text plain ignoreCase, [], .literal⟩ := by
  refine ⟨fun _ _ => resolve_eq_error_iff, fun _ _ => ?_,
    fun substitution tokens mode name hlex => ?_, fun quoted h => ?_, fun plain h => ?_⟩
  · simp only [resolve_eq_ok_iff, unboundNames_eq_nil_iff]
  · rw [names_source]
    exact exists_resolve_eq_unbound_iff hlex
  · obtain ⟨tokens, hlex, hnames, rfl⟩ := resolve_eq_ok_iff.mp h
    refine ⟨⟨tokens, hlex, source_regex_of_bound hnames⟩, ?_⟩
    rw [Synthesis.ofTemplate, hlex]
    simp only [ofTokens_regex_of_bound hnames]
  · obtain ⟨tokens, hlex, hnames, rfl⟩ := resolve_eq_ok_iff.mp h
    refine ⟨⟨tokens, hlex, source_literal_of_bound hnames⟩, ?_⟩
    rw [Synthesis.ofTemplate, hlex]
    simp only [ofTokens_literal_of_bound hnames, Except.mapError]

/-- A value that looks like a placeholder stays as it is, and a name without a value is reported
where it stands. -/
theorem resolve_agrees_with_source_again :
    (∃ tokens, lex .standard "a.~[x]" = .ok tokens ∧
      source .regex (.ofPairs [("x", "~[y]")]) tokens = (anchored "a.\\~\\[y\\]", [])) ∧
    (∃ tokens, lex .standard "a.~[x]" = .ok tokens ∧
      source .literal (.ofPairs [("x", "~[y]")]) tokens =
        (anchored (Regex.escape "a.~[y]"), [])) ∧
    (source .regex .none [.literal "a.", .placeholder 2 "x"]).2.head? = some "x" := by
  obtain ⟨-, -, -, hquoted, hplain⟩ :=
    resolve_agrees_with_source .standard true (.ofPairs [("x", "~[y]")]) "a.~[x]"
  obtain ⟨-, -, hnames, -, -⟩ := resolve_agrees_with_source .standard true .none "a.~[x]"
  exact ⟨(hquoted _ (by cbv)).1, (hplain _ (by cbv)).1,
    (hnames .plain _ .regex "x" (by cbv)).mp ⟨2, by cbv⟩⟩

end Template

end TemplateMatch
