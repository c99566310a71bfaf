import TemplateMatch.Proofs.Results
import TemplateMatch.Template.Synthesis

/-!
What `Synthesis.ofTemplate` returns. In every mode it is a program for the tokens of the template or
their text, with the unbound placeholders for names, so only unbound symbols are ever captured.
-/

namespace TemplateMatch

namespace Template

theorem names_eq_ok {d : Delimiters} {template : String} {tokens : List Token}
    (h : lex d template = .ok tokens) :
    names d template = .ok (tokens.filterMap Token.name?) := by
  rw [names, h]
  rfl

/-- The unbound placeholders in order of appearance, repeats included. -/
def unboundNames (bound : Bindings) (tokens : List Token) : List String :=
  (tokens.filterMap Token.name?).filter fun name => (bound name).isNone

theorem unboundNames_literal (bound : Bindings) (text : String) (tokens : List Token) :
    unboundNames bound (.literal text :: tokens) = unboundNames bound tokens := rfl

theorem unboundNames_placeholder (bound : Bindings) (position : Nat) (name : String)
    (tokens : List Token) :
    unboundNames bound (.placeholder position name :: tokens) =
      if (bound name).isNone then name :: unboundNames bound tokens
      else unboundNames bound tokens := by
  rw [unboundNames, List.filterMap_cons, Token.name?, List.filter_cons]
  rfl

theorem unboundNames_eq_nil_iff {bound : Bindings} {tokens : List Token} :
    unboundNames bound tokens = [] ↔
      ∀ name ∈ tokens.filterMap Token.name?, (bound name).isSome = true := by
  rw [unboundNames, List.filter_eq_nil_iff]
  simp only [Option.isNone_iff_eq_none, ← Option.isSome_iff_ne_none]

theorem bound_of_mem_unboundNames {bound : Bindings} {tokens : List Token} {name : String}
    (h : name ∈ unboundNames bound tokens) : bound name = none :=
  Option.isNone_iff_eq_none.mp (List.mem_filter.mp h).2

theorem names_body (mode : TemplateMode) (bound : Bindings) (index : Nat) (tokens : List Token) :
    (body mode bound index tokens).2 = unboundNames bound tokens := by
  induction tokens generalizing index with
  | nil => rfl
  | cons token tokens ih =>
    cases token with
    | literal text =>
      rw [unboundNames_literal, ← ih index]
      rfl
    | placeholder position name =>
      rw [unboundNames_placeholder]
      cases hbound : bound name with
      | some value => simpa [body, hbound] using ih index
      | none => simpa [body, hbound] using ih (index + 1)

theorem names_source (mode : TemplateMode) (bound : Bindings) (tokens : List Token) :
    (source mode bound tokens).2 = unboundNames bound tokens :=
  names_body mode bound 0 tokens

theorem unboundNames_of_boundText? {bound : Bindings} {tokens : List Token} {text : String}
    (h : boundText? bound tokens = some text) : unboundNames bound tokens = [] := by
  induction tokens generalizing text with
  | nil => rfl
  | cons token tokens ih =>
    cases token with
    | literal part =>
      obtain ⟨rest, hrest, _⟩ := Option.map_eq_some_iff.mp h
      exact ih hrest
    | placeholder position name =>
      rw [boundText?] at h
      cases hbound : bound name with
      | none => rw [hbound] at h; cases h
      | some value =>
        rw [hbound] at h
        obtain ⟨rest, hrest, _⟩ := Option.map_eq_some_iff.mp h
        rw [unboundNames_placeholder, hbound]
        exact ih hrest

end Template

namespace Synthesis

open Template

/-- What may be made of tokens under options. -/
inductive Of (o : TemplateOptions) (bound : Bindings) (tokens : List Token) : Synthesis → Prop
  | program {mode : TemplateMode} {p : Regex.Program} :
    mode ≠ .auto → Regex.Program.compile o.flags (source mode bound tokens).1 = .ok p →
      Of o bound tokens ⟨.program p, unboundNames bound tokens, mode⟩
  /-- There is no unbound placeholder. -/
  | text {text : String} :
    boundText? bound tokens = some text → Of o bound tokens ⟨.text text o.ignoreCase, [], .literal⟩

theorem modeFor_ne_auto (o : TemplateOptions) (tokens : List Token) : o.modeFor tokens ≠ .auto := by
  unfold TemplateOptions.modeFor
  split
  · split <;> exact fun h => by cases h
  · next hmode => exact hmode

theorem of_inMode {o : TemplateOptions} {bound : Bindings} {tokens : List Token}
    {mode : TemplateMode} {s : Synthesis} (hmode : mode ≠ .auto)
    (h : inMode o bound tokens mode = .ok s) : Of o bound tokens s := by
  rw [inMode] at h
  cases hp : Regex.Program.compile o.flags (source mode bound tokens).1 with
  | error e => simp only [hp] at h; cases h
  | ok p =>
    simp only [hp, names_source] at h
    cases h
    exact .program hmode hp

theorem of_verbatim {o : TemplateOptions} {bound : Bindings} {tokens : List Token} {s : Synthesis}
    (h : verbatim o bound tokens = .ok s) : Of o bound tokens s := by
  rw [verbatim] at h
  split at h
  · next s' hs' =>
    cases h
    exact of_inMode (by decide) hs'
  · cases h
  · -- What is too large is compared directly, if all of it is bound.
    split at h
    · next text htext =>
      simp only [names_source, unboundNames_of_boundText? htext] at h
      cases h
      exact .text htext
    · cases h

/-- In automatic mode either attempt may have succeeded. -/
theorem of_ofTokens {o : TemplateOptions} {bound : Bindings} {tokens : List Token} {s : Synthesis}
    (h : ofTokens o bound tokens = .ok s) : Of o bound tokens s := by
  unfold ofTokens at h
  split at h
  · exact of_verbatim h
  · split at h
    · next s' hs' =>
      cases h
      exact of_inMode (modeFor_ne_auto o tokens) hs'
    · split at h
      · exact of_verbatim h
      · cases h

theorem of_ofTemplate {o : TemplateOptions} {bound : Bindings} {template : String} {s : Synthesis}
    (h : ofTemplate o bound template = .ok s) :
    ∃ tokens, lex o.delimiters template = .ok tokens ∧ Of o bound tokens s := by
  rw [ofTemplate] at h
  split at h
  · cases h
  · next tokens htokens => exact ⟨tokens, htokens, of_ofTokens (mapError_eq_ok.mp h)⟩

theorem mode_of_inMode {o : TemplateOptions} {bound : Bindings} {tokens : List Token}
    {mode : TemplateMode} {s : Synthesis} (h : inMode o bound tokens mode = .ok s) :
    s.mode = mode := by
  simp only [inMode] at h
  split at h
  · cases h
    rfl
  · cases h

theorem mode_of_verbatim {o : TemplateOptions} {bound : Bindings} {tokens : List Token}
    {s : Synthesis} (h : verbatim o bound tokens = .ok s) : s.mode = .literal := by
  rw [verbatim] at h
  split at h
  · next s' hs' =>
    cases h
    exact mode_of_inMode hs'
  · cases h
  · split at h
    · simp only at h
      cases h
      rfl
    · cases h

theorem ofTokens_of_ofTemplate {o : TemplateOptions} {bound : Bindings} {template : String}
    {tokens : List Token} {s : Synthesis} (hlex : lex o.delimiters template = .ok tokens)
    (hs : ofTemplate o bound template = .ok s) :
    ofTokens o bound tokens = .ok s := by
  simp only [ofTemplate, hlex] at hs
  exact mapError_eq_ok.mp hs

/-! ## What is captured -/

theorem Of.names_eq {o : TemplateOptions} {bound : Bindings} {tokens : List Token} {s : Synthesis}
    (h : Of o bound tokens s) : s.names = unboundNames bound tokens := by
  cases h with
  | program => rfl
  | text htext => exact (unboundNames_of_boundText? htext).symm

theorem map_fst_capturesOf (names : List String) (m : Regex.Match) :
    (capturesOf names m).map Prod.fst = names := by
  apply List.ext_getElem?
  intro i
  rw [capturesOf, List.getElem?_map, List.getElem?_mapIdx, Option.map_map]
  exact Option.map_id'

theorem Of.map_fst_captures {o : TemplateOptions} {bound : Bindings} {tokens : List Token}
    {s : Synthesis} (h : Of o bound tokens s) {text : String} {cs : List (String × String)}
    (hc : s.captures text = some cs) : cs.map Prod.fst = s.names := by
  cases h with
  | program =>
    obtain ⟨m, _, rfl⟩ := Option.map_eq_some_iff.mp hc
    exact map_fst_capturesOf _ m
  | text =>
    simp only [captures] at hc
    split at hc
    · cases hc
      rfl
    · cases hc

/-- Bound symbols are part of the text, so what is captured is unbound. -/
theorem captures_unbound {o : TemplateOptions} {bound : Bindings} {template : String}
    {s : Synthesis} (h : ofTemplate o bound template = .ok s) {text : String}
    {cs : List (String × String)} (hc : s.captures text = some cs) :
    ∀ c ∈ cs, bound c.1 = none := by
  obtain ⟨tokens, _, hs⟩ := of_ofTemplate h
  intro c hmem
  have hname : c.1 ∈ cs.map Prod.fst := List.mem_map_of_mem hmem
  rw [hs.map_fst_captures hc, hs.names_eq] at hname
  exact bound_of_mem_unboundNames hname

theorem isMatch_eq_isSome_captures (s : Synthesis) (text : String) :
    s.isMatch text = (s.captures text).isSome := by
  cases hm : s.matcher with
  | program p => simp only [isMatch, captures, hm, Option.isSome_map]; rfl
  | text part ignoreCase =>
    simp only [isMatch, captures, hm]
    split
    · next h => exact h
    · next h => simpa using h

end Synthesis

end TemplateMatch
