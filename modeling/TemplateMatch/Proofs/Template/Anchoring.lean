import TemplateMatch.Proofs.Regex.ClosingGroups
import TemplateMatch.Proofs.Template.Captures

/-!
Matching of whole texts. The anchors are written around a template, so they hold for all of it as
long as what is written for the tokens is an expression by itself (`find_whole`). A parenthesis that
is not opened there closes the anchored group instead, and then a part of a text may match
(`find_not_whole`).
-/

namespace TemplateMatch.Template

open Regex

/-- What is written for the tokens is an expression by itself, without the anchors. -/
def SelfContained (mode : TemplateMode) (bound : Bindings) (tokens : List Token) : Prop :=
  ∃ tree, Tree.read (body mode bound 0 tokens).1.toList = .ok tree

/-! ## Automatic mode -/

theorem body_regex_of_unplaced {bound : Bindings} {index : Nat} {tokens : List Token}
    (h : tokens.filterMap Token.name? = []) :
    (body .regex bound index tokens).1 = literalText tokens := by
  induction tokens with
  | nil => rfl
  | cons token tokens ih =>
    cases token with
    | literal text =>
      change text ++ (body .regex bound index tokens).1 = String.join (text :: _)
      rw [ih h, String.join_cons, literalText]
    | placeholder position name => cases h

/-- The mode is chosen by reading the text of the tokens alone, which is all there is without
placeholders. -/
theorem selfContained_of_auto {o : TemplateOptions} {bound : Bindings} {tokens : List Token}
    {s : Synthesis} (hauto : o.mode = .auto) (hnames : tokens.filterMap Token.name? = [])
    (hs : Synthesis.ofTokens o bound tokens = .ok s) :
    s.mode = .literal ∨ SelfContained s.mode bound tokens := by
  cases hread : Program.compile o.flags (literalText tokens) with
  | error e =>
    have hmode : o.modeFor tokens = .literal := by simp only [TemplateOptions.modeFor, hauto, hread]
    rw [Synthesis.ofTokens, hmode] at hs
    exact .inl (Synthesis.mode_of_verbatim hs)
  | ok program =>
    have hmode : o.modeFor tokens = .regex := by simp only [TemplateOptions.modeFor, hauto, hread]
    rw [Synthesis.ofTokens, hmode] at hs
    simp only [hauto, if_true] at hs
    split at hs
    · next s' hs' =>
      cases hs
      rw [Synthesis.mode_of_inMode hs', SelfContained, body_regex_of_unplaced hnames]
      rw [Program.compile] at hread
      split at hread
      · cases hread
      · next tree htree => exact .inr ⟨tree, htree⟩
    · exact .inl (Synthesis.mode_of_verbatim hs)

/-! ## Matches -/

theorem toList_anchored (body : String) :
    (anchored body).toList = '\\' :: 'A' :: '(' :: '?' :: ':' :: (body.toList ++ closing) := by
  rw [anchored, String.toList_append, String.toList_append, List.append_assoc]
  rfl

theorem meaning_between (fl : Flags) (tree : Tree) : tree.between.meaning fl =
    (tree.meaning fl).map fun r => (.ofList [.look .textStart, r.1, .look .textStop], fl) := by
  have hflags : fl.apply [] = fl := rfl
  cases hbody : tree.meaning fl with
  | error e =>
    simp only [Tree.between, Tree.meaning, Tree.meanings, bind, Except.bind, hflags, hbody]
    rfl
  | ok r =>
    simp only [Tree.between, Tree.meaning, Tree.meanings, bind, Except.bind, hflags, hbody]
    rfl

/-- The anchors then hold for the whole expression. -/
theorem expr_of_compile_anchored {fl : Flags} {body : String} {tree : Tree} {p : Program}
    (hread : Tree.read body.toList = .ok tree) (hp : Program.compile fl (anchored body) = .ok p) :
    ∃ a, p.expr = .ofList [.look .textStart, a, .look .textStop] := by
  rw [Program.compile, toList_anchored] at hp
  split at hp
  · cases hp
  · next whole hwhole =>
    rw [Tree.read_between hread hwhole, meaning_between] at hp
    cases hbody : tree.meaning fl with
    | error e =>
      simp only [hbody, Except.map] at hp
      cases hp
    | ok r =>
      simp only [hbody, Except.map] at hp
      split at hp
      · cases hp
        exact ⟨r.1, rfl⟩
      · cases hp

theorem expr_of_selfContained {o : TemplateOptions} {bound : Bindings} {tokens : List Token}
    {s : Synthesis} {p : Program} (h : Synthesis.Of o bound tokens s)
    (hp : s.matcher = .program p)
    (hbody : s.mode = .literal ∨ SelfContained s.mode bound tokens) :
    ∃ a, p.expr = .ofList [.look .textStart, a, .look .textStop] := by
  rcases hbody with hmode | hbody
  · exact ⟨_, expr_of_literal h hmode hp⟩
  · cases h with
    | program _ hcompile =>
      cases hp
      obtain ⟨tree, hread⟩ := hbody
      exact expr_of_compile_anchored hread hcompile
    | text => cases hp

theorem start_stop_of_find {a : Expr} {text : List Char} {m : Match}
    (h : (Expr.ofList [.look .textStart, a, .look .textStop]).find text = some m) :
    m.start = 0 ∧ m.stop = text.length := by
  obtain ⟨p, hp, q, spans, hl, rfl⟩ := Expr.find_eq_some h
  obtain ⟨rfl, hq, _⟩ := (leads_between hp).mp hl
  obtain ⟨n, hn, rfl⟩ := hl.exists_skip
  refine ⟨rfl, ?_⟩
  -- Nothing is left behind the match, so it has gone through the whole text.
  rw [Position.rest_skip, List.drop_eq_nil_iff] at hq
  change (Position.skip n _).index = _
  rw [Position.index_skip hn]
  change 0 + n = text.length
  change text.length ≤ n at hq
  change n ≤ text.length at hn
  omega

/-- A template never matches a part of a text when it is taken verbatim, when its expression is one
by itself, or when automatic mode has read all its text: the match that is found goes from the start
to the end. -/
theorem find_whole {o : TemplateOptions} {bound : Bindings} {template source : String}
    {tokens : List Token} {s : Synthesis} {p : Program}
    (hlex : lex o.delimiters template = .ok tokens)
    (hs : Synthesis.ofTemplate o bound template = .ok s) (hp : s.matcher = .program p)
    (hbody : s.mode = .literal ∨ SelfContained s.mode bound tokens ∨
      (o.mode = .auto ∧ tokens.filterMap Token.name? = []))
    (hmatch : s.isMatch source = true) :
    ∃ m, p.find source = some m ∧ m.start = 0 ∧ m.stop = source.length := by
  have hs := Synthesis.ofTokens_of_ofTemplate hlex hs
  have hbody : s.mode = .literal ∨ SelfContained s.mode bound tokens := by
    rcases hbody with hmode | hbody | ⟨hauto, hnames⟩
    · exact .inl hmode
    · exact .inr hbody
    · exact selfContained_of_auto hauto hnames hs
  obtain ⟨a, ha⟩ := expr_of_selfContained (Synthesis.of_ofTokens hs) hp hbody
  simp only [Synthesis.isMatch, hp] at hmatch
  obtain ⟨m, hm⟩ := Option.isSome_iff_exists.mp hmatch
  refine ⟨m, hm, ?_⟩
  rw [Program.find, ha] at hm
  exact start_stop_of_find hm

theorem find_whole_repeated :
    ∃ s p, Synthesis.ofTemplate ⟨.standard, .regex, true⟩ (.ofPairs [("y", ")|(")])
        "(~[y]|~[x])+" = .ok s ∧ s.matcher = .program p ∧
      ∃ m, p.find "a)|(b" = some m ∧ m.start = 0 ∧ m.stop = 5 := by
  have hs : ∃ s p, Synthesis.ofTemplate ⟨.standard, .regex, true⟩ (.ofPairs [("y", ")|(")])
        "(~[y]|~[x])+" = .ok s ∧ s.matcher = .program p ∧ s.mode = .regex ∧
      s.isMatch "a)|(b" = true :=
    ⟨⟨.program _, _, _⟩, _, by cbv, rfl, rfl, by cbv⟩
  obtain ⟨s, p, hs, hp, hmode, hmatch⟩ := hs
  have hlex : lex .standard "(~[y]|~[x])+" = .ok [.literal "(", .placeholder 1 "y", .literal "|",
      .placeholder 6 "x", .literal ")+"] := by cbv
  have hbody : SelfContained s.mode (.ofPairs [("y", ")|(")]) [.literal "(", .placeholder 1 "y",
      .literal "|", .placeholder 6 "x", .literal ")+"] := by
    rw [hmode]
    exact ⟨_, by cbv⟩
  exact ⟨s, p, hs, hp, find_whole hlex hs hp (.inr (.inl hbody)) hmatch⟩

/-- A parenthesis of the template, or one of a bound value behind a backslash of the template,
closes the anchored group, and only the front of the text matches. -/
theorem find_not_whole :
    (∃ s p m, Synthesis.ofTemplate ⟨.standard, .regex, true⟩ .none "a)|(b" = .ok s ∧
      s.matcher = .program p ∧ s.isMatch "ax" = true ∧ p.find "ax" = some m ∧ m.stop = 1) ∧
    ∃ s p m, Synthesis.ofTemplate ⟨.standard, .auto, true⟩ (.ofPairs [("a", ")"), ("b", "(")])
        "\\~[a]|\\~[b]." = .ok s ∧
      s.matcher = .program p ∧ s.isMatch "\\ab" = true ∧ p.find "\\ab" = some m ∧
      m.stop = 1 := by
  constructor
  · exact ⟨⟨.program _, _, _⟩, _, _, by cbv, rfl, by cbv, by cbv, by cbv⟩
  · exact ⟨⟨.program _, _, _⟩, _, _, by cbv, rfl, by cbv, by cbv, by cbv⟩

end TemplateMatch.Template
