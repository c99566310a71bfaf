import TemplateMatch.Proofs.Template.Anchoring
import TemplateMatch.Proofs.Template.Units

/-!
Bound values as units of an expression. A value is written without a group around it. That makes no
difference where it stands between two parts of the expression (`isMatch_grouped`), but what a
template leaves open in front of a value, and what repeats it, changes the meaning
(`isMatch_not_grouped`).
-/

namespace TemplateMatch.Template

open Regex

/-- The expression for tokens with a group around every bound value. -/
def groupedBody (bound : Bindings) (index : Nat) : List Token → String
  | [] => ""
  | .literal text :: tokens => text ++ groupedBody bound index tokens
  | .placeholder _ name :: tokens =>
    match bound name with
    | some value => "(?:" ++ Regex.escape value ++ ")" ++ groupedBody bound index tokens
    | none => captureGroup index ++ groupedBody bound (index + 1) tokens

def groupedSource (bound : Bindings) (tokens : List Token) : String :=
  anchored (groupedBody bound 0 tokens)

/-- The expression for tokens cut at the bound values: what stands in front of the first, and each
value with what follows it up to the next or to the end. -/
def cut (bound : Bindings) (index : Nat) : List Token → List Char × Units
  | [] => (closing, [])
  | .literal text :: tokens =>
    let rest := cut bound index tokens
    (text.toList ++ rest.1, rest.2)
  | .placeholder _ name :: tokens =>
    match bound name with
    | some value =>
      let rest := cut bound index tokens
      ([], (value.toList, rest.1) :: rest.2)
    | none =>
      let rest := cut bound (index + 1) tokens
      ((captureGroup index).toList ++ rest.1, rest.2)

/-- What stands in front of the first bound value, with the anchor. -/
def front (bound : Bindings) (tokens : List Token) : List Char :=
  '\\' :: 'A' :: '(' :: '?' :: ':' :: (cut bound 0 tokens).1

/-- Every bound value stands between two parts of the expression, none of which turns on layout, and
is a single character where an operator of repetition follows. -/
def ValuesApart (bound : Bindings) (tokens : List Token) : Prop :=
  Apart [] (front bound tokens) (cut bound 0 tokens).2

theorem toList_body_regex (bound : Bindings) (index : Nat) (tokens : List Token) :
    (body .regex bound index tokens).1.toList ++ closing =
      (cut bound index tokens).1 ++ behind escapeChars (cut bound index tokens).2 := by
  induction tokens generalizing index with
  | nil => rfl
  | cons token tokens ih =>
    cases token with
    | literal text =>
      simp only [body, cut, reduceCtorEq, if_false, String.toList_append, List.append_assoc, ih]
    | placeholder position name =>
      cases hbound : bound name with
      | some value =>
        simp only [body, cut, hbound, behind, String.toList_append, List.append_assoc, ih,
          Regex.escape, String.toList_ofList, List.nil_append]
      | none =>
        simp only [body, cut, hbound, String.toList_append, List.append_assoc, ih]

theorem toList_groupedBody (bound : Bindings) (index : Nat) (tokens : List Token) :
    (groupedBody bound index tokens).toList ++ closing =
      (cut bound index tokens).1 ++ behind grouped (cut bound index tokens).2 := by
  induction tokens generalizing index with
  | nil => rfl
  | cons token tokens ih =>
    cases token with
    | literal text =>
      simp only [groupedBody, cut, String.toList_append, List.append_assoc, ih]
    | placeholder position name =>
      cases hbound : bound name with
      | some value =>
        have hgrouped : ("(?:" ++ Regex.escape value ++ ")").toList = grouped value.toList := by
          simp [grouped, Regex.escape]
        simp only [groupedBody, cut, hbound, behind, List.nil_append]
        rw [String.toList_append, hgrouped, List.append_assoc, ih]
      | none =>
        simp only [groupedBody, cut, hbound, String.toList_append, List.append_assoc, ih]

/-- Where every bound value stands between two parts of the expression, a group around each value
leaves the matches as they are, unless the groups make the expression exceed a limit. -/
theorem isMatch_grouped {o : TemplateOptions} {bound : Bindings} {template : String}
    {tokens : List Token} {s : Synthesis} (hlex : lex o.delimiters template = .ok tokens)
    (hs : Synthesis.ofTemplate o bound template = .ok s) (hmode : s.mode = .regex)
    (hvalues : ValuesApart bound tokens) :
    (∃ p, Program.compile o.flags (groupedSource bound tokens) = .ok p ∧
        ∀ source, s.isMatch source = p.isMatch source) ∨
      Program.compile o.flags (groupedSource bound tokens) = .error (.malformed .nestedTooDeep) ∨
      Program.compile o.flags (groupedSource bound tokens) =
        .error (.tooLarge Program.sizeLimit) := by
  have hs := Synthesis.of_ofTokens (Synthesis.ofTokens_of_ofTemplate hlex hs)
  cases hs with
  | text => cases hmode
  | @program mode p _ hcompile =>
    cases hmode
    -- Both expressions have the same parts, and differ in how the values are written between them.
    have hplain : (anchored (body .regex bound 0 tokens).1).toList =
        front bound tokens ++ behind escapeChars (cut bound 0 tokens).2 := by
      rw [toList_anchored, toList_body_regex]
      rfl
    have hgrouped : (groupedSource bound tokens).toList =
        front bound tokens ++ behind grouped (cut bound 0 tokens).2 := by
      rw [groupedSource, toList_anchored, toList_groupedBody]
      rfl
    exact compile_grouped hplain hgrouped hvalues hcompile

theorem isMatch_grouped_optional :
    ∃ s p, Synthesis.ofTemplate ⟨.standard, .regex, true⟩ (.ofPairs [("x", "a.b"), ("y", ")")])
        "(~[x]|b+)~[y]?" = .ok s ∧
      Program.compile (flagsOf true) (groupedSource (.ofPairs [("x", "a.b"), ("y", ")")])
        [.literal "(", .placeholder 1 "x", .literal "|b+)", .placeholder 9 "y",
          .literal "?"]) = .ok p ∧
      ∀ source, s.isMatch source = p.isMatch source := by
  have hlex : lex .standard "(~[x]|b+)~[y]?" = .ok [.literal "(", .placeholder 1 "x",
      .literal "|b+)", .placeholder 9 "y", .literal "?"] := by cbv
  have hs : ∃ s, Synthesis.ofTemplate ⟨.standard, .regex, true⟩
      (.ofPairs [("x", "a.b"), ("y", ")")]) "(~[x]|b+)~[y]?" = .ok s ∧ s.mode = .regex :=
    ⟨_, by cbv, by rfl⟩
  have hp : ∃ p, Program.compile (flagsOf true) (groupedSource
      (.ofPairs [("x", "a.b"), ("y", ")")]) [.literal "(", .placeholder 1 "x", .literal "|b+)",
        .placeholder 9 "y", .literal "?"]) = .ok p := ⟨_, by cbv⟩
  have hvalues : ValuesApart (.ofPairs [("x", "a.b"), ("y", ")")]) [.literal "(",
      .placeholder 1 "x", .literal "|b+)", .placeholder 9 "y", .literal "?"] := by
    -- The parts are the start of the text, the group of the anchor and that of the template; then
    -- the bar, a letter, its operator and the closing of the group.
    have hfront : Parts [] ['\\', 'A', '(', '?', ':', '('] [] :=
      .cons rfl (.cons rfl (.cons rfl .nil))
    have hbetween : Parts [] ['|', 'b', '+', ')'] [] :=
      .cons rfl (.cons rfl (.cons rfl (.cons rfl .nil)))
    exact ⟨[], hfront, .inr fun c hc => by cases hc; rfl, [], hbetween, .inl rfl, trivial⟩
  obtain ⟨s, hs, hmode⟩ := hs
  obtain ⟨p, hp⟩ := hp
  -- The expression with the groups compiles, so no limit is exceeded.
  rcases isMatch_grouped hlex hs hmode hvalues with ⟨p', hp', hmatch⟩ | hdeep | hlarge
  · exact ⟨s, p', hs, hp', hmatch⟩
  · cases hp.symm.trans hdeep
  · cases hp.symm.trans hlarge

/-- A backslash of the template takes hold of the parenthesis of a group, or of the backslash that
escapes a value; what follows the value is repeated by its last character only. -/
theorem isMatch_not_grouped :
    (∃ s p, Synthesis.ofTemplate ⟨.standard, .regex, true⟩ (.ofPairs [("x", ")")]) "(\\~[x]" =
        .ok s ∧ s.mode = .regex ∧
      Program.compile (flagsOf true) (groupedSource (.ofPairs [("x", ")")])
        [.literal "(\\", .placeholder 2 "x"]) = .ok p ∧
      s.isMatch "\\" = true ∧ p.isMatch "\\" = false) ∧
    (∃ s p, Synthesis.ofTemplate ⟨.standard, .regex, true⟩ (.ofPairs [("x", "ab")]) "~[x]+" =
        .ok s ∧ s.mode = .regex ∧
      Program.compile (flagsOf true) (groupedSource (.ofPairs [("x", "ab")])
        [.placeholder 0 "x", .literal "+"]) = .ok p ∧
      s.isMatch "abb" = true ∧ p.isMatch "abb" = false) ∧
    ∃ s, Synthesis.ofTemplate ⟨.standard, .regex, true⟩ (.ofPairs [("x", ".")]) "\\~[x]" =
        .ok s ∧ s.mode = .regex ∧
      Program.compile (flagsOf true) (groupedSource (.ofPairs [("x", ".")])
        [.literal "\\", .placeholder 1 "x"]) = .error (.malformed .groupUnopened) := by
  refine ⟨?_, ?_, ?_⟩
  · exact ⟨⟨.program _, _, _⟩, _, by cbv, rfl, by cbv, by cbv, by cbv⟩
  · exact ⟨⟨.program _, _, _⟩, _, by cbv, rfl, by cbv, by cbv, by cbv⟩
  · exact ⟨⟨.program _, _, _⟩, by cbv, rfl, by cbv⟩

end TemplateMatch.Template
