import TemplateMatch.Proofs.Regex.ReturningGroups
import TemplateMatch.Proofs.Template.Anchoring
import TemplateMatch.Proofs.Template.Resolved

/-!
Templates that are forced to be expressions. Without placeholders such a template is read only with
the anchors around it, which is almost as if its text were read alone (`ofTemplate_regex`). They
hide a parenthesis that closes too much, and they are lost behind a comment or add to what is nested
too deeply (`ofTemplate_regex_anchored`).
-/

namespace TemplateMatch

namespace Regex

variable {fl : Flags} {text : String}

/-- The text is an expression under the flags, whatever its size. -/
def IsExpression (fl : Flags) (text : String) : Prop :=
  ∃ tree r, Tree.read text.toList = .ok tree ∧ tree.meaning fl = .ok r

/-- The text goes on over the closing, as a comment does that nothing ends. -/
def TakesClosing (text : String) : Prop :=
  ∃ tree, Tree.read (text.toList ++ closing) = .ok tree

/-- The text is an expression of so many levels that there are none left for the anchors and the
group between them. -/
def LeavesNoLevels (text : String) : Prop :=
  ∃ tree, Tree.read text.toList = .ok tree ∧ Tree.heightLimit < tree.height + 2

theorem compile_malformed_iff :
    (∃ fault, Program.compile fl text = .error (.malformed fault)) ↔ ¬IsExpression fl text := by
  rw [Program.compile]
  constructor
  · rintro ⟨fault, h⟩ ⟨tree, r, hread, hmeaning⟩
    rw [hread] at h
    simp only [hmeaning] at h
    split at h <;> cases h
  · intro hnot
    cases hread : Tree.read text.toList with
    | error fault => exact ⟨fault, rfl⟩
    | ok tree =>
      cases hmeaning : tree.meaning fl with
      | error fault => exact ⟨fault, by simp only [hmeaning]⟩
      | ok r => exact absurd ⟨tree, r, hread, hmeaning⟩ hnot

theorem meaning_between_eq_ok {tree : Tree} :
    (∃ r, tree.between.meaning fl = .ok r) ↔ ∃ r, tree.meaning fl = .ok r := by
  rw [Template.meaning_between]
  cases tree.meaning fl <;> simp [Except.map]

/-- Nothing but the two ways to lose the anchors makes an expression malformed. -/
theorem isExpression_anchored_iff (h : IsExpression fl text) :
    IsExpression fl (Template.anchored text) ↔ ¬(TakesClosing text ∨ LeavesNoLevels text) := by
  obtain ⟨tree, r, hread, hmeaning⟩ := h
  have hlevels : LeavesNoLevels text ↔ Tree.heightLimit < tree.height + 2 := by
    simp only [LeavesNoLevels, hread, Except.ok.injEq, exists_eq_left']
  rw [IsExpression, Template.toList_anchored, hlevels]
  rcases Tree.read_between_cases hread with ⟨hcomment, hwhole⟩ | ⟨hcomment, hwhole⟩
  · have htakes : TakesClosing text := ⟨tree, hcomment⟩
    rw [hwhole]
    exact iff_of_false nofun (not_not.mpr (.inl htakes))
  · have htakes : ¬TakesClosing text := by simp [TakesClosing, hcomment]
    obtain ⟨r', hmeaning'⟩ := meaning_between_eq_ok.mpr ⟨r, hmeaning⟩
    rw [hwhole]
    by_cases hheight : tree.height + 2 ≤ Tree.heightLimit
    · rw [if_pos hheight]
      exact iff_of_true ⟨tree.between, r', rfl, hmeaning'⟩ (by simp [htakes, hheight])
    · rw [if_neg hheight]
      exact iff_of_false nofun (by simp [Nat.lt_of_not_le hheight])

/-- One fault only is hidden by the anchors. -/
theorem isExpression_of_anchored (h : IsExpression fl (Template.anchored text)) :
    IsExpression fl text ∨ Tree.read text.toList = .error .groupUnopened := by
  obtain ⟨whole, r, hread, hmeaning⟩ := h
  rw [Template.toList_anchored] at hread
  refine (Tree.read_of_between hread).imp ?_ id
  rintro ⟨tree, htree⟩
  obtain rfl := Tree.read_between htree hread
  obtain ⟨r, hr⟩ := meaning_between_eq_ok.mp ⟨r, hmeaning⟩
  exact ⟨tree, r, htree, hr⟩

end Regex

namespace Synthesis

open Template Regex

variable {d : Delimiters} {ignoreCase : Bool} {bound : Bindings} {template : String}

/-- The template is refused because its text is no expression. -/
def IsRefused (o : TemplateOptions) (bound : Bindings) (template : String) : Prop :=
  ∃ e, ofTemplate o bound template = .error e ∧ e.isMalformed = true

theorem filledText_of_unplaced {substitution : Substitution} {tokens : List Token}
    (h : tokens.filterMap Token.name? = []) :
    filledText bound substitution tokens = Template.render d tokens := by
  induction tokens with
  | nil => rfl
  | cons token tokens ih =>
    cases token with
    | literal text =>
      rw [filledText_cons, ih h, Template.render, Template.render, List.map_cons,
        String.join_cons]
      rfl
    | placeholder position name => cases h

/-- Without placeholders the whole text is written between the anchors. -/
theorem ofTemplate_regex_of_unplaced (hnames : Template.names d template = .ok []) :
    ofTemplate ⟨d, .regex, ignoreCase⟩ bound template =
      ((Program.compile (flagsOf ignoreCase) (anchored template)).map
        fun p => ⟨.program p, [], .regex⟩).mapError .expression := by
  cases hlex : lex d template with
  | error e => simp only [Template.names, hlex, Except.map, reduceCtorEq] at hnames
  | ok tokens =>
    rw [names_eq_ok hlex] at hnames
    have hunplaced : tokens.filterMap Token.name? = [] := Except.ok.inj hnames
    have hunbound : unboundNames bound tokens = [] := by
      rw [unboundNames, hunplaced]
      rfl
    have htext : filledText bound .quoted tokens = template := by
      rw [filledText_of_unplaced (d := d) hunplaced, render_lex hlex]
    rw [ofTemplate, hlex]
    simp only [ofTokens_regex_of_bound hunbound, htext]

theorem ofTemplate_regex_eq_error_iff (hnames : Template.names d template = .ok [])
    {e : PatternError} : ofTemplate ⟨d, .regex, ignoreCase⟩ bound template = .error e ↔
      ∃ cause, Program.compile (flagsOf ignoreCase) (anchored template) = .error cause ∧
        e = .expression cause := by
  rw [ofTemplate_regex_of_unplaced hnames]
  cases Program.compile (flagsOf ignoreCase) (anchored template) with
  | ok p =>
    constructor
    · intro h
      cases h
    · rintro ⟨cause, h, -⟩
      cases h
  | error cause =>
    constructor
    · intro h
      cases h
      exact ⟨cause, rfl, rfl⟩
    · rintro ⟨_, h, rfl⟩
      cases h
      rfl

theorem isRefused_iff (hnames : Template.names d template = .ok []) :
    IsRefused ⟨d, .regex, ignoreCase⟩ bound template ↔
      ¬IsExpression (flagsOf ignoreCase) (anchored template) := by
  rw [← compile_malformed_iff]
  constructor
  · rintro ⟨e, he, hmalformed⟩
    obtain ⟨cause, hcause, rfl⟩ := (ofTemplate_regex_eq_error_iff hnames).mp he
    cases cause with
    | malformed fault => exact ⟨fault, hcause⟩
    | tooLarge limit => cases hmalformed
  · rintro ⟨fault, hfault⟩
    exact ⟨_, (ofTemplate_regex_eq_error_iff hnames).mpr ⟨_, hfault, rfl⟩, rfl⟩

/-- A template without placeholders that is forced to be an expression fails on its syntax or on its
size. If its text alone is an expression, it is refused exactly where a comment or the number of
levels takes the anchors away. If its text alone is none, it is refused too, unless the text closes
a group that it has not opened. -/
theorem ofTemplate_regex (d : Delimiters) (ignoreCase : Bool) (bound : Bindings)
    {template : String} (hnames : Template.names d template = .ok []) :
    (∀ e, ofTemplate ⟨d, .regex, ignoreCase⟩ bound template = .error e →
      e.isMalformed = true ∨ e.isTooLarge = true) ∧
    (IsExpression (flagsOf ignoreCase) template →
      (IsRefused ⟨d, .regex, ignoreCase⟩ bound template ↔
        TakesClosing template ∨ LeavesNoLevels template)) ∧
    (¬IsExpression (flagsOf ignoreCase) template →
      IsRefused ⟨d, .regex, ignoreCase⟩ bound template ∨
        Tree.read template.toList = .error .groupUnopened) := by
  refine ⟨fun e he => ?_, fun h => ?_, fun h => ?_⟩
  · obtain ⟨cause, -, rfl⟩ := (ofTemplate_regex_eq_error_iff hnames).mp he
    cases cause with
    | malformed fault => exact .inl rfl
    | tooLarge limit => exact .inr rfl
  · rw [isRefused_iff hnames, isExpression_anchored_iff h, not_not]
  · rw [isRefused_iff hnames]
    by_cases hwhole : IsExpression (flagsOf ignoreCase) (anchored template)
    · exact .inr ((isExpression_of_anchored hwhole).resolve_left h)
    · exact .inl hwhole

/-- A comment takes the anchors away from an expression, and nothing hides a class that is not
closed. -/
theorem ofTemplate_regex_comment :
    IsExpression (flagsOf true) "(?x)a #c" ∧
      IsRefused ⟨.standard, .regex, true⟩ .none "(?x)a #c" ∧
    ¬IsExpression (flagsOf false) "[a" ∧ IsRefused ⟨.standard, .regex, false⟩ .none "[a" := by
  have hcomment : IsExpression (flagsOf true) "(?x)a #c" := ⟨_, _, by cbv, by cbv⟩
  have hopen : ¬IsExpression (flagsOf false) "[a" :=
    compile_malformed_iff.mp ⟨.classUnclosed, by cbv⟩
  refine ⟨hcomment, ?_, hopen, ?_⟩
  · have hnames : Template.names .standard "(?x)a #c" = .ok [] := by cbv
    exact ((ofTemplate_regex .standard true .none hnames).2.1 hcomment).mpr (.inl ⟨_, by cbv⟩)
  · have hnames : Template.names .standard "[a" = .ok [] := by cbv
    have hread : Tree.read "[a".toList = .error .classUnclosed := by cbv
    refine ((ofTemplate_regex .standard false .none hnames).2.2 hopen).resolve_right ?_
    rw [hread]
    intro h
    cases h

/-- The anchors make an expression of a text that is none, and none of a text that is one. -/
theorem ofTemplate_regex_anchored :
    (¬IsExpression (flagsOf true) "a)|(b" ∧
      ∃ s, ofTemplate ⟨.standard, .regex, true⟩ .none "a)|(b" = .ok s) ∧
    IsExpression (flagsOf true) "(?x)a #c" ∧
      IsRefused ⟨.standard, .regex, true⟩ .none "(?x)a #c" := by
  refine ⟨⟨compile_malformed_iff.mp ⟨.groupUnopened, by cbv⟩, ⟨.program _, _, _⟩, by cbv⟩,
    ⟨_, _, by cbv, by cbv⟩, _, by cbv, rfl⟩

end Synthesis

end TemplateMatch
