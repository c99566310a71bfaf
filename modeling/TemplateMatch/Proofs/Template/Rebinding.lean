import TemplateMatch.Proofs.Template.Filling
import TemplateMatch.Proofs.Template.Fixed

/-!
Templates under more bindings. A template depends on its own placeholders only, so where all of them
are bound further bindings change nothing (`ofTemplate_eq_of_allBound`). What a template taken
verbatim has matched it matches again once the captured symbols are bound, and then captures nothing
(`keeps_verbatim`), unless a placeholder was captured twice with two values.
-/

namespace TemplateMatch

/-- What is bound has the same value there. -/
def Bindings.Sub (b b' : Bindings) : Prop :=
  ∀ name value, b name = some value → b' name = some value

theorem Bindings.Sub.refl (b : Bindings) : b.Sub b := fun _ _ => id

theorem Bindings.Sub.trans {b b' b'' : Bindings} (h : b.Sub b') (h' : b'.Sub b'') : b.Sub b'' :=
  fun name value hb => h' name value (h name value hb)

namespace Template

variable {bound bound' last : Bindings} {tokens : List Token}

/-! ## Templates without unbound placeholders -/

/-- All placeholders of a template are bound. -/
def AllBound (d : Delimiters) (bound : Bindings) (template : String) : Prop :=
  ∃ tokens, lex d template = .ok tokens ∧ unboundNames bound tokens = []

theorem eq_of_sub (hsub : bound.Sub bound') (h : unboundNames bound tokens = []) :
    ∀ name ∈ tokens.filterMap Token.name?, bound' name = bound name := by
  intro name hname
  obtain ⟨value, hvalue⟩ := Option.isSome_iff_exists.mp (unboundNames_eq_nil_iff.mp h name hname)
  rw [hvalue, hsub name value hvalue]

theorem unboundNames_of_sub (hsub : bound.Sub bound') (h : unboundNames bound tokens = []) :
    unboundNames bound' tokens = [] := by
  rw [unboundNames_eq_nil_iff]
  intro name hname
  rw [eq_of_sub hsub h name hname]
  exact unboundNames_eq_nil_iff.mp h name hname

theorem unboundNames_sublist (hsub : bound.Sub bound') :
    (unboundNames bound' tokens).Sublist (unboundNames bound tokens) := by
  apply List.monotone_filter_right
  intro name hname
  rw [Option.isNone_iff_eq_none] at hname ⊢
  cases hbound : bound name with
  | none => rfl
  | some value => rw [hsub name value hbound] at hname; cases hname

theorem unboundNames_of_bound (hsub : bound.Sub last)
    (h : ∀ name ∈ unboundNames bound tokens, (last name).isSome = true) :
    unboundNames last tokens = [] := by
  rw [unboundNames_eq_nil_iff]
  intro name hname
  cases hbound : bound name with
  | some value => rw [hsub name value hbound]; rfl
  | none => exact h name (List.mem_filter.mpr ⟨hname, Option.isNone_iff_eq_none.mpr hbound⟩)

theorem AllBound.of_sub {d : Delimiters} {template : String} (h : AllBound d bound template)
    (hsub : bound.Sub bound') : AllBound d bound' template := by
  obtain ⟨tokens, hlex, hnone⟩ := h
  exact ⟨tokens, hlex, unboundNames_of_sub hsub hnone⟩

theorem body_congr (mode : TemplateMode) (index : Nat)
    (h : ∀ name ∈ tokens.filterMap Token.name?, bound' name = bound name) :
    body mode bound' index tokens = body mode bound index tokens := by
  induction tokens generalizing index with
  | nil => rfl
  | cons token tokens ih =>
    cases token with
    | literal text => rw [body, body, ih index h]
    | placeholder position name =>
      rw [List.filterMap_cons_some (b := name) (by rfl), List.forall_mem_cons] at h
      rw [body, body, h.1, ih index h.2, ih (index + 1) h.2]

theorem boundText?_congr (h : ∀ name ∈ tokens.filterMap Token.name?, bound' name = bound name) :
    boundText? bound' tokens = boundText? bound tokens := by
  induction tokens with
  | nil => rfl
  | cons token tokens ih =>
    cases token with
    | literal text => rw [boundText?, boundText?, ih h]
    | placeholder position name =>
      rw [List.filterMap_cons_some (b := name) (by rfl), List.forall_mem_cons] at h
      rw [boundText?, boundText?, h.1, ih h.2]

end Template

namespace Synthesis

open Template Regex

variable {o : TemplateOptions} {bound bound' last : Bindings} {tokens : List Token}
  {template : String}

theorem ofTokens_congr (h : ∀ name ∈ tokens.filterMap Token.name?, bound' name = bound name) :
    ofTokens o bound' tokens = ofTokens o bound tokens := by
  have hsource (mode : TemplateMode) : source mode bound' tokens = source mode bound tokens := by
    rw [source, source, body_congr mode 0 h]
  simp only [ofTokens, verbatim, inMode, hsource, boundText?_congr h]

/-- A template whose placeholders are all bound does not change when other symbols are bound. -/
theorem ofTemplate_eq_of_allBound (hsub : bound.Sub bound')
    (h : AllBound o.delimiters bound template) :
    ofTemplate o bound' template = ofTemplate o bound template := by
  obtain ⟨tokens, hlex, hnone⟩ := h
  rw [ofTemplate, ofTemplate, hlex]
  simp only [ofTokens_congr (o := o) (eq_of_sub hsub hnone)]

/-- A template whose placeholders are all bound captures nothing. -/
theorem captures_of_allBound {s : Synthesis} {source : String} {cs : List (String × String)}
    (h : AllBound o.delimiters bound template) (hs : ofTemplate o bound template = .ok s)
    (hc : s.captures source = some cs) : cs = [] := by
  obtain ⟨tokens, hlex, hnone⟩ := h
  have hof := of_ofTokens (ofTokens_of_ofTemplate hlex hs)
  rw [← List.map_eq_nil_iff, hof.map_fst_captures hc, hof.names_eq, hnone]

/-! ## Matching again -/

/-- What the template has matched under bindings between the first and the last it matches again
under the last, if these have what it captured, and then captures nothing. -/
def Keeps (o : TemplateOptions) (first last : Bindings) (template : String) : Prop :=
  ∀ bound s source cs, first.Sub bound → bound.Sub last → ofTemplate o bound template = .ok s →
    s.captures source = some cs → Bindings.Sub (.ofPairs cs) last →
    ∃ s', ofTemplate o last template = .ok s' ∧ s'.captures source = some []

theorem keeps_of_allBound (h : AllBound o.delimiters bound template) :
    Keeps o bound last template := by
  intro bound' s source cs hfirst hlast hs hc _
  have hbound := h.of_sub hfirst
  rw [ofTemplate_eq_of_allBound hlast hbound]
  cases captures_of_allBound hbound hs hc
  exact ⟨s, hs, hc⟩

/-- Distinct names have the values of their pairs. -/
theorem ofPairs_of_mem {cs : List (String × String)} (hn : (cs.map Prod.fst).Nodup)
    {name value : String} (h : (name, value) ∈ cs) : Bindings.ofPairs cs name = some value := by
  rw [Bindings.ofPairs]
  refine lookup_of_mem ?_ (List.mem_reverse.mpr h)
  rw [List.map_reverse]
  exact List.nodup_reverse.mpr hn

/-- The symbols that were captured have their values in the source, wherever they are bound. -/
theorem spells_again {ignoreCase : Bool} {values : List String} {source : String}
    (h : Spells ignoreCase bound tokens values source) (hsub : bound.Sub last)
    (hvalues : ∀ c ∈ (unboundNames bound tokens).zip values, last c.1 = some c.2) :
    Spells ignoreCase last tokens [] source := by
  induction h with
  | nil => exact .nil
  | literal hsame _ ih => exact .literal hsame (ih hvalues)
  | value hbound hsame _ ih =>
    rw [unboundNames_placeholder, hbound] at hvalues
    exact .value (hsub _ _ hbound) hsame (ih hvalues)
  | @capture position name value _ _ _ hbound _ ih =>
    rw [unboundNames_placeholder, hbound, Option.isNone_none, if_pos rfl, List.zip_cons_cons,
      List.forall_mem_cons] at hvalues
    have hsame : SameText ignoreCase value value := by
      unfold SameText
      split <;> rfl
    exact .value hvalues.1 hsame (ih hvalues.2)

theorem unboundNames_of_spells {ignoreCase : Bool} {source : String}
    (h : Spells ignoreCase bound tokens [] source) : unboundNames bound tokens = [] := by
  generalize hvalues : ([] : List String) = values at h
  induction h with
  | nil => rfl
  | literal _ _ ih => exact ih hvalues
  | value hbound _ _ ih =>
    rw [unboundNames_placeholder, hbound]
    exact ih hvalues
  | capture => cases hvalues

/-- The tokens stand for a source with the values that were captured in it. -/
theorem Of.spells {s : Synthesis} {source : String} {cs : List (String × String)}
    (h : Of o bound tokens s) (hmode : s.mode = .literal) {p : Program}
    (hp : s.matcher = .program p) (hc : s.captures source = some cs) :
    Spells o.ignoreCase bound tokens (cs.map Prod.snd) source := by
  simp only [captures, hp] at hc
  obtain ⟨m, hm, rfl⟩ := Option.map_eq_some_iff.mp hc
  obtain ⟨start, hstart, stop, spans, hl, rfl⟩ := Expr.find_eq_some hm
  rw [expr_of_literal h hmode hp] at hl
  rw [capturesOf_ofSpans, map_snd_mapIdx_valueOf, h.names_eq]
  exact (captured_verbatim hl hstart).2

/-- With what was captured bound, and no unbound placeholder twice, the tokens stand for the source
with nothing left to capture. -/
theorem Of.spells_bound {s : Synthesis} {source : String} {cs : List (String × String)}
    (h : Of o bound tokens s) (hmode : s.mode = .literal) {p : Program}
    (hp : s.matcher = .program p) (hc : s.captures source = some cs)
    (hlinear : (unboundNames bound tokens).Nodup) (hsub : bound.Sub last)
    (hcaptured : Bindings.Sub (.ofPairs cs) last) : Spells o.ignoreCase last tokens [] source := by
  have hnames : cs.map Prod.fst = unboundNames bound tokens :=
    (h.map_fst_captures hc).trans h.names_eq
  refine spells_again (h.spells hmode hp hc) hsub ?_
  rw [← hnames] at hlinear ⊢
  rw [← List.unzip_fst, ← List.unzip_snd, List.zip_unzip]
  exact fun c hcs => hcaptured _ _ (ofPairs_of_mem hlinear hcs)

/-- A text that the tokens stand for is matched, with nothing to capture. -/
theorem captures_verbatim {source : String} (hmode : o.modeFor tokens = .literal)
    (h : Spells o.ignoreCase bound tokens [] source)
    (hsize : o.ignoreCase = false ∨ ∀ limit, Program.compile o.flags
      (Template.source .literal bound tokens).1 ≠ .error (.tooLarge limit)) :
    ∃ s, ofTokens o bound tokens = .ok s ∧ s.captures source = some [] := by
  have hnone := unboundNames_of_spells h
  obtain ⟨text, htext⟩ := exists_boundText? (unboundNames_eq_nil_iff.mp hnone)
  have hflags : o.flags = flagsOf o.ignoreCase := rfl
  rw [ofTokens, hmode]
  by_cases hfits : (verbatimExpr o.ignoreCase (pieces bound 0 tokens)).size ≤ Program.sizeLimit
  · simp only [verbatim, inMode, hflags, compile_source_literal, if_pos hfits]
    refine ⟨_, rfl, ?_⟩
    obtain ⟨m, hm⟩ := Option.isSome_iff_exists.mp (find_pieces_isSome_iff.mpr ⟨[], h⟩)
    simp only [captures, Program.find, hm, names_source, hnone]
    rfl
  · -- The template is compared as a text, which is exact where case is observed.
    have hcase : o.ignoreCase = false := by
      refine hsize.resolve_right fun hsize => hsize Program.sizeLimit ?_
      rw [hflags, compile_source_literal, if_neg hfits]
    simp only [verbatim, inMode, hflags, compile_source_literal, if_neg hfits, htext]
    refine ⟨_, rfl, ?_⟩
    rw [hcase, spells_iff_of_boundText? htext] at h
    simp [captures, textMatches, hcase, h.2]

/-- Taken verbatim, a template in which no unbound placeholder stands twice keeps its matches. -/
theorem keeps_verbatim (hlex : lex o.delimiters template = .ok tokens)
    (hmode : o.modeFor tokens = .literal) (hlinear : (unboundNames bound tokens).Nodup)
    (hsize : o.ignoreCase = false ∨ ∀ limit,
      Program.compile o.flags (Template.source .literal last tokens).1 ≠ .error (.tooLarge limit)) :
    Keeps o bound last template := by
  intro bound' s source cs hfirst hlast hs hc hcaptured
  have hof := of_ofTokens (ofTokens_of_ofTemplate hlex hs)
  have hliteral : s.mode = .literal := by
    have htokens := ofTokens_of_ofTemplate hlex hs
    rw [ofTokens, hmode] at htokens
    exact mode_of_verbatim htokens
  cases hm : s.matcher with
  | text text ignoreCase =>
    have hbound : AllBound o.delimiters bound' template := by
      refine ⟨tokens, hlex, ?_⟩
      cases hof with
      | program => cases hm
      | text htext => exact unboundNames_of_boundText? htext
    exact keeps_of_allBound hbound bound' s source cs (.refl bound') hlast hs hc hcaptured
  | program p =>
    have hlinear' := hlinear.sublist (unboundNames_sublist hfirst)
    have hagain := hof.spells_bound hliteral hm hc hlinear' hlast hcaptured
    obtain ⟨s', hs', hc'⟩ := captures_verbatim hmode hagain hsize
    refine ⟨s', ?_, hc'⟩
    rw [ofTemplate, hlex]
    simp only [hs']
    rfl

/-- What a template taken verbatim has matched with case observed it resolves to, once what it has
captured is bound. -/
theorem resolve_of_captures {s : Synthesis} {source : String} {cs : List (String × String)}
    (hmode : o.mode = .literal) (hcase : o.ignoreCase = false)
    (hlex : lex o.delimiters template = .ok tokens) (hlinear : (unboundNames bound tokens).Nodup)
    (hs : ofTemplate o bound template = .ok s) (hc : s.captures source = some cs)
    (hsub : bound.Sub last) (hcaptured : Bindings.Sub (.ofPairs cs) last) :
    Template.resolve o.delimiters last .plain template = .ok source := by
  have htokens := ofTokens_of_ofTemplate hlex hs
  have hof := of_ofTokens htokens
  have hliteral : s.mode = .literal := by
    rw [ofTokens, TemplateOptions.modeFor, hmode] at htokens
    exact mode_of_verbatim htokens
  have hspells : Spells false last tokens [] source := by
    cases hm : s.matcher with
    | program p =>
      have hspells := hof.spells_bound hliteral hm hc hlinear hsub hcaptured
      rwa [hcase] at hspells
    | text text ignoreCase =>
      -- The text of the template is compared directly, so it is the source.
      cases hof with
      | program => cases hm
      | text htext =>
        simp only [captures, textMatches, hcase, Bool.false_eq_true, if_false, beq_iff_eq] at hc
        split at hc
        · next heq =>
          subst heq
          have hfirst := (spells_iff_of_boundText? htext).mpr ⟨rfl, rfl⟩
          refine spells_again hfirst hsub ?_
          rw [unboundNames_of_boundText? htext]
          exact fun _ hname => absurd hname List.not_mem_nil
        · cases hc
  obtain ⟨text, htext⟩ :=
    exists_boundText? (unboundNames_eq_nil_iff.mp (unboundNames_of_spells hspells))
  obtain ⟨-, rfl⟩ := (spells_iff_of_boundText? htext).mp hspells
  rw [Template.resolve, hlex]
  exact resolveTokens_plain htext

/-! ## Templates read as expressions -/

/-- The values for the groups of names. -/
def fillings (last : Bindings) (names : List String) : List (String × String) :=
  names.mapIdx fun i name => (groupName i, (last name).getD "")

theorem exists_of_lookup_fillings {names : List String} {group value : String}
    (h : (fillings last names).lookup group = some value) :
    ∃ i name, names[i]? = some name ∧ group = groupName i ∧ value = (last name).getD "" := by
  obtain ⟨i, hi⟩ := List.mem_iff_getElem?.mp (mem_of_lookup h)
  rw [fillings, List.getElem?_mapIdx] at hi
  obtain ⟨name, hname, heq⟩ := Option.map_eq_some_iff.mp hi
  cases heq
  exact ⟨i, name, hname, rfl, rfl⟩

end Synthesis

open Regex in
/-- Read as an expression, tokens have a group for each unbound placeholder that stands once, in no
repetition. With the values in the place of these groups it is the expression that the tokens are
read as once the placeholders are bound. -/
def Template.Fills (o : TemplateOptions) (bound last : Bindings) (tokens : List Token) : Prop :=
  ∃ tree p, Tree.read (source .regex bound tokens).1.toList = .ok tree ∧
    Program.compile o.flags (source .regex bound tokens).1 = .ok p ∧
    (∀ i < (unboundNames bound tokens).length, p.expr.Solitary (groupName i)) ∧
    Tree.read (source .regex last tokens).1.toList =
      .ok (tree.fill (Synthesis.fillings last (unboundNames bound tokens))) ∧
    ∀ limit, Program.compile o.flags (source .regex last tokens).1 ≠ .error (.tooLarge limit)

/-- It matters only what is bound of the names that the tokens have. -/
theorem Template.Fills.congr {o : TemplateOptions} {bound bound' last : Bindings}
    {tokens : List Token} (hfills : Fills o bound last tokens)
    (h : ∀ name ∈ tokens.filterMap Token.name?, bound' name = bound name) :
    Fills o bound' last tokens := by
  have hsource : source .regex bound' tokens = source .regex bound tokens := by
    rw [source, source, body_congr .regex 0 h]
  have hnames : unboundNames bound' tokens = unboundNames bound tokens :=
    List.filter_congr fun name hname => by rw [h name hname]
  rwa [Fills, hsource, hnames]

namespace Synthesis

open Template Regex

variable {o : TemplateOptions} {bound bound' last : Bindings} {tokens : List Token}
  {template : String}

theorem ofTokens_regex {p : Program} (hmode : o.modeFor tokens = .regex)
    (hp : Program.compile o.flags (Template.source .regex bound tokens).1 = .ok p) :
    ofTokens o bound tokens = .ok ⟨.program p, unboundNames bound tokens, .regex⟩ := by
  rw [ofTokens, hmode]
  simp only [inMode, hp, names_source]

/-- Without unbound placeholders, what is matched is matched with nothing to capture. -/
theorem captures_regex {p : Program} {source : String}
    (hlex : lex o.delimiters template = .ok tokens) (hmode : o.modeFor tokens = .regex)
    (hp : Program.compile o.flags (Template.source .regex bound tokens).1 = .ok p)
    (hnone : unboundNames bound tokens = []) (hfound : (p.find source).isSome = true) :
    ∃ s, ofTemplate o bound template = .ok s ∧ s.captures source = some [] := by
  obtain ⟨m, hm⟩ := Option.isSome_iff_exists.mp hfound
  refine ⟨⟨.program p, [], .regex⟩, ?_, ?_⟩
  · rw [ofTemplate, hlex]
    simp only [ofTokens_regex hmode hp, hnone]
    rfl
  · simp only [captures, hm]
    rfl

/-- The groups of a match have the texts of the values that were captured. -/
theorem agrees_fillings {e : Expr} {names : List String} {p q : Position} {spans : List Span}
    (hl : Leads e p q spans) (hsolitary : ∀ i < names.length, e.Solitary (groupName i))
    (hlast : ∀ i name, names[i]? = some name → last name = some (valueOf spans i)) :
    Agrees (fillings last names) spans := by
  intro s hs value hvalue
  obtain ⟨i, name, hname, hgroup, rfl⟩ := exists_of_lookup_fillings hvalue
  have hlt : i < names.length := (List.getElem?_eq_some_iff.mp hname).1
  have honce := hsolitary i hlt
  rw [← hgroup] at honce
  have htext : valueOf spans i = String.ofList (s.2.1.textTo s.2.2) := by
    rw [valueOf, ← hgroup, honce.lookup_eq hl hs]
    rfl
  rw [hlast i name hname, Option.getD_some, htext, String.toList_ofList]

theorem exists_meaning_of_compile {fl : Flags} {written : String} {tree : Tree} {p : Program}
    (hread : Tree.read written.toList = .ok tree) (hp : Program.compile fl written = .ok p) :
    ∃ after, tree.meaning fl = .ok (p.expr, after) := by
  rw [Program.compile, hread] at hp
  simp only at hp
  split at hp
  · cases hp
  · next a after hmeaning =>
    split at hp
    · cases hp
      exact ⟨after, hmeaning⟩
    · cases hp

theorem compile_of_meaning {fl after : Flags} {written : String} {tree : Tree} {a : Expr}
    (hread : Tree.read written.toList = .ok tree) (hmeaning : tree.meaning fl = .ok (a, after))
    (hsize : ∀ limit, Program.compile fl written ≠ .error (.tooLarge limit)) :
    Program.compile fl written = .ok ⟨written, a⟩ := by
  by_cases hfits : a.size ≤ Program.sizeLimit
  · rw [Program.compile, hread]
    simp only [hmeaning, if_pos hfits]
  · refine absurd ?_ (hsize Program.sizeLimit)
    rw [Program.compile, hread]
    simp only [hmeaning, if_neg hfits]

/-- Read as an expression in which every unbound placeholder is a group of its own, a template
keeps its matches. -/
theorem keeps_expression (hlex : lex o.delimiters template = .ok tokens)
    (hmode : o.modeFor tokens = .regex) (hlinear : (unboundNames bound tokens).Nodup)
    (hfills : ∀ between, bound.Sub between → between.Sub last →
      unboundNames between tokens ≠ [] → Fills o between last tokens) :
    Keeps o bound last template := by
  intro between s source cs hfirst hlast hs hc hcaptured
  by_cases hunbound : unboundNames between tokens = []
  · exact keeps_of_allBound ⟨tokens, hlex, hunbound⟩ between s source cs (.refl between) hlast hs
      hc hcaptured
  · obtain ⟨tree, p, hread, hp, hsolitary, hread', hsize⟩ := hfills between hfirst hlast hunbound
    have htokens := ofTokens_of_ofTemplate hlex hs
    rw [ofTokens_regex hmode hp] at htokens
    cases htokens
    obtain ⟨m, hm, rfl⟩ := Option.map_eq_some_iff.mp hc
    obtain ⟨start, hstart, stop, spans, hl, rfl⟩ := Expr.find_eq_some hm
    have hn : ((capturesOf (unboundNames between tokens) (.ofSpans start stop spans)).map
        Prod.fst).Nodup := by
      rw [map_fst_capturesOf]
      exact hlinear.sublist (unboundNames_sublist hfirst)
    have hvalue (i : Nat) (name : String) (hname : (unboundNames between tokens)[i]? = some name) :
        last name = some (valueOf spans i) := by
      refine hcaptured _ _ (ofPairs_of_mem hn ?_)
      rw [capturesOf_ofSpans]
      apply List.mem_of_getElem? (i := i)
      rw [List.getElem?_mapIdx, hname, Option.map_some]
    have hnone : unboundNames last tokens = [] := by
      refine unboundNames_of_bound hlast fun name hname => ?_
      obtain ⟨i, hi⟩ := List.mem_iff_getElem?.mp hname
      rw [hvalue i name hi]
      rfl
    -- The expression with the values in the place of the groups has the match as well.
    obtain ⟨after, hmeaning⟩ := exists_meaning_of_compile hread hp
    obtain ⟨a, ha, hcovers⟩ :=
      Tree.meaning_fill hmeaning (fillings last (unboundNames between tokens))
    have hp' := compile_of_meaning hread' ha hsize
    obtain ⟨spans', hl'⟩ := hcovers _ _ _ hl (agrees_fillings hl hsolitary hvalue)
    have hfound : (a.find source.toList).isSome = true :=
      Expr.find_isSome_iff.mpr ⟨start, hstart, stop, spans', hl'⟩
    exact captures_regex hlex hmode hp' hnone hfound

end Synthesis

/-- A template of which a match stays one when what it captured is bound: no placeholder is unbound
at first, or none of those that are stands twice and each is replaced by its value when it is bound.
Where the text is taken verbatim that is so unless it is too large to be compiled, which does not
matter if case is observed; as an expression it must be read so. -/
def Template.Repeatable (o : TemplateOptions) (first last : Bindings) (template : String) : Prop :=
  ∃ tokens, lex o.delimiters template = .ok tokens ∧
    (unboundNames first tokens = [] ∨ (unboundNames first tokens).Nodup ∧
      (o.modeFor tokens = .literal ∧ (o.ignoreCase = false ∨ ∀ limit,
          Regex.Program.compile o.flags (Template.source .literal last tokens).1 ≠
            .error (.tooLarge limit)) ∨
        o.modeFor tokens = .regex ∧ ∀ bound, first.Sub bound → bound.Sub last →
          unboundNames bound tokens ≠ [] → Fills o bound last tokens))

/-- A template with a single placeholder is repeatable as an expression if its group can be filled. -/
theorem Template.Repeatable.of_single {o : TemplateOptions} {first last : Bindings}
    {template name : String} {tokens : List Token} (hlex : lex o.delimiters template = .ok tokens)
    (hmode : o.modeFor tokens = .regex) (hnames : tokens.filterMap Token.name? = [name])
    (hfills : Fills o .none last tokens) : Repeatable o first last template := by
  refine ⟨tokens, hlex, .inr ⟨?_, .inr ⟨hmode, fun bound _ _ hunbound => hfills.congr ?_⟩⟩⟩
  · rw [unboundNames, hnames]
    exact (List.nodup_singleton name).filter _
  · rw [hnames, List.forall_mem_singleton]
    cases hbound : bound name with
    | none => rfl
    | some value => simp [unboundNames, hnames, hbound] at hunbound

theorem Synthesis.keeps_of_repeatable {o : TemplateOptions} {first last : Bindings}
    {template : String} (h : Template.Repeatable o first last template) :
    Keeps o first last template := by
  obtain ⟨tokens, hlex, hnone | ⟨hlinear, ⟨hmode, hsize⟩ | ⟨hmode, hfills⟩⟩⟩ := h
  · exact keeps_of_allBound ⟨tokens, hlex, hnone⟩
  · exact keeps_verbatim hlex hmode hlinear hsize
  · exact keeps_expression hlex hmode hlinear hfills

end TemplateMatch
