import TemplateMatch.Proofs.Regex.Sweep
import TemplateMatch.Proofs.Template.Captures

/-!
Which values are captured. A template taken verbatim may stand for one source in several ways. Its
placeholders are tried from left to right, each from the empty text on, so the way that is found is
the preferred one: where another way first has another value, it has a longer one
(`literal_captures_shortest`).
-/

namespace TemplateMatch.Template

open Regex
open Thread (sweep)

/-! ## Preference -/

/-- The first values that differ differ in that the one is a shorter beginning of the other. -/
inductive Preferred : List (List Char) → List (List Char) → Prop
  | here {v w : List Char} {vs ws : List (List Char)} :
    v <+: w → v ≠ w → Preferred (v :: vs) (w :: ws)
  | there {v : List Char} {vs ws : List (List Char)} :
    Preferred vs ws → Preferred (v :: vs) (v :: ws)

namespace Preferred

variable {us vs ws : List (List Char)}

theorem trans (h : Preferred us vs) (h' : Preferred vs ws) : Preferred us ws := by
  induction h generalizing ws with
  | @here u v _ _ hle hne =>
    cases h' with
    | here hle' hne' =>
      refine .here (hle.trans hle') fun heq => ?_
      -- Both are beginnings of each other, and so the same.
      subst heq
      exact hne' (hle'.eq_of_length_le hle.length_le)
    | there => exact .here hle hne
  | there _ ih =>
    cases h' with
    | here hle hne => exact .here hle hne
    | there h' => exact .there (ih h')

theorem append (h : Preferred vs ws) (xs ys : List (List Char)) :
    Preferred (vs ++ xs) (ws ++ ys) := by
  induction h with
  | here hle hne => exact .here hle hne
  | there _ ih => exact .there ih

theorem append_left (us : List (List Char)) (h : Preferred vs ws) :
    Preferred (us ++ vs) (us ++ ws) := by
  induction us with
  | nil => exact h
  | cons u us ih => exact .there ih

/-- By any measure by which a beginning of a text is less than the text, the preferred values are
less in lexicographic order. -/
theorem map_lt {f : List Char → Nat} (hf : ∀ v w, v <+: w → v ≠ w → f v < f w)
    (h : Preferred vs ws) : vs.map f < ws.map f := by
  induction h with
  | here hle hne =>
    rw [List.map_cons, List.map_cons, List.cons_lt_cons_iff]
    exact .inl (hf _ _ hle hne)
  | there _ ih =>
    rw [List.map_cons, List.map_cons, List.cons_lt_cons_iff]
    exact .inr ⟨rfl, ih⟩

end Preferred

/-- The same values, or preferred ones. -/
def NoWorse (vs ws : List (List Char)) : Prop := vs = ws ∨ Preferred vs ws

namespace NoWorse

variable {us vs ws : List (List Char)}

theorem trans (h : NoWorse us vs) (h' : NoWorse vs ws) : NoWorse us ws := by
  rcases h with rfl | h
  · exact h'
  · rcases h' with rfl | h'
    · exact .inr h
    · exact .inr (h.trans h')

theorem append (h : NoWorse vs ws) (xs : List (List Char)) : NoWorse (vs ++ xs) (ws ++ xs) := by
  rcases h with rfl | h
  · exact .inl rfl
  · exact .inr (h.append xs xs)

theorem map_le {f : List Char → Nat} (hf : ∀ v w, v <+: w → v ≠ w → f v < f w)
    (h : NoWorse vs ws) : vs.map f ≤ ws.map f := by
  rcases h with rfl | h
  · exact le_refl _
  · exact le_of_lt (h.map_lt hf)

end NoWorse

/-! ## Threads in the order of preference -/

/-- The texts of the groups that a thread has completed, in order. -/
def taken (t : Thread) : List (List Char) := (texts t.groups).map Prod.snd

/-- A thread that has opened a group and has come so much further, after closing the group. -/
theorem taken_closeGroup (name : String) {t : Thread} {n : Nat} (hn : n ≤ t.pos.rest.length) :
    taken (((t.openGroup.enterLoop none).ahead n).closeGroup name) =
      taken t ++ [t.pos.rest.take n] := by
  change (texts ((name, t.pos, t.pos.skip n) :: t.groups)).map Prod.snd = _
  rw [texts, List.reverse_cons, List.map_append, List.map_append, ← Position.textTo_skip hn]
  rfl

/-- Threads in a text, in the order of preference of what they have taken. -/
structure Ranked (text : List Char) (ts : List Thread) : Prop where
  inside : Inside text ts
  ordered : ts.Pairwise fun t u => Preferred (taken t) (taken u)

namespace Ranked

variable {text : List Char} {ts : List Thread}

theorem step (h : Ranked text ts) (s : CharSet) : Ranked text (ts.filterMap (Thread.step s)) := by
  constructor
  · intro u hu
    obtain ⟨t, ht, hstep⟩ := List.mem_filterMap.mp hu
    obtain ⟨spans, hleads, _⟩ := Thread.step_reaches hstep
    exact hleads.mem_all (h.inside t ht)
  · rw [List.pairwise_filterMap]
    refine h.ordered.imp fun {t u} htu t' ht' u' hu' => ?_
    obtain ⟨_, _, _, _, rfl⟩ := Thread.step_eq_some ht'
    obtain ⟨_, _, _, _, rfl⟩ := Thread.step_eq_some hu'
    exact htu

/-- The threads inside of a hole. -/
theorem opened (h : Ranked text ts) :
    Ranked text (ts.map fun t => t.openGroup.enterLoop none) := by
  constructor
  · intro u hu
    obtain ⟨t, ht, rfl⟩ := List.mem_map.mp hu
    exact h.inside t ht
  · rw [List.pairwise_map]
    exact h.ordered

end Ranked

theorem run_hole {text : List Char} {ts : List Thread} (ignoreCase : Bool) (index : Nat)
    (hts : Inside text ts) :
    ((Piece.hole index).expr ignoreCase).run none ts =
      (sweep (text.length + 1) (ts.map fun t => t.openGroup.enterLoop none)).map
        (Thread.closeGroup (groupName index)) := by
  have hinside : Inside text (ts.map Thread.openGroup) := by
    intro u hu
    obtain ⟨t, ht, rfl⟩ := List.mem_map.mp hu
    exact hts t ht
  rw [Piece.expr, Expr.run, run_lazyDot hinside, List.map_map]
  rfl

/-- What a hole takes from a thread in a text, up to a place there. -/
theorem taken_of_mem {text : List Char} {ts : List Thread} (h : Ranked text ts) (name : String)
    {t' : Thread} (ht' : t' ∈ ts.map fun t => t.openGroup.enterLoop none) {n : Nat}
    (hn : t'.pos.index + n < text.length + 1) :
    n ≤ t'.pos.rest.length ∧
      taken ((t'.ahead n).closeGroup name) = taken t' ++ [t'.pos.rest.take n] := by
  obtain ⟨t, ht, rfl⟩ := List.mem_map.mp ht'
  have hlen := Position.index_add_length (h.inside t ht)
  have hn' : n ≤ t.pos.rest.length := by
    change t.pos.index + n < text.length + 1 at hn
    omega
  exact ⟨hn', taken_closeGroup name hn'⟩

namespace Ranked

variable {text : List Char} {ts : List Thread}

theorem hole (h : Ranked text ts) (ignoreCase : Bool) (index : Nat) :
    Ranked text (((Piece.hole index).expr ignoreCase).run none ts) := by
  rw [run_hole ignoreCase index h.inside]
  constructor
  · intro x hx
    obtain ⟨y, hy, rfl⟩ := List.mem_map.mp hx
    obtain ⟨t', ht', n, hn, rfl⟩ := Thread.mem_sweep hy
    rw [Thread.pos_closeGroup]
    exact Position.skip_mem_all (h.opened.inside t' ht') (taken_of_mem h (groupName index) ht' hn).1
  · rw [List.pairwise_map]
    refine Thread.pairwise_sweep h.opened.ordered (fun t ht m n hlt hn => ?_)
      fun t ht u hu m n htu hm hn => ?_
    · obtain ⟨hn', htaken⟩ := taken_of_mem h (groupName index) ht hn
      rw [htaken, (taken_of_mem h (groupName index) ht (by omega)).2]
      refine .append_left _ (.here (List.take_prefix_take_left (by omega)) fun heq => ?_)
      have hlength := congrArg List.length heq
      rw [List.length_take, List.length_take] at hlength
      omega
    · rw [(taken_of_mem h (groupName index) ht hm).2,
        (taken_of_mem h (groupName index) hu (by omega)).2]
      exact htu.append _ _

end Ranked

theorem run_ofList_cons (a : Expr) (as : List Expr) (ts : List Thread) :
    (Expr.ofList (a :: as)).run none ts = (Expr.ofList as).run none (a.run none ts) := by
  cases as with
  | nil => rfl
  | cons b as => rfl

theorem Ranked.pieces {text : List Char} {ts : List Thread} (h : Ranked text ts)
    (ignoreCase : Bool) (ps : List Piece) :
    Ranked text ((Expr.ofList (ps.map (Piece.expr ignoreCase))).run none ts) := by
  induction ps generalizing ts with
  | nil => exact h
  | cons piece ps ih =>
    rw [List.map_cons, run_ofList_cons]
    cases piece with
    | char c => exact ih (h.step _)
    | hole index => exact ih (h.hole ignoreCase index)

/-- A text ahead of a thread is taken from it, or a preferred one from a thread before it. -/
theorem exists_run_hole {text : List Char} {ts : List Thread} (h : Ranked text ts)
    (ignoreCase : Bool) (index : Nat) {t : Thread} (ht : t ∈ ts) {value rest : List Char}
    (hrest : t.pos.rest = value ++ rest) :
    ∃ u ∈ ((Piece.hole index).expr ignoreCase).run none ts,
      u.pos = t.pos.skip value.length ∧ NoWorse (taken u) (taken t ++ [value]) := by
  have hinside := h.inside t ht
  have hlen := Position.index_add_length hinside
  have hlong : t.pos.rest.length = value.length + rest.length := by rw [hrest, List.length_append]
  have hreach : t.pos.index + value.length < text.length + 1 := by omega
  obtain ⟨v, hv, m, hvt, hindex, hmem⟩ :=
    Thread.exists_sweep h.opened.ordered (List.mem_map_of_mem ht) (n := value.length) hreach
  change v.pos.index + m = t.pos.index + value.length at hindex
  obtain ⟨hm, htaken⟩ := taken_of_mem h (groupName index) hv (n := m) (by omega)
  rw [run_hole ignoreCase index h.inside]
  refine ⟨_, List.mem_map_of_mem hmem, ?_, ?_⟩
  · rw [Thread.pos_closeGroup, Thread.pos_ahead]
    refine Position.eq_of_index_eq (Position.skip_mem_all (h.opened.inside v hv) hm)
      (Position.skip_mem_all hinside (by omega)) ?_
    rw [Position.index_skip hm, Position.index_skip (by omega), hindex]
  · rw [htaken]
    rcases hvt with ⟨rfl, rfl⟩ | hvt
    · refine .inl ?_
      change taken t ++ [t.pos.rest.take value.length] = _
      rw [hrest, List.take_left]
    · exact .inr (hvt.append _ _)

/-- Whatever the pieces stand for is found from a thread, with the values in it or preferred
ones. -/
theorem exists_run_pieces {ignoreCase : Bool} {ps : List Piece} {values : List (List Char)}
    {part : List Char} (hspells : Piece.Spells ignoreCase ps values part) {text : List Char}
    {ts : List Thread} (h : Ranked text ts) {t : Thread} (ht : t ∈ ts) {rest : List Char}
    (hrest : t.pos.rest = part ++ rest) :
    ∃ u ∈ (Expr.ofList (ps.map (Piece.expr ignoreCase))).run none ts,
      u.pos = t.pos.skip part.length ∧ NoWorse (taken u) (taken t ++ values) := by
  induction hspells generalizing ts t with
  | nil => exact ⟨t, ht, rfl, .inl (List.append_nil _).symm⟩
  | @char c d ps values part hd _ ih =>
    rw [List.map_cons, run_ofList_cons]
    rw [List.cons_append] at hrest
    have hstep : t.step (Piece.matched ignoreCase c) =
        some { t with pos := ⟨t.pos.index + 1, some d, part ++ rest⟩, trail := [] } := by
      rw [Thread.step, hrest]
      exact if_pos hd
    obtain ⟨u, hu, hpos, htaken⟩ :=
      ih (h.step _) (List.mem_filterMap.mpr ⟨t, ht, hstep⟩) rfl
    exact ⟨u, hu, by rw [hpos, List.length_cons, Position.skip_succ hrest], htaken⟩
  | @hole index value ps values part _ ih =>
    rw [List.map_cons, run_ofList_cons]
    rw [List.append_assoc] at hrest
    obtain ⟨v, hv, hpos, htaken⟩ := exists_run_hole h ignoreCase index ht hrest
    have hbehind : v.pos.rest = part ++ rest := by
      rw [hpos, Position.rest_skip, hrest, List.drop_left]
    obtain ⟨u, hu, hpos', htaken'⟩ := ih (h.hole ignoreCase index) hv hbehind
    refine ⟨u, hu, ?_, ?_⟩
    · rw [hpos', hpos, Position.skip_add, List.length_append]
    · have hvalues := htaken'.trans (htaken.append values)
      rwa [List.append_assoc, List.singleton_append] at hvalues

/-! ## The whole text -/

theorem before_of_mem_onward {index : Nat} {c : Char} {text : List Char} {p : Position}
    (h : p ∈ Position.onward index (some c) text) : p.before.isNone = false := by
  induction text generalizing index c with
  | nil =>
    rw [List.mem_singleton.mp h]
    rfl
  | cons d text ih =>
    rcases List.mem_cons.mp h with rfl | h
    · rfl
    · exact ih h

/-- Only the place before the text has nothing in front. -/
theorem filter_textStart (text : List Char) :
    (Position.all text).filter (fun p => Look.textStart.holds p) = [Position.start text] := by
  cases text with
  | nil => rfl
  | cons c text =>
    rw [Position.all, Position.onward, List.filter_cons_of_pos rfl, List.filter_eq_nil_iff.mpr]
    · rfl
    · intro p hp
      rw [Look.holds, before_of_mem_onward hp]
      exact Bool.false_ne_true

/-- The threads that have come through a whole text. -/
def arrivals (ignoreCase : Bool) (ps : List Piece) (text : List Char) : List Thread :=
  (verbatimExpr ignoreCase ps).run none
    ((Position.all text).map fun p => { start := p.index, pos := p })

/-- They are those from the start that have come to the end. -/
theorem arrivals_eq (ignoreCase : Bool) (ps : List Piece) (text : List Char) :
    arrivals ignoreCase ps text =
      ((Expr.ofList (ps.map (Piece.expr ignoreCase))).run none
        [{ start := 0, pos := .start text }]).filter fun t => Look.textStop.holds t.pos := by
  have hstart : (fun t : Thread => Look.textStart.holds t.pos) ∘
      (fun p => { start := p.index, pos := p }) = fun p => Look.textStart.holds p := rfl
  rw [arrivals, verbatimExpr, run_ofList_cons, run_ofList_cons, Expr.run, List.filter_map, hstart,
    filter_textStart]
  rfl

theorem ranked_start (text : List Char) : Ranked text [{ start := 0, pos := .start text }] := by
  refine ⟨fun t ht => ?_, List.pairwise_singleton _ _⟩
  rw [List.mem_singleton.mp ht]
  exact Position.start_mem_all text

theorem ordered_arrivals (ignoreCase : Bool) (ps : List Piece) (text : List Char) :
    (arrivals ignoreCase ps text).Pairwise fun t u => Preferred (taken t) (taken u) := by
  rw [arrivals_eq]
  exact ((ranked_start text).pieces ignoreCase ps).ordered.filter _

/-- Whatever way the pieces stand for the text, some thread has found it or a preferred one. -/
theorem exists_arrival {ignoreCase : Bool} {ps : List Piece} {values : List (List Char)}
    {text : List Char} (h : Piece.Spells ignoreCase ps values text) :
    ∃ u ∈ arrivals ignoreCase ps text, NoWorse (taken u) values := by
  have hrest : (Position.start text).rest = text ++ [] := (List.append_nil text).symm
  obtain ⟨u, hu, hpos, htaken⟩ := exists_run_pieces h (ranked_start text) List.mem_cons_self hrest
  refine ⟨u, ?_, htaken⟩
  rw [arrivals_eq]
  refine List.mem_filter.mpr ⟨hu, ?_⟩
  rw [hpos, Look.holds, Position.after, Position.rest_skip]
  change (text.drop text.length).head?.isNone = true
  rw [List.drop_length]
  rfl

/-- What is found takes the values of the preferred one of all ways in which the pieces stand for
the text. -/
theorem exists_taken {ignoreCase : Bool} {ps : List Piece} {text : List Char} {m : Match}
    (h : (verbatimExpr ignoreCase ps).find text = some m) :
    ∃ p ∈ Position.all text, ∃ q spans, m = .ofSpans p q spans ∧
      Leads (verbatimExpr ignoreCase ps) p q spans ∧
      ∀ values, Piece.Spells ignoreCase ps values text →
        NoWorse ((texts spans).map Prod.snd) values := by
  obtain ⟨t, ht, rfl⟩ := Option.map_eq_some_iff.mp h
  obtain ⟨v, hv, spans, hleads, hgroups, -, hstart⟩ := Expr.mem_run (List.mem_of_mem_head? ht)
  obtain ⟨p, hp, rfl⟩ := List.mem_map.mp hv
  rw [List.append_nil] at hgroups
  refine ⟨p, hp, t.pos, spans, ?_, hleads, fun values hvalues => ?_⟩
  · rw [Match.ofThread, hstart, hgroups]
    rfl
  · -- The thread is the first one that has come through the text.
    obtain ⟨others, hall⟩ := List.head?_eq_some_iff.mp ht
    change arrivals ignoreCase ps text = t :: others at hall
    have hordered := ordered_arrivals ignoreCase ps text
    obtain ⟨u, hu, htaken⟩ := exists_arrival hvalues
    rw [hall] at hordered hu
    rw [← hgroups]
    rcases List.mem_cons.mp hu with rfl | hu
    · exact htaken
    · exact NoWorse.trans (.inr ((List.pairwise_cons.mp hordered).1 u hu)) htaken

/-! ## Captures -/

/-- A value is a part of the source as it is, also where case is ignored. -/
theorem Spells.exists_eq_append {ignoreCase : Bool} {bound : Bindings} {tokens : List Token}
    {values : List String} {source : String} (h : Spells ignoreCase bound tokens values source) :
    ∀ value ∈ values, ∃ before after, source = before ++ value ++ after := by
  induction h with
  | nil => exact fun _ hvalue => absurd hvalue List.not_mem_nil
  | @literal _ part _ _ _ _ _ ih =>
    intro value hvalue
    obtain ⟨before, after, rfl⟩ := ih value hvalue
    exact ⟨part ++ before, after, by simp only [String.append_assoc]⟩
  | @value _ _ _ part _ _ _ _ _ _ ih =>
    intro value hvalue
    obtain ⟨before, after, rfl⟩ := ih value hvalue
    exact ⟨part ++ before, after, by simp only [String.append_assoc]⟩
  | @capture _ _ first source _ _ _ _ ih =>
    intro value hvalue
    rcases List.mem_cons.mp hvalue with rfl | hvalue
    · exact ⟨"", source, by rw [String.empty_append]⟩
    · obtain ⟨before, after, rfl⟩ := ih value hvalue
      exact ⟨first ++ before, after, by simp only [String.append_assoc]⟩

theorem length_ofList_lt {v w : List Char} (h : v <+: w) (hne : v ≠ w) :
    (String.ofList v).length < (String.ofList w).length := by
  rw [String.length_ofList, String.length_ofList]
  exact lt_of_le_of_ne h.length_le fun heq => hne (h.eq_of_length heq)

theorem utf8ByteSize_ofList_lt {v w : List Char} (h : v <+: w) (hne : v ≠ w) :
    (String.ofList v).utf8ByteSize < (String.ofList w).utf8ByteSize := by
  obtain ⟨u, rfl⟩ := h
  have hpos : (String.ofList u).utf8ByteSize ≠ 0 := by
    rw [ne_eq, String.utf8ByteSize_eq_zero_iff, String.ofList_eq_empty_iff]
    rintro rfl
    exact hne (List.append_nil v).symm
  rw [String.ofList_append, String.utf8ByteSize_append]
  omega

/-- Values of texts that are no worse than others are no longer in lexicographic order. -/
theorem NoWorse.map_ofList_le {f : String → Nat} {vs : List (List Char)} {values : List String}
    (hf : ∀ {v w : List Char}, v <+: w → v ≠ w → f (.ofList v) < f (.ofList w))
    (h : NoWorse vs (values.map String.toList)) :
    (vs.map String.ofList).map f ≤ values.map f := by
  have hle := h.map_le (f := fun v => f (.ofList v)) fun _ _ => hf
  rw [List.map_map] at hle ⊢
  simpa only [Function.comp_def, String.ofList_toList] using hle

/-- A template taken verbatim captures something exactly from the sources that its tokens stand for.
What it captures has the unbound names in order of appearance, repeats included. The tokens stand
for the source with the captured values, and each value is a part of the source. Of all values with
which the tokens stand for the source, the captured ones are the shortest in lexicographic order,
whether characters are counted or bytes. -/
theorem literal_captures_shortest {d : Delimiters} {ignoreCase : Bool} {bound : Bindings}
    {template : String} {tokens : List Token} (hlex : lex d template = .ok tokens)
    (hsize : ∀ limit, Program.compile (TemplateOptions.flags ⟨d, .literal, ignoreCase⟩)
      (source .literal bound tokens).1 ≠ .error (.tooLarge limit)) :
    ∃ s, Synthesis.ofTemplate ⟨d, .literal, ignoreCase⟩ bound template = .ok s ∧
      ∀ text, ((s.captures text).isSome = true ↔
          ∃ values, Spells ignoreCase bound tokens values text) ∧
        ∀ cs, s.captures text = some cs →
          cs.map Prod.fst = unboundNames bound tokens ∧
          Spells ignoreCase bound tokens (cs.map Prod.snd) text ∧
          (∀ value ∈ cs.map Prod.snd, ∃ before after, text = before ++ value ++ after) ∧
          ∀ values, Spells ignoreCase bound tokens values text →
            (cs.map Prod.snd).map String.length ≤ values.map String.length ∧
            (cs.map Prod.snd).map String.utf8ByteSize ≤ values.map String.utf8ByteSize := by
  refine ⟨_, ofTemplate_literal hlex hsize, fun text => ⟨?_, fun cs hcs => ?_⟩⟩
  · rw [← Synthesis.isMatch_eq_isSome_captures]
    exact find_pieces_isSome_iff
  simp only [Synthesis.captures] at hcs
  obtain ⟨m, hm, rfl⟩ := Option.map_eq_some_iff.mp hcs
  obtain ⟨p, hp, q, spans, rfl, hleads, hleast⟩ := exists_taken hm
  obtain ⟨taken, -, htaken, -, hvalues⟩ := values_verbatim hleads hp
  have hspells := (captured_verbatim hleads hp).2
  rw [names_source]
  refine ⟨Synthesis.map_fst_capturesOf _ _, ?_⟩
  rw [capturesOf_ofSpans, map_snd_mapIdx_valueOf]
  refine ⟨hspells, hspells.exists_eq_append, fun values h => ?_⟩
  have hnoWorse := hleast _ (h.toPieces 0)
  rw [htaken] at hnoWorse
  rw [hvalues]
  exact ⟨hnoWorse.map_ofList_le length_ofList_lt,
    hnoWorse.map_ofList_le utf8ByteSize_ofList_lt⟩

/-- The source could also be taken apart at its second hyphen. -/
theorem literal_captures_shortest_hyphens :
    ∃ s, Synthesis.ofTemplate ⟨.standard, .literal, false⟩ .none "~[a]-~[b]" = .ok s ∧
      s.captures "x-y-z" = some [("a", "x"), ("b", "y-z")] ∧
      Spells false .none [.placeholder 0 "a", .literal "-", .placeholder 5 "b"] ["x-y", "z"]
        "x-y-z" ∧
      ["x", "y-z"].map String.length ≤ ["x-y", "z"].map String.length := by
  have hlex : lex .standard "~[a]-~[b]" =
      .ok [.placeholder 0 "a", .literal "-", .placeholder 5 "b"] := by cbv
  have hsize (limit : Nat) : Program.compile (TemplateOptions.flags ⟨.standard, .literal, false⟩)
      (source .literal .none [.placeholder 0 "a", .literal "-", .placeholder 5 "b"]).1 ≠
        .error (.tooLarge limit) := by
    change Program.compile (flagsOf false) _ ≠ _
    rw [compile_source_literal, if_pos (by decide)]
    exact fun h => by cases h
  obtain ⟨s, hs, hcaptures⟩ := literal_captures_shortest hlex hsize
  have hfound : ∃ s, Synthesis.ofTemplate ⟨.standard, .literal, false⟩ .none "~[a]-~[b]" = .ok s ∧
      s.captures "x-y-z" = some [("a", "x"), ("b", "y-z")] := ⟨⟨.program _, _, _⟩, by cbv, by cbv⟩
  obtain ⟨s', hs', hc⟩ := hfound
  cases hs.symm.trans hs'
  have hother : Spells false .none [.placeholder 0 "a", .literal "-", .placeholder 5 "b"]
      ["x-y", "z"] ("x-y" ++ ("-" ++ ("z" ++ ""))) :=
    .capture rfl (.literal rfl (.capture rfl .nil))
  exact ⟨s, hs, hc, hother, (((hcaptures _).2 _ hc).2.2.2 _ hother).1⟩

end TemplateMatch.Template
