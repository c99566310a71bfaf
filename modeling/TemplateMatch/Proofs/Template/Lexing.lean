import TemplateMatch.Proofs.Template.Rendering

/-!
Which token lists lexing gives. `Lexed` says it of a list by itself: where the delimiters stand
first, and that positions count the bytes before. Lexing is the inverse of rendering on these lists,
and it fails just where such a list is followed by a placeholder without a name
(`lex_inverts_render`).
-/

namespace TemplateMatch

/-- The first occurrence of a separator in `text ++ sep` is the one at the end. -/
def FirstAtEnd (sep text : List Char) : Prop :=
  ∀ before after, text ++ sep = before ++ sep ++ after → before = text

theorem firstAtEnd_nil (sep : List Char) : FirstAtEnd sep [] := by
  intro before after h
  have hlen := congrArg List.length h
  simp only [List.length_append, List.length_nil] at hlen
  exact List.eq_nil_of_length_eq_zero (by omega)

/-- Behind any other occurrence there is no more than behind the first. -/
theorem FirstAtEnd.suffix {sep before after before' after' : List Char} (h : FirstAtEnd sep before)
    (heq : before ++ sep ++ after = before' ++ sep ++ after') : after' <:+ after := by
  rcases Nat.le_total before'.length before.length with hlen | hlen
  · have hprefix : before' ++ sep <+: before ++ sep ++ after := heq ▸ List.prefix_append _ _
    obtain ⟨rest, hrest⟩ :=
      List.prefix_of_prefix_length_le hprefix (List.prefix_append _ _) (by simpa using hlen)
    rw [h before' rest hrest.symm, List.append_cancel_left_eq] at heq
    exact heq ▸ List.suffix_rfl
  · have hsuffix : after' <:+ before ++ sep ++ after := heq ▸ List.suffix_append _ _
    refine List.suffix_of_suffix_length_le hsuffix (List.suffix_append _ _) ?_
    have hsum := congrArg List.length heq
    simp only [List.length_append] at hsum
    omega

/-- A text is cut at the first occurrence of a separator in one way only. -/
theorem FirstAtEnd.cut_eq {sep before after before' after' : List Char}
    (h : FirstAtEnd sep before) (h' : FirstAtEnd sep before')
    (heq : before ++ sep ++ after = before' ++ sep ++ after') :
    before = before' ∧ after = after' := by
  have hafter : after = after' :=
    (h'.suffix heq.symm).eq_of_length_le (h.suffix heq).length_le
  rw [hafter, List.append_cancel_right_eq, List.append_cancel_right_eq] at heq
  exact ⟨heq, hafter⟩

theorem splitOnce_eq_none_iff {sep text : List Char} :
    splitOnce sep text = none ↔ ∀ before after, text ≠ before ++ sep ++ after := by
  induction text with
  | nil =>
    rw [splitOnce, Option.map_eq_none_iff, Option.eq_none_iff_forall_ne_some]
    simp only [ne_eq, afterPrefix?_eq_some_iff]
    constructor
    · intro h before after heq
      have hsep := (List.append_eq_nil_iff.mp (List.append_eq_nil_iff.mp heq.symm).1).2
      exact h [] (by rw [hsep, List.append_nil])
    · exact fun h after => h [] after
  | cons c rest ih =>
    rw [splitOnce]
    split
    · next after hafter =>
      rw [afterPrefix?_eq_some_iff] at hafter
      exact ⟨fun h => absurd h (Option.some_ne_none _), fun h => absurd hafter (h [] after)⟩
    · next hnone =>
      have hhere (after : List Char) : c :: rest ≠ sep ++ after := by
        rw [Ne, ← afterPrefix?_eq_some_iff, hnone]
        exact (Option.some_ne_none after).symm
      rw [Option.map_eq_none_iff, ih]
      constructor
      · intro h before after heq
        cases before with
        | nil => exact hhere after heq
        | cons b before => exact h before after (List.cons.inj heq).2
      · intro h before after heq
        exact h (c :: before) after (congrArg (c :: ·) heq)

theorem firstAtEnd_of_splitOnce {sep text before after : List Char}
    (h : splitOnce sep text = some (before, after)) : FirstAtEnd sep before := by
  induction text generalizing before with
  | nil =>
    obtain ⟨rest, _, hcut⟩ := Option.map_eq_some_iff.mp h
    cases hcut
    exact firstAtEnd_nil sep
  | cons c rest ih =>
    have htext := splitOnce_eq_some h
    rw [splitOnce] at h
    split at h
    · cases h
      exact firstAtEnd_nil sep
    · next hnone =>
      obtain ⟨⟨front, behind⟩, hrest, hcut⟩ := Option.map_eq_some_iff.mp h
      simp only [Prod.mk.injEq] at hcut
      obtain ⟨rfl, rfl⟩ := hcut
      intro u v heq
      cases u with
      | nil =>
        -- Then the separator would stand at the front of the text.
        have hfront : c :: rest = sep ++ (v ++ behind) := by
          rw [htext, heq, List.nil_append, List.append_assoc]
        rw [← afterPrefix?_eq_some_iff, hnone] at hfront
        cases hfront
      | cons b u =>
        obtain ⟨rfl, htail⟩ := List.cons.inj heq
        exact congrArg (c :: ·) (ih hrest u v htail)

theorem splitOnce_eq_some_iff {sep text before after : List Char} :
    splitOnce sep text = some (before, after) ↔
      text = before ++ sep ++ after ∧ FirstAtEnd sep before := by
  refine ⟨fun h => ⟨splitOnce_eq_some h, firstAtEnd_of_splitOnce h⟩, ?_⟩
  rintro ⟨htext, hfirst⟩
  cases hcut : splitOnce sep text with
  | none => exact absurd htext (splitOnce_eq_none_iff.mp hcut before after)
  | some cut =>
    obtain ⟨before', after'⟩ := cut
    have htext' := splitOnce_eq_some hcut
    rw [htext] at htext'
    obtain ⟨rfl, rfl⟩ := hfirst.cut_eq (firstAtEnd_of_splitOnce hcut) htext'
    rfl

theorem Token.run_toList {text : String} (h : text ≠ "") :
    Token.run text.toList = [.literal text] := by
  rw [Token.run, if_neg (by simpa using h), String.ofList_toList]

theorem byteSize_toList (text : String) : byteSize text.toList = text.utf8ByteSize := by
  rw [byteSize, String.ofList_toList]

namespace Template

variable {d : Delimiters} {offset position : Nat} {text : String} {name : String}
  {tokens : List Token}

/-- A start delimiter stands in the text, and an end delimiter behind it. -/
def Opens (d : Delimiters) (text : List Char) : Prop :=
  ∃ before name after, text = before ++ d.start.toList ++ name ++ d.stop.toList ++ after

/-- The literal text at the end of tokens, nothing if they end with a placeholder. -/
def trailing (tokens : List Token) : String :=
  match tokens.getLast? with
  | some (.literal text) => text
  | _ => ""

/-- A placeholder in its place behind other tokens: its position counts the bytes before it, its
start delimiter is the first one since the last placeholder, and its end delimiter the first one
behind its name. -/
structure Placed (d : Delimiters) (offset : Nat) (before : List Token) (position : Nat)
    (name : String) : Prop where
  position_eq : position = offset + (render d before).utf8ByteSize
  first_start : FirstAtEnd d.start.toList (trailing before).toList
  name_ne : name ≠ ""
  first_stop : FirstAtEnd d.stop.toList name.toList

/-- The tokens of a text that lies `offset` bytes into a template. -/
structure Lexed (d : Delimiters) (offset : Nat) (tokens : List Token) : Prop where
  literal_ne : ∀ text, .literal text ∈ tokens → text ≠ ""
  apart : ∀ before text text' after, tokens ≠ before ++ .literal text :: .literal text' :: after
  placed : ∀ before position name after,
    tokens = before ++ .placeholder position name :: after → Placed d offset before position name
  not_opens : ¬Opens d (trailing tokens).toList

theorem trailing_cons {t : Token} (h : tokens ≠ []) : trailing (t :: tokens) = trailing tokens := by
  obtain ⟨u, us, rfl⟩ := List.exists_cons_of_ne_nil h
  rw [trailing, trailing, List.getLast?_cons_cons]

theorem trailing_placeholder (position : Nat) (name : String) (tokens : List Token) :
    trailing (.placeholder position name :: tokens) = trailing tokens := by
  cases tokens with
  | nil => rfl
  | cons t tokens => exact trailing_cons (List.cons_ne_nil t tokens)

theorem utf8ByteSize_render_cons (d : Delimiters) (t : Token) (tokens : List Token) :
    (render d (t :: tokens)).utf8ByteSize =
      (t.render d).utf8ByteSize + (render d tokens).utf8ByteSize := by
  have h : render d (t :: tokens) = t.render d ++ render d tokens := by
    apply String.toList_inj.mp
    rw [String.toList_append, toList_render, toList_render, List.flatMap_cons]
  rw [h, String.utf8ByteSize_append]

theorem toList_enclose (d : Delimiters) (name : String) :
    (d.enclose name).toList = d.start.toList ++ name.toList ++ d.stop.toList := by
  rw [Delimiters.enclose, String.toList_append, String.toList_append]

theorem utf8ByteSize_enclose (d : Delimiters) (name : String) :
    (d.enclose name).utf8ByteSize =
      d.start.utf8ByteSize + name.utf8ByteSize + d.stop.utf8ByteSize := by
  rw [Delimiters.enclose, String.utf8ByteSize_append, String.utf8ByteSize_append]

theorem not_opens_nil (d : Delimiters) : ¬Opens d [] := by
  rintro ⟨before, name, after, h⟩
  have hlen := congrArg List.length h
  have hstart : 0 < d.start.toList.length :=
    List.length_pos_iff.mpr fun h => d.start_ne (String.toList_eq_nil_iff.mp h)
  simp only [List.length_append, List.length_nil] at hlen
  omega

theorem placed_nil_iff : Placed d offset [] position name ↔
    position = offset ∧ name ≠ "" ∧ FirstAtEnd d.stop.toList name.toList := by
  constructor
  · exact fun h => ⟨h.position_eq, h.name_ne, h.first_stop⟩
  · rintro ⟨hposition, hname, hstop⟩
    exact ⟨hposition, firstAtEnd_nil _, hname, hstop⟩

/-- Behind one token more, as long as that is not a literal right in front. -/
theorem placed_cons_iff {t : Token} {before : List Token}
    (h : trailing (t :: before) = trailing before) :
    Placed d offset (t :: before) position name ↔
      Placed d (offset + (t.render d).utf8ByteSize) before position name := by
  have hsize := utf8ByteSize_render_cons d t before
  constructor
  · intro hp
    refine ⟨?_, ?_, hp.name_ne, hp.first_stop⟩
    · rw [hp.position_eq, hsize, Nat.add_assoc]
    · rw [← h]
      exact hp.first_start
  · intro hp
    refine ⟨?_, ?_, hp.name_ne, hp.first_stop⟩
    · rw [hp.position_eq, hsize, Nat.add_assoc]
    · rw [h]
      exact hp.first_start

/-- The first placeholder is right behind the literal, the others are further back. -/
theorem placed_literal_iff {before : List Token} :
    Placed d offset (.literal text :: before) position name ↔
      (before = [] → FirstAtEnd d.start.toList text.toList) ∧
        Placed d (offset + text.utf8ByteSize) before position name := by
  cases before with
  | cons t before =>
    rw [placed_cons_iff (trailing_cons (List.cons_ne_nil t before))]
    exact ⟨fun h => ⟨nofun, h⟩, fun h => h.2⟩
  | nil =>
    have hsize : (render d [.literal text]).utf8ByteSize = text.utf8ByteSize := by
      rw [utf8ByteSize_render_cons]
      rfl
    rw [placed_nil_iff]
    constructor
    · exact fun h => ⟨fun _ => h.first_start, hsize ▸ h.position_eq, h.name_ne, h.first_stop⟩
    · rintro ⟨hstart, hposition, hname, hstop⟩
      exact ⟨hsize ▸ hposition, hstart rfl, hname, hstop⟩

namespace Lexed

theorem nil (d : Delimiters) (offset : Nat) : Lexed d offset [] where
  literal_ne := by simp
  apart := by simp
  placed := by simp
  not_opens := not_opens_nil d

theorem text_iff : Lexed d offset [.literal text] ↔ text ≠ "" ∧ ¬Opens d text.toList := by
  constructor
  · exact fun h => ⟨h.literal_ne text List.mem_cons_self, h.not_opens⟩
  · rintro ⟨hne, hrest⟩
    refine ⟨?_, ?_, ?_, hrest⟩
    · simpa using hne
    · simp [List.cons_eq_append_iff]
    · simp [List.cons_eq_append_iff]

theorem placeholder_iff : Lexed d offset (.placeholder position name :: tokens) ↔
    position = offset ∧ name ≠ "" ∧ FirstAtEnd d.stop.toList name.toList ∧
      Lexed d (offset + (d.enclose name).utf8ByteSize) tokens := by
  constructor
  · intro h
    obtain ⟨hposition, hname, hstop⟩ := placed_nil_iff.mp (h.placed [] _ _ _ rfl)
    refine ⟨hposition, hname, hstop, ?_, ?_, ?_, ?_⟩
    · exact fun text ht => h.literal_ne text (List.mem_cons_of_mem _ ht)
    · intro before text text' after heq
      exact h.apart (.placeholder position name :: before) text text' after (congrArg _ heq)
    · intro before q m after heq
      exact (placed_cons_iff (trailing_placeholder position name before)).mp
        (h.placed (.placeholder position name :: before) q m after (congrArg _ heq))
    · rw [← trailing_placeholder position name tokens]
      exact h.not_opens
  · rintro ⟨rfl, hname, hstop, h⟩
    refine ⟨?_, ?_, ?_, ?_⟩
    · intro text ht
      exact h.literal_ne text (by simpa using ht)
    · intro before text text' after heq
      rcases List.cons_eq_append_iff.mp heq with ⟨_, hcons⟩ | ⟨before, rfl, hrest⟩
      · cases hcons
      · exact h.apart before text text' after hrest
    · intro before q m after heq
      rcases List.cons_eq_append_iff.mp heq with ⟨rfl, hcons⟩ | ⟨before, rfl, hrest⟩
      · cases hcons
        exact placed_nil_iff.mpr ⟨rfl, hname, hstop⟩
      · exact (placed_cons_iff (trailing_placeholder position name before)).mpr
          (h.placed before q m after hrest)
    · rw [trailing_placeholder]
      exact h.not_opens

theorem literal_iff : Lexed d offset (.literal text :: .placeholder position name :: tokens) ↔
    text ≠ "" ∧ FirstAtEnd d.start.toList text.toList ∧
      Lexed d (offset + text.utf8ByteSize) (.placeholder position name :: tokens) := by
  generalize hlist : Token.placeholder position name :: tokens = list
  have hne : list ≠ [] := hlist ▸ List.cons_ne_nil _ _
  have hrest := trailing_cons (t := .literal text) hne
  constructor
  · intro h
    have hstart := (h.placed [.literal text] _ _ _ (congrArg _ hlist.symm)).first_start
    refine ⟨h.literal_ne text List.mem_cons_self, hstart, ?_, ?_, ?_, ?_⟩
    · exact fun text ht => h.literal_ne text (List.mem_cons_of_mem _ ht)
    · intro before text' text'' after heq
      exact h.apart (.literal text :: before) text' text'' after (congrArg _ heq)
    · intro before q m after heq
      exact (placed_literal_iff.mp
        (h.placed (.literal text :: before) q m after (congrArg _ heq))).2
    · rw [← hrest]
      exact h.not_opens
  · rintro ⟨htext, hstart, h⟩
    refine ⟨?_, ?_, ?_, ?_⟩
    · intro text' ht
      rcases List.mem_cons.mp ht with ht | ht
      · cases ht
        exact htext
      · exact h.literal_ne text' ht
    · intro before text' text'' after heq
      rcases List.cons_eq_append_iff.mp heq with ⟨_, hcons⟩ | ⟨before, rfl, hrest⟩
      · rw [← hlist] at hcons
        cases hcons
      · exact h.apart before text' text'' after hrest
    · intro before q m after heq
      rcases List.cons_eq_append_iff.mp heq with ⟨_, hcons⟩ | ⟨before, rfl, hrest⟩
      · cases hcons
      · exact placed_literal_iff.mpr ⟨fun _ => hstart, h.placed before q m after hrest⟩
    · rw [hrest]
      exact h.not_opens

/-- Such tokens are a last text, or a text and a placeholder in front of others. -/
theorem cut_cases {motive : Nat → List Token → Prop}
    (last : ∀ offset text, ¬Opens d text → motive offset (Token.run text))
    (cut : ∀ offset before name tokens, FirstAtEnd d.start.toList before → name ≠ "" →
      FirstAtEnd d.stop.toList name.toList →
      Lexed d (offset + byteSize before + (d.enclose name).utf8ByteSize) tokens →
      motive (offset + byteSize before + (d.enclose name).utf8ByteSize) tokens →
      motive offset (Token.run before ++ .placeholder (offset + byteSize before) name :: tokens)) :
    ∀ {offset tokens}, Lexed d offset tokens → motive offset tokens
  | offset, [], _ => last offset [] (not_opens_nil d)
  | offset, [.literal text], h => by
    obtain ⟨hne, hrest⟩ := text_iff.mp h
    have hlast := last offset text.toList hrest
    rwa [Token.run_toList hne] at hlast
  | offset, .literal text :: .literal text' :: tokens, h =>
    absurd rfl (h.apart [] text text' tokens)
  | offset, .literal text :: .placeholder position name :: tokens, h => by
    obtain ⟨hne, hstart, h⟩ := literal_iff.mp h
    obtain ⟨rfl, hname, hstop, h⟩ := placeholder_iff.mp h
    have hcut := cut offset text.toList name tokens hstart hname hstop
    rw [Token.run_toList hne, byteSize_toList] at hcut
    exact hcut h (cut_cases last cut h)
  | offset, .placeholder position name :: tokens, h => by
    obtain ⟨rfl, hname, hstop, h⟩ := placeholder_iff.mp h
    exact cut position [] name tokens (firstAtEnd_nil _) hname hstop h (cut_cases last cut h)

theorem run {text : List Char} (h : ¬Opens d text) : Lexed d offset (Token.run text) := by
  rw [Token.run]
  split
  · exact nil d offset
  · next hne => exact text_iff.mpr ⟨by simpa using hne, by rwa [String.toList_ofList]⟩

theorem cut {before : List Char} (hstart : FirstAtEnd d.start.toList before) (hname : name ≠ "")
    (hstop : FirstAtEnd d.stop.toList name.toList)
    (h : Lexed d (offset + byteSize before + (d.enclose name).utf8ByteSize) tokens) :
    Lexed d offset
      (Token.run before ++ .placeholder (offset + byteSize before) name :: tokens) := by
  have hplaceholder : Lexed d (offset + byteSize before)
      (.placeholder (offset + byteSize before) name :: tokens) :=
    placeholder_iff.mpr ⟨rfl, hname, hstop, h⟩
  rw [Token.run]
  split
  · next hnil =>
    rw [List.isEmpty_iff.mp hnil] at hplaceholder ⊢
    exact hplaceholder
  · next hne =>
    exact literal_iff.mpr ⟨by simpa using hne, by rwa [String.toList_ofList], hplaceholder⟩

end Lexed

/-! ## Lexing -/

theorem lexFrom_of_not_opens {text : List Char} (h : ¬Opens d text) :
    lexFrom d offset text = .ok (Token.run text) := by
  unfold lexFrom
  split
  · rfl
  · next before opened hstart =>
    split
    · rfl
    · next name after hstop =>
      refine absurd ⟨before, name, after, ?_⟩ h
      rw [splitOnce_eq_some hstart, splitOnce_eq_some hstop]
      simp only [List.append_assoc]

theorem lexFrom_of_split {text before opened name after : List Char}
    (hstart : splitOnce d.start.toList text = some (before, opened))
    (hstop : splitOnce d.stop.toList opened = some (name, after)) :
    lexFrom d offset text =
      if name.isEmpty then .error (.emptyPlaceholder (offset + byteSize before))
      else
        (lexFrom d (offset + byteSize before + d.start.utf8ByteSize + byteSize name +
          d.stop.utf8ByteSize) after).map fun tokens =>
            Token.run before ++
              .placeholder (offset + byteSize before) (String.ofList name) :: tokens := by
  rw [lexFrom]
  split
  · next hnone => rw [hstart] at hnone; cases hnone
  · next hcut =>
    rw [hstart] at hcut
    cases hcut
    split
    · next hnone => rw [hstop] at hnone; cases hnone
    · next hcut =>
      rw [hstop] at hcut
      cases hcut
      simp only
      split
      · rfl
      · split <;> simp_all [Except.map]

section

variable {before : List Char} (hbefore : FirstAtEnd d.start.toList before)

include hbefore

theorem lexFrom_nameless (after : List Char) :
    lexFrom d offset (before ++ d.start.toList ++ d.stop.toList ++ after) =
      .error (.emptyPlaceholder (offset + byteSize before)) := by
  have hstart : splitOnce d.start.toList (before ++ d.start.toList ++ d.stop.toList ++ after) =
      some (before, d.stop.toList ++ after) :=
    splitOnce_eq_some_iff.mpr ⟨List.append_assoc _ _ _, hbefore⟩
  have hstop : splitOnce d.stop.toList (d.stop.toList ++ after) = some ([], after) :=
    splitOnce_eq_some_iff.mpr ⟨rfl, firstAtEnd_nil _⟩
  rw [lexFrom_of_split hstart hstop]
  rfl

theorem lexFrom_cut (hname : name ≠ "") (hstop : FirstAtEnd d.stop.toList name.toList)
    (after : List Char) :
    lexFrom d offset (before ++ (d.enclose name).toList ++ after) =
      (lexFrom d (offset + byteSize before + (d.enclose name).utf8ByteSize) after).map
        (Token.run before ++ .placeholder (offset + byteSize before) name :: ·) := by
  have htext : before ++ (d.enclose name).toList ++ after =
      before ++ d.start.toList ++ (name.toList ++ d.stop.toList ++ after) := by
    rw [Delimiters.enclose, String.toList_append, String.toList_append]
    simp only [List.append_assoc]
  have hsize : offset + byteSize before + (d.enclose name).utf8ByteSize =
      offset + byteSize before + d.start.utf8ByteSize + byteSize name.toList +
        d.stop.utf8ByteSize := by
    rw [Delimiters.enclose, String.utf8ByteSize_append, String.utf8ByteSize_append,
      byteSize_toList]
    omega
  have hstart := splitOnce_eq_some_iff.mpr ⟨htext, hbefore⟩
  have hend := splitOnce_eq_some_iff.mpr ⟨rfl (a := name.toList ++ d.stop.toList ++ after), hstop⟩
  rw [lexFrom_of_split hstart hend, if_neg (by simpa using hname), String.ofList_toList, hsize]

end

theorem not_opens_of_none {text : List Char} (h : splitOnce d.start.toList text = none) :
    ¬Opens d text := by
  rintro ⟨before, name, after, htext⟩
  refine splitOnce_eq_none_iff.mp h before (name ++ d.stop.toList ++ after) ?_
  rw [htext]
  simp only [List.append_assoc]

/-- Without an end delimiter behind the first start delimiter there is none behind another one. -/
theorem not_opens_of_split {text before opened : List Char}
    (hstart : splitOnce d.start.toList text = some (before, opened))
    (hstop : splitOnce d.stop.toList opened = none) : ¬Opens d text := by
  rintro ⟨before', name, after, htext⟩
  obtain ⟨hcut, hfirst⟩ := splitOnce_eq_some_iff.mp hstart
  have heq : before ++ d.start.toList ++ opened =
      before' ++ d.start.toList ++ (name ++ d.stop.toList ++ after) := by
    rw [← hcut, htext]
    simp only [List.append_assoc]
  obtain ⟨front, hopened⟩ := hfirst.suffix heq
  refine splitOnce_eq_none_iff.mp hstop (front ++ name) after ?_
  rw [← hopened]
  simp only [List.append_assoc]

/-- Induction over a text as it is cut: at its first placeholder, if there is one. -/
theorem cut_induction (d : Delimiters) {motive : Nat → List Char → Prop}
    (last : ∀ offset text, ¬Opens d text → motive offset text)
    (nameless : ∀ offset before after, FirstAtEnd d.start.toList before →
      motive offset (before ++ d.start.toList ++ d.stop.toList ++ after))
    (cut : ∀ offset before name after, FirstAtEnd d.start.toList before → name ≠ "" →
      FirstAtEnd d.stop.toList name.toList →
      motive (offset + byteSize before + (d.enclose name).utf8ByteSize) after →
      motive offset (before ++ (d.enclose name).toList ++ after)) (offset : Nat)
    (text : List Char) : motive offset text := by
  have hcut {offset : Nat} {text before opened name after : List Char}
      (hstart : splitOnce d.start.toList text = some (before, opened))
      (hstop : splitOnce d.stop.toList opened = some (name, after)) (hname : ¬name.isEmpty = true)
      (h : motive (offset + byteSize before + d.start.utf8ByteSize + byteSize name +
        d.stop.utf8ByteSize) after) : motive offset text := by
    have hsize : offset + byteSize before + (d.enclose (String.ofList name)).utf8ByteSize =
        offset + byteSize before + d.start.utf8ByteSize + byteSize name + d.stop.utf8ByteSize := by
      rw [utf8ByteSize_enclose]
      simp only [byteSize, Nat.add_assoc]
    have htext : text = before ++ (d.enclose (String.ofList name)).toList ++ after := by
      rw [splitOnce_eq_some hstart, splitOnce_eq_some hstop, toList_enclose, String.toList_ofList]
      simp only [List.append_assoc]
    rw [htext]
    refine cut offset before (String.ofList name) after (firstAtEnd_of_splitOnce hstart)
      (by simpa using hname) ?_ (hsize ▸ h)
    rw [String.toList_ofList]
    exact firstAtEnd_of_splitOnce hstop
  fun_induction lexFrom d offset text with
  | case1 offset text hnone => exact last offset text (not_opens_of_none hnone)
  | case2 offset text before opened hstart hnone =>
    exact last offset text (not_opens_of_split hstart hnone)
  | case3 offset text before opened hstart name after hstop position hname =>
    rw [List.isEmpty_iff.mp hname] at hstop
    rw [splitOnce_eq_some hstart, splitOnce_eq_some hstop, List.nil_append, ← List.append_assoc]
    exact nameless offset before after (firstAtEnd_of_splitOnce hstart)
  | case4 offset text before opened hstart name after hstop position hname next e hrest ih =>
    exact hcut hstart hstop hname ih
  | case5 offset text before opened hstart name after hstop position hname next rest hrest ih =>
    exact hcut hstart hstop hname ih

theorem lexed_of_lexFrom {text : List Char} (h : lexFrom d offset text = .ok tokens) :
    Lexed d offset tokens := by
  induction offset, text using cut_induction d generalizing tokens with
  | last offset text hrest =>
    rw [lexFrom_of_not_opens hrest] at h
    cases h
    exact .run hrest
  | nameless offset before after hbefore =>
    rw [lexFrom_nameless hbefore] at h
    cases h
  | cut offset before name after hbefore hname hstop ih =>
    rw [lexFrom_cut hbefore hname hstop] at h
    cases hrest : lexFrom d (offset + byteSize before + (d.enclose name).utf8ByteSize) after with
    | error e =>
      rw [hrest] at h
      cases h
    | ok tokens =>
      rw [hrest] at h
      cases h
      exact .cut hbefore hname hstop (ih hrest)

theorem toList_render_run (d : Delimiters) (text : List Char) :
    (render d (Token.run text)).toList = text := by
  rw [toList_render, flatMap_render_run]

theorem toList_render_cut (d : Delimiters) (before : List Char) (position : Nat) (name : String)
    (tokens : List Token) :
    (render d (Token.run before ++ .placeholder position name :: tokens)).toList =
      before ++ (d.enclose name).toList ++ (render d tokens).toList := by
  rw [toList_render, List.flatMap_append, flatMap_render_run, List.flatMap_cons, ← toList_render,
    List.append_assoc]
  rfl

theorem lexFrom_render (h : Lexed d offset tokens) :
    lexFrom d offset (render d tokens).toList = .ok tokens := by
  refine Lexed.cut_cases (motive := fun offset tokens =>
    lexFrom d offset (render d tokens).toList = .ok tokens) ?last ?cut h
  case last =>
    intro offset text hrest
    rw [toList_render_run, lexFrom_of_not_opens hrest]
  case cut =>
    intro offset before name tokens hstart hname hstop _ ih
    rw [toList_render_cut, lexFrom_cut hstart hname hstop, ih]
    rfl

/-! ## Placeholders without a name -/

/-- The tokens are none or end with a placeholder. -/
def Closed (tokens : List Token) : Prop := ∀ text, tokens.getLast? ≠ some (.literal text)

theorem closed_run {text : List Char} (h : Closed (Token.run text)) : text = [] := by
  rw [Token.run] at h
  split at h
  · next hnil => exact List.isEmpty_iff.mp hnil
  · exact absurd rfl (h _)

theorem closed_cut_iff {front : List Token} :
    Closed (front ++ .placeholder position name :: tokens) ↔ Closed tokens := by
  have hlast : (front ++ .placeholder position name :: tokens).getLast? =
      tokens.getLast?.or (some (.placeholder position name)) := by
    rw [List.getLast?_append, List.getLast?_cons, Option.some_or]
    cases tokens.getLast? <;> rfl
  rw [Closed, Closed, hlast]
  cases tokens.getLast? <;> simp

theorem utf8ByteSize_render_cut (d : Delimiters) (before : List Char) (position : Nat)
    (name : String) (tokens : List Token) :
    (render d (Token.run before ++ .placeholder position name :: tokens)).utf8ByteSize =
      byteSize before + (d.enclose name).utf8ByteSize + (render d tokens).utf8ByteSize := by
  have h : render d (Token.run before ++ .placeholder position name :: tokens) =
      String.ofList before ++ d.enclose name ++ render d tokens := by
    apply String.toList_inj.mp
    rw [toList_render_cut, String.toList_append, String.toList_append, String.toList_ofList]
  rw [h, String.utf8ByteSize_append, String.utf8ByteSize_append, byteSize]

theorem lexFrom_of_nameless (h : Lexed d offset tokens) (hclosed : Closed tokens)
    {before : List Char} (hbefore : FirstAtEnd d.start.toList before) (after : List Char) :
    lexFrom d offset
        ((render d tokens).toList ++ (before ++ d.start.toList ++ d.stop.toList ++ after)) =
      .error (.emptyPlaceholder (offset + (render d tokens).utf8ByteSize + byteSize before)) := by
  revert hclosed
  refine Lexed.cut_cases (motive := fun offset tokens => Closed tokens → lexFrom d offset
      ((render d tokens).toList ++ (before ++ d.start.toList ++ d.stop.toList ++ after)) =
    .error (.emptyPlaceholder (offset + (render d tokens).utf8ByteSize + byteSize before)))
    ?last ?cut h
  case last =>
    intro offset text _ hclosed
    rw [closed_run hclosed]
    exact lexFrom_nameless hbefore after
  case cut =>
    intro offset front name tokens hstart hname hstop _ ih hclosed
    rw [toList_render_cut, List.append_assoc, lexFrom_cut hstart hname hstop,
      ih (closed_cut_iff.mp hclosed), utf8ByteSize_render_cut]
    simp only [Except.map, Nat.add_assoc]

theorem exists_nameless {text : List Char}
    (h : lexFrom d offset text = .error (.emptyPlaceholder position)) :
    ∃ tokens before after, Lexed d offset tokens ∧ Closed tokens ∧
      FirstAtEnd d.start.toList before ∧
      text = (render d tokens).toList ++ (before ++ d.start.toList ++ d.stop.toList ++ after) ∧
      position = offset + (render d tokens).utf8ByteSize + byteSize before := by
  induction offset, text using cut_induction d with
  | last offset text hrest =>
    rw [lexFrom_of_not_opens hrest] at h
    cases h
  | nameless offset before after hbefore =>
    rw [lexFrom_nameless hbefore] at h
    cases h
    exact ⟨[], before, after, .nil d offset, nofun, hbefore, rfl, rfl⟩
  | cut offset front name text hfront hname hstop ih =>
    rw [lexFrom_cut hfront hname hstop] at h
    cases hrest : lexFrom d (offset + byteSize front + (d.enclose name).utf8ByteSize) text with
    | ok tokens =>
      rw [hrest] at h
      cases h
    | error e =>
      rw [hrest] at h
      cases h
      obtain ⟨tokens, before, after, hlexed, hclosed, hbefore, rfl, rfl⟩ := ih hrest
      refine ⟨_, before, after, .cut hfront hname hstop hlexed, closed_cut_iff.mpr hclosed, hbefore,
        ?_, ?_⟩
      · rw [toList_render_cut, List.append_assoc _ (render d tokens).toList]
      · rw [utf8ByteSize_render_cut]
        simp only [Nat.add_assoc]

/-- Lexing a template gives the tokens that render to it and have the delimiters where they stand
first. It fails at a placeholder without a name that such tokens and a text stand before. -/
theorem lex_inverts_render (d : Delimiters) (template : String) :
    (∀ tokens, lex d template = .ok tokens ↔ render d tokens = template ∧ Lexed d 0 tokens) ∧
    ∀ position, lex d template = .error (.emptyPlaceholder position) ↔
      ∃ tokens before after, Lexed d 0 tokens ∧ Closed tokens ∧
        FirstAtEnd d.start.toList before.toList ∧
        template = render d tokens ++ before ++ d.start ++ d.stop ++ after ∧
        position = (render d tokens ++ before).utf8ByteSize := by
  constructor
  · intro tokens
    constructor
    · exact fun h => ⟨render_lex h, lexed_of_lexFrom h⟩
    · rintro ⟨rfl, hlexed⟩
      exact lexFrom_render hlexed
  · intro position
    constructor
    · intro h
      obtain ⟨tokens, before, after, hlexed, hclosed, hbefore, htext, hposition⟩ :=
        exists_nameless h
      refine ⟨tokens, String.ofList before, String.ofList after, hlexed, hclosed,
        by rwa [String.toList_ofList], String.toList_inj.mp ?_, ?_⟩
      · rw [htext]
        simp
      · rw [hposition, Nat.zero_add, String.utf8ByteSize_append, byteSize]
    · rintro ⟨tokens, before, after, hlexed, hclosed, hbefore, rfl, rfl⟩
      have h := lexFrom_of_nameless hlexed hclosed hbefore after.toList
      rw [Nat.zero_add, byteSize_toList, ← String.utf8ByteSize_append] at h
      rw [lex, ← h]
      simp

end Template

end TemplateMatch
