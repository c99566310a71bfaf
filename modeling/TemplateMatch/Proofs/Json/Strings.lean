import Mathlib.Tactic.SplitIfs
import TemplateMatch.Json.Reader
import TemplateMatch.Json.Writer

/-!
Strings are read back from their escapes (`readString_quoted`), whatever characters they have.
-/

namespace TemplateMatch.Json

theorem hexDigit?_hexDigit {n : Nat} (h : n < 16) : Unicode.hexDigit? (hexDigit n) = some n := by
  revert n
  decide

/-- A control character is read back from its code. -/
theorem readUnicodeEscape_control {c : Char} (hc : c.toNat < 0x20) (p : Place)
    (rest : List Char) :
    readUnicodeEscape p ('0' :: '0' :: hexDigit (c.toNat / 16) :: hexDigit (c.toNat % 16) :: rest) =
      .ok (c, ⟨p.line, p.column + 4⟩, rest) := by
  have hhigh : c.toNat / 16 < 16 := by omega
  have hlow : c.toNat % 16 < 16 := Nat.mod_lt _ (by decide)
  have hsize (a b : Char) : ¬ (String.ofList ['0', '0', a, b]).utf8ByteSize < 4 := by
    have ha := a.utf8Size_pos
    have hb := b.utf8Size_pos
    have hzero : Char.utf8Size '0' = 1 := by decide
    simp only [String.ofList_cons, String.utf8ByteSize_append, String.utf8ByteSize_singleton,
      Nat.not_lt]
    omega
  have hcode : ((0 * 16 + 0) * 16 + c.toNat / 16) * 16 + c.toNat % 16 = c.toNat := by omega
  have hzero : Unicode.hexDigit? '0' = some 0 := rfl
  have hfour : readHexFour p
      ('0' :: '0' :: hexDigit (c.toNat / 16) :: hexDigit (c.toNat % 16) :: rest) =
      .ok (c.toNat, ⟨p.line, p.column + 4⟩, rest) := by
    simp only [readHexFour, List.take_succ_cons, List.take_zero, if_neg (hsize _ _), hzero,
      hexDigit?_hexDigit hhigh, hexDigit?_hexDigit hlow, hcode]
  have hleading : isLeading c.toNat = false := by
    simp [isLeading]
    omega
  have htrailing : isTrailing c.toNat = false := by
    simp [isTrailing]
    omega
  rw [readUnicodeEscape, hfour]
  simp [hleading, htrailing]

/-- A character is escaped by a letter or by its code, or it stands for itself. -/
theorem escapeChar_cases (c : Char) :
    (∃ letter, letter ≠ 'u' ∧ escapeLetters.lookup letter = some c ∧
      escapeChar c = ['\\', letter]) ∨
    (c.toNat < 0x20 ∧ escapeChar c =
      ['\\', 'u', '0', '0', hexDigit (c.toNat / 16), hexDigit (c.toNat % 16)]) ∨
    (c ≠ '"' ∧ c ≠ '\\' ∧ ¬ c.toNat < 0x20 ∧ escapeChar c = [c]) := by
  unfold escapeChar
  split_ifs with hquote hslash hback hfeed hline hreturn htab hcontrol
  · exact .inl ⟨'"', by decide, by rw [hquote]; rfl, rfl⟩
  · exact .inl ⟨'\\', by decide, by rw [hslash]; rfl, rfl⟩
  · exact .inl ⟨'b', by decide, by rw [hback]; rfl, rfl⟩
  · exact .inl ⟨'f', by decide, by rw [hfeed]; rfl, rfl⟩
  · exact .inl ⟨'n', by decide, by rw [hline]; rfl, rfl⟩
  · exact .inl ⟨'r', by decide, by rw [hreturn]; rfl, rfl⟩
  · exact .inl ⟨'t', by decide, by rw [htab]; rfl, rfl⟩
  · exact .inr (.inl ⟨hcontrol, rfl⟩)
  · exact .inr (.inr ⟨hquote, hslash, hcontrol, rfl⟩)

theorem readStringFrom_escapeChar (c : Char) (fuel : Nat) (done : List Char) (p : Place)
    (rest : List Char) :
    ∃ q, readStringFrom (fuel + 1) done p (escapeChar c ++ rest) =
      readStringFrom fuel (c :: done) q rest := by
  obtain ⟨letter, hu, hletter, hescape⟩ | ⟨hcontrol, hescape⟩ |
    ⟨hquote, hslash, hcontrol, hescape⟩ := escapeChar_cases c
  · refine ⟨(p.after '\\').after letter, ?_⟩
    simp [hescape, readStringFrom, readStringEscape, hu, hletter]
  · let code := (p.after '\\').after 'u'
    refine ⟨⟨code.line, code.column + 4⟩, ?_⟩
    simp [hescape, readStringFrom, readStringEscape, readUnicodeEscape_control hcontrol, code]
  · refine ⟨p.after c, ?_⟩
    simp [hescape, readStringFrom, hquote, hslash, hcontrol]

theorem length_le_length_flatMap_escapeChar (text : List Char) :
    text.length ≤ (text.flatMap escapeChar).length := by
  induction text with
  | nil => exact Nat.le_refl 0
  | cons c text ih =>
    have hpos : 0 < (escapeChar c).length := by
      obtain ⟨_, _, _, hescape⟩ | ⟨_, hescape⟩ | ⟨_, _, _, hescape⟩ := escapeChar_cases c <;>
        simp [hescape]
    rw [List.flatMap_cons, List.length_append, List.length_cons]
    omega

theorem readStringFrom_flatMap (text : List Char) {fuel : Nat} (hfuel : text.length < fuel)
    (done : List Char) (p : Place) (rest : List Char) :
    ∃ q, readStringFrom fuel done p (text.flatMap escapeChar ++ '"' :: rest) =
      .ok (String.ofList (done.reverse ++ text), q, rest) := by
  induction text generalizing fuel done p with
  | nil =>
    obtain ⟨fuel, rfl⟩ := Nat.exists_eq_succ_of_ne_zero (Nat.ne_zero_of_lt hfuel)
    refine ⟨p.after '"', ?_⟩
    simp [readStringFrom]
  | cons c text ih =>
    obtain ⟨fuel, rfl⟩ := Nat.exists_eq_succ_of_ne_zero (Nat.ne_zero_of_lt hfuel)
    rw [List.flatMap_cons, List.append_assoc]
    obtain ⟨q, hstep⟩ := readStringFrom_escapeChar c fuel done p
      (text.flatMap escapeChar ++ '"' :: rest)
    obtain ⟨q', hrest⟩ := ih (Nat.lt_of_succ_lt_succ hfuel) (c :: done) q
    refine ⟨q', ?_⟩
    rw [hstep, hrest, List.reverse_cons, List.append_assoc, List.singleton_append]

/-- A string is read back from its quotes, wherever they stand. -/
theorem readString_quoted (s : String) {fuel : Nat} (hfuel : (quoted s).length ≤ fuel + 1)
    (p : Place) (rest : List Char) :
    ∃ more q, quoted s ++ rest = '"' :: more ∧
      readString fuel p more = .ok (s, q, rest) := by
  have hlength : s.toList.length < fuel := by
    have hescaped := length_le_length_flatMap_escapeChar s.toList
    rw [quoted, List.length_cons, List.length_append, List.length_singleton] at hfuel
    omega
  obtain ⟨q, hread⟩ := readStringFrom_flatMap s.toList hlength [] p rest
  refine ⟨s.toList.flatMap escapeChar ++ '"' :: rest, q, ?_, ?_⟩
  · simp [quoted]
  · rw [readString, hread, List.reverse_nil, List.nil_append, String.ofList_toList]

end TemplateMatch.Json
