import TemplateMatch.Json.Reader

/-!
Whole numbers of 64 bits: they are compared exactly (`eqv_integer`), and read back from their
decimal digits (`NumberText.read`).
-/

namespace TemplateMatch.Json

/-- A whole number that a signed or an unsigned word of 64 bits can hold. -/
def IsWord (n : Int) : Prop := -0x8000000000000000 ≤ n ∧ n < 0x10000000000000000

instance (n : Int) : Decidable (IsWord n) := inferInstanceAs (Decidable (_ ∧ _))

/-! ## Comparing -/

theorem ofInt_beq_ofInt {m n : Int} (hm : -0x8000000000000000 ≤ m ∧ m < 0x8000000000000000)
    (hn : -0x8000000000000000 ≤ n ∧ n < 0x8000000000000000) :
    (Int64.ofInt m == Int64.ofInt n) = decide (m = n) := by
  have hinj : Int64.ofInt m = Int64.ofInt n ↔ m = n := by
    refine ⟨fun h => ?_, congrArg Int64.ofInt⟩
    have hmword : (Int64.ofInt m).toInt = m := Int64.toInt_ofInt_of_le (by omega) (by omega)
    have hnword : (Int64.ofInt n).toInt = n := Int64.toInt_ofInt_of_le (by omega) (by omega)
    rw [← hmword, h, hnword]
  rw [Bool.eq_iff_iff, beq_iff_eq, decide_eq_true_iff, hinj]

theorem ofNat_beq_ofNat {m n : Int} (hm : 0 ≤ m ∧ m < 0x10000000000000000)
    (hn : 0 ≤ n ∧ n < 0x10000000000000000) :
    (UInt64.ofNat m.toNat == UInt64.ofNat n.toNat) = decide (m = n) := by
  have hinj : UInt64.ofNat m.toNat = UInt64.ofNat n.toNat ↔ m = n := by
    refine ⟨fun h => ?_, congrArg fun k : Int => UInt64.ofNat k.toNat⟩
    have hnat := congrArg UInt64.toNat h
    rw [UInt64.toNat_ofNat', UInt64.toNat_ofNat', Nat.mod_eq_of_lt (by omega),
      Nat.mod_eq_of_lt (by omega)] at hnat
    omega
  rw [Bool.eq_iff_iff, beq_iff_eq, decide_eq_true_iff, hinj]

/-- Numbers that are not both signed words are compared as unsigned ones or as doubles. -/
theorem eqv_of_asInt64?_eq_none {a b : Number} (h : a.asInt64? = none ∨ b.asInt64? = none) :
    a.eqv b = match a.asUInt64?, b.asUInt64? with
      | some m, some n => m == n
      | _, _ => if a.isFloat || b.isFloat then a.toFloat == b.toFloat else false := by
  unfold Number.eqv
  cases ha : a.asInt64? with
  | none => rfl
  | some m =>
    cases hb : b.asInt64? with
    | none => rfl
    | some n => simp [ha, hb] at h

/-- Whole numbers of 64 bits are compared exactly, of whatever sign and size they are. -/
theorem eqv_integer {m n : Int} (hm : IsWord m) (hn : IsWord n) :
    (Number.integer m).eqv (.integer n) = decide (m = n) := by
  obtain ⟨hmlow, hmhigh⟩ := hm
  obtain ⟨hnlow, hnhigh⟩ := hn
  by_cases hsigned : m < 0x8000000000000000 ∧ n < 0x8000000000000000
  · have hm : (Number.integer m).asInt64? = some (.ofInt m) := if_pos ⟨hmlow, hsigned.1⟩
    have hn : (Number.integer n).asInt64? = some (.ofInt n) := if_pos ⟨hnlow, hsigned.2⟩
    rw [Number.eqv, hm, hn]
    exact ofInt_beq_ofInt ⟨hmlow, hsigned.1⟩ ⟨hnlow, hsigned.2⟩
  · have hnone : (Number.integer m).asInt64? = none ∨ (Number.integer n).asInt64? = none := by
      rw [Decidable.not_and_iff_not_or_not] at hsigned
      exact hsigned.imp (fun h => if_neg fun hm => h hm.2) (fun h => if_neg fun hn => h hn.2)
    rw [eqv_of_asInt64?_eq_none hnone]
    by_cases hunsigned : 0 ≤ m ∧ 0 ≤ n
    · have hm : (Number.integer m).asUInt64? = some (.ofNat m.toNat) :=
        if_pos ⟨hunsigned.1, hmhigh⟩
      have hn : (Number.integer n).asUInt64? = some (.ofNat n.toNat) :=
        if_pos ⟨hunsigned.2, hnhigh⟩
      rw [hm, hn]
      exact ofNat_beq_ofNat ⟨hunsigned.1, hmhigh⟩ ⟨hunsigned.2, hnhigh⟩
    · -- One is negative and the other one beyond the signed words.
      have hne : m ≠ n := by omega
      have hnone : (Number.integer m).asUInt64? = none ∨ (Number.integer n).asUInt64? = none := by
        rw [Decidable.not_and_iff_not_or_not] at hunsigned
        exact hunsigned.imp (fun h => if_neg fun hm => h hm.1) (fun h => if_neg fun hn => h hn.1)
      rw [decide_eq_false hne]
      obtain h | h := hnone
      · rw [h]
        rfl
      · rw [h]
        cases (Number.integer m).asUInt64? <;> rfl

/-! ## Reading -/

/-- What stands behind the digits of a whole number: nothing that would go on with the number. -/
def EndsNumber (rest : List Char) : Prop :=
  ∀ c ∈ rest.head?, c.isDigit = false ∧ c ≠ '.' ∧ c ≠ 'e' ∧ c ≠ 'E'

theorem endsNumber_nil : EndsNumber [] := nofun

theorem endsNumber_cons {c : Char} {rest : List Char}
    (h : c.isDigit = false ∧ c ≠ '.' ∧ c ≠ 'e' ∧ c ≠ 'E') : EndsNumber (c :: rest) := by
  rintro _ ⟨⟩
  exact h

theorem endsNumber_space {c : Char} (h : isSpace c = true) (rest : List Char) :
    EndsNumber (c :: rest) := by
  simp only [isSpace, Bool.or_eq_true, beq_iff_eq] at h
  obtain ((rfl | rfl) | rfl) | rfl := h <;> exact endsNumber_cons (by decide)

theorem le_ofDigitChars (ds : List Char) (n : Nat) : n ≤ Nat.ofDigitChars 10 ds n := by
  induction ds generalizing n with
  | nil => exact Nat.le_refl n
  | cons c ds ih =>
    rw [Nat.ofDigitChars_cons]
    exact Nat.le_trans (by omega) (ih _)

/-- Digits of a number below `2 ^ 64` are all taken in. -/
theorem absorb_eq {ds : List Char} {n : Nat}
    (h : Nat.ofDigitChars 10 ds n < 0x10000000000000000) :
    absorb n ds = (Nat.ofDigitChars 10 ds n, 0) := by
  induction ds generalizing n with
  | nil => rfl
  | cons c ds ih =>
    rw [Nat.ofDigitChars_cons, Nat.mul_comm] at h ⊢
    have hnext := Nat.lt_of_le_of_lt (le_ofDigitChars ds _) h
    unfold absorb
    exact (if_pos hnext).trans (ih h)

/-- Only zero has a zero in front. -/
theorem exists_toDigits_eq_cons {n : Nat} (hn : n ≠ 0) :
    ∃ c ds, Nat.toDigits 10 n = c :: ds ∧ c ≠ '0' := by
  induction n using Nat.strongRecOn with
  | ind n ih =>
    rw [Nat.toDigits_eq_if (by decide)]
    by_cases hlt : n < 10
    · rw [if_pos hlt]
      refine ⟨n.digitChar, [], rfl, ?_⟩
      simp [hn]
    · obtain ⟨c, ds, heq, hc⟩ := ih (n / 10) (by omega) (by omega)
      rw [if_neg hlt, heq]
      exact ⟨c, _, List.cons_append, hc⟩

variable {rest : List Char}

theorem readNumberTail_end (h : EndsNumber rest) (negative : Bool) (n : Nat) (p : Place) :
    readNumberTail negative n 0 p rest =
      if !negative then .ok (.integer n, p, rest)
      else if 0 < n ∧ n ≤ 0x8000000000000000 then .ok (.integer (-n), p, rest)
      else .ok (.float (-(n.toUInt64.toFloat)), p, rest) := by
  unfold readNumberTail
  split
  · exact absurd rfl (h _ rfl).2.1
  · exact absurd rfl (h _ rfl).2.2.1
  · exact absurd rfl (h _ rfl).2.2.2
  · rfl

theorem readNumber_toDigits (h : EndsNumber rest) {n : Nat} (hn : n < 0x10000000000000000)
    (negative : Bool) (p : Place) :
    ∃ q, readNumber negative p (Nat.toDigits 10 n ++ rest) =
      readNumberTail negative n 0 q rest := by
  have hrest : rest.takeWhile Char.isDigit = [] ∧ rest.dropWhile Char.isDigit = rest := by
    cases rest with
    | nil => exact ⟨rfl, rfl⟩
    | cons c rest => simp [(h c rfl).1]
  by_cases hzero : n = 0
  · subst hzero
    refine ⟨p.after '0', ?_⟩
    have hnext : (rest.head?.map Char.isDigit).getD false = false := by
      cases rest with
      | nil => rfl
      | cons c rest => simp [(h c rfl).1]
    simp [readNumber, hnext]
  · have hdigits : ∀ c ∈ Nat.toDigits 10 n, c.isDigit = true := fun c hc =>
      Nat.isDigit_of_mem_toDigits (by decide) (by decide) hc
    have habsorb : absorb 0 (Nat.toDigits 10 n) = (n, 0) := by
      have hvalue : Nat.ofDigitChars 10 (Nat.toDigits 10 n) 0 = n :=
        Nat.ofDigitChars_ten_toDigits
      rw [absorb_eq (by rwa [hvalue]), hvalue]
    obtain ⟨c, ds, heq, hc⟩ := exists_toDigits_eq_cons hzero
    have hfirst : c.isDigit = true := hdigits c (heq ▸ List.mem_cons_self)
    refine ⟨p.afterAll (Nat.toDigits 10 n), ?_⟩
    rw [heq] at hdigits habsorb ⊢
    simp only [List.cons_append, readNumber, hfirst, hc, Bool.not_true, Bool.false_eq_true,
      if_false]
    rw [← List.cons_append, List.takeWhile_append_of_pos hdigits,
      List.dropWhile_append_of_pos hdigits, hrest.1, hrest.2, List.append_nil, habsorb]

/-- What the text `-0` is read as. -/
def Number.negativeZero : Number := .float (-((0 : Nat).toUInt64.toFloat))

theorem eqv_negativeZero : Number.negativeZero.eqv .negativeZero = true := by
  decide +kernel

/-- The texts of whole numbers: decimal digits, and zero with a sign. -/
inductive NumberText : Number → List Char → Prop
  | integer {n : Int} : IsWord n → NumberText (.integer n) (toString n).toList
  | negativeZero : NumberText .negativeZero ['-', '0']

theorem toList_toString_of_nonneg {n : Int} (h : 0 ≤ n) :
    (toString n).toList = Nat.toDigits 10 n.toNat := by
  rw [Int.toString_eq_repr, Int.repr_eq_if, if_pos h, Nat.toList_repr]

theorem toList_toString_of_neg {n : Int} (h : n < 0) :
    (toString n).toList = '-' :: Nat.toDigits 10 (-n).toNat := by
  rw [Int.toString_eq_repr, Int.repr_eq_if, if_neg (by omega), String.toList_append,
    Nat.toList_repr]
  rfl

theorem NumberText.ne_nil {n : Number} {text : List Char} (h : NumberText n text) : text ≠ [] := by
  cases h with
  | @integer n _ =>
    by_cases hn : 0 ≤ n
    · rw [toList_toString_of_nonneg hn]
      exact Nat.toDigits_ne_nil
    · rw [toList_toString_of_neg (by omega)]
      exact List.cons_ne_nil _ _
  | negativeZero => exact List.cons_ne_nil _ _

theorem readValue_digit {c : Char} (hc : c.isDigit = true) (fuel depth : Nat) (p : Place)
    (rest : List Char) :
    readValue (fuel + 1) depth p (c :: rest) =
      (readNumber false p (c :: rest)).map fun r => (.number r.1, r.2) := by
  have hne (d : Char) (hd : d.isDigit = false) : c ≠ d := by
    rintro rfl
    rw [hc] at hd
    cases hd
  have hspace : isSpace c = false := by
    simp [isSpace, hne ' ' rfl, hne '\n' rfl, hne '\t' rfl, hne '\r' rfl]
  simp [readValue, skipSpace, hspace, hne '"' rfl, hne '[' rfl, hne '\x7b' rfl, hne 'n' rfl,
    hne 't' rfl, hne 'f' rfl, hne '-' rfl, hc]

theorem readValue_minus (fuel depth : Nat) (p : Place) (rest : List Char) :
    readValue (fuel + 1) depth p ('-' :: rest) =
      (readNumber true (p.after '-') rest).map fun r => (.number r.1, r.2) := by
  simp [readValue, skipSpace, show isSpace '-' = false from rfl]

/-- A whole number is read back from its text, wherever the text stands. -/
theorem NumberText.read {n : Number} {text : List Char} (h : NumberText n text)
    (hrest : EndsNumber rest) (fuel depth : Nat) (p : Place) :
    ∃ q, readValue (fuel + 1) depth p (text ++ rest) = .ok (.number n, q, rest) := by
  cases h with
  | @integer n hword =>
    obtain ⟨hlow, hhigh⟩ := hword
    by_cases hn : 0 ≤ n
    · obtain ⟨q, hread⟩ := readNumber_toDigits hrest (n := n.toNat) (by omega) false p
      rw [readNumberTail_end hrest] at hread
      rw [toList_toString_of_nonneg hn]
      obtain ⟨c, ds, heq⟩ :=
        List.exists_cons_of_ne_nil (@Nat.toDigits_ne_nil n.toNat 10)
      have hc : c.isDigit = true :=
        Nat.isDigit_of_mem_toDigits (by decide) (by decide) (heq ▸ List.mem_cons_self)
      refine ⟨q, ?_⟩
      rw [heq] at hread ⊢
      rw [List.cons_append, readValue_digit hc, ← List.cons_append, hread]
      simp [Except.map, Int.toNat_of_nonneg hn]
    · obtain ⟨q, hread⟩ :=
        readNumber_toDigits hrest (n := (-n).toNat) (by omega) true (p.after '-')
      rw [readNumberTail_end hrest] at hread
      refine ⟨q, ?_⟩
      rw [toList_toString_of_neg (by omega), List.cons_append, readValue_minus, hread]
      have hrange : 0 < (-n).toNat ∧ (-n).toNat ≤ 0x8000000000000000 := by omega
      have hvalue : -(((-n).toNat : Nat) : Int) = n := by omega
      rw [if_neg (by decide), if_pos hrange, hvalue]
      rfl
  | negativeZero =>
    obtain ⟨q, hread⟩ := readNumber_toDigits hrest (n := 0) (by decide) true (p.after '-')
    rw [readNumberTail_end hrest] at hread
    refine ⟨q, ?_⟩
    rw [List.cons_append, readValue_minus]
    exact congrArg (Except.map _) hread

end TemplateMatch.Json
