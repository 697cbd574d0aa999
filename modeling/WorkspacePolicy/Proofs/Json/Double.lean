/-
# Proofs.Json.Double — doubles are read back from JSON text

The text of a finite double is a numeral with a fraction or an exponent, and its value is that of
the double's shortest decimal, in every place where the point may stand (`isNumeral_decimalChars`).
So it is read as the double (`readNumber_chars`), as long as what follows does not go on with the
number.
-/
import WorkspacePolicy.Proofs.Json.Lexeme
import WorkspacePolicy.Proofs.Number.Shortest
import WorkspacePolicy.Proofs.Text.Trim

namespace WorkspacePolicy

set_option autoImplicit false

/-! ## Values of digits -/

namespace Decimal

theorem value_append (digits more : List Char) :
    value (digits ++ more) = value digits * 10 ^ more.length + value more := by
  induction more using List.reverseRecOn with
  | nil => simp [value]
  | append_singleton more c ih =>
      simp only [value, ← List.append_assoc, List.foldl_append, List.foldl_cons,
        List.foldl_nil] at ih ⊢
      rw [ih, List.length_append, List.length_singleton]
      ring

theorem value_zeros {zeros : List Char} (all : ∀ c ∈ zeros, c = '0') : value zeros = 0 := by
  induction zeros using List.reverseRecOn with
  | nil => rfl
  | append_singleton zeros c ih =>
      obtain ⟨before, last⟩ := List.forall_mem_append.mp all
      have here : c = '0' := last c List.mem_cons_self
      rw [value_append, ih before, here]
      rfl

/-- Zeros at the end of the digits count by their place only. -/
theorem toRat_ofDigits (digits : List Char) (exponent : ℤ) :
    (ofDigits digits exponent).toRat = value digits * 10 ^ exponent := by
  obtain ⟨zeros, whole, all⟩ := Text.exists_run_trimEnd (· == '0') digits
  have lengths := congrArg List.length whole
  have values := congrArg value whole
  rw [List.length_append] at lengths
  rw [value_append, value_zeros fun c member => beq_iff_eq.mp (all c member), add_zero] at values
  simp only [ofDigits, toRat]
  rw [lengths, Nat.add_sub_cancel_left, values, zpow_add₀ (by norm_num), zpow_natCast]
  push_cast
  ring

end Decimal

/-! ## Numerals -/

namespace Decimal

/-- What stands after the whole part of a numeral: the fraction and the exponent, if there are. -/
def numeralTail (layout : FloatLayout) (fraction : List Char) (exponent : Option ℤ) : List Char :=
  (if fraction = [] then [] else '.' :: fraction) ++ exponent.elim [] layout.exponentChars

variable {layout : FloatLayout} {whole fraction rest : List Char} {exponent : Option ℤ}

theorem scanExponent_of_ends (ends : EndsWhole rest) : scanExponent rest = none := by
  cases rest with
  | nil => rfl
  | cons c rest =>
      obtain ⟨-, -, noMark, noMark'⟩ := ends c rfl
      simp [scanExponent, noMark, noMark']

theorem value_replicate_append (width : ℕ) (digits : List Char) :
    value (List.replicate width '0' ++ digits) = value digits := by
  rw [value_append, value_zeros fun c member => List.eq_of_mem_replicate member]
  simp

theorem scanExponent_exponentChars (layout : FloatLayout) (e : ℤ) (ends : EndsWhole rest) :
    scanExponent (layout.exponentChars e ++ rest) = some (e, rest) := by
  simp only [FloatLayout.exponentChars]
  generalize layout.exponentWidth - (Nat.toDigits 10 e.natAbs).length = width
  have areDigits : ∀ c ∈ List.replicate width '0' ++ Nat.toDigits 10 e.natAbs, c.isDigit := by
    refine List.forall_mem_append.mpr ⟨fun c member => ?_, fun c member => ?_⟩
    · rw [List.eq_of_mem_replicate member]
      rfl
    · exact Number.isDigit_of_mem_toDigits member
  have spanned := spanDigits_append areDigits fun c first => (ends c first).1
  have read : value (List.replicate width '0' ++ Nat.toDigits 10 e.natAbs) = e.natAbs := by
    rw [value_replicate_append, value_toDigits]
  obtain ⟨c, more, text⟩ := List.exists_cons_of_ne_nil
    (List.append_ne_nil_of_right_ne_nil (List.replicate width '0')
      (Nat.toDigits_ne_nil (n := e.natAbs) (b := 10)))
  rw [text] at spanned read ⊢
  rw [List.cons_append] at spanned
  by_cases sign : e < 0
  · simp [scanExponent, sign, spanned, read, abs_of_neg sign]
  · simp [scanExponent, sign, spanned, read, abs_of_nonneg (not_lt.mp sign)]

/-- The exponent of a numeral, if it has one, before what ends the numeral. -/
theorem scanExponent_elim (layout : FloatLayout) (exponent : Option ℤ) (ends : EndsWhole rest) :
    scanExponent (exponent.elim [] layout.exponentChars ++ rest) =
      exponent.map (·, rest) := by
  cases exponent with
  | none => exact scanExponent_of_ends ends
  | some e => exact scanExponent_exponentChars layout e ends

theorem head_elim (layout : FloatLayout) (exponent : Option ℤ) (ends : EndsWhole rest) :
    ∀ c ∈ (exponent.elim [] layout.exponentChars ++ rest).head?, c.isDigit = false ∧ c ≠ '.' := by
  cases exponent with
  | none => exact fun c first => ⟨(ends c first).1, (ends c first).2.1⟩
  | some e =>
      rintro c ⟨⟩
      decide

theorem head_numeralTail (ends : EndsWhole rest) :
    ∀ c ∈ (numeralTail layout fraction exponent ++ rest).head?, c.isDigit = false := by
  rw [numeralTail, List.append_assoc]
  split
  · exact fun c first => (head_elim layout exponent ends c first).1
  · rintro c ⟨⟩
    rfl

/-- **A numeral with a fraction or an exponent is scanned to its end.** -/
theorem scanAfterWhole_numeralTail (digits : ∀ c ∈ fraction, c.isDigit)
    (notWhole : fraction ≠ [] ∨ exponent.isSome) (ends : EndsWhole rest) :
    scanAfterWhole whole (numeralTail layout fraction exponent ++ rest) =
      (⟨whole, fraction, exponent.getD 0, false⟩, rest) := by
  have scanned := scanExponent_elim layout exponent ends
  have stops := head_elim layout exponent ends
  rw [numeralTail, List.append_assoc]
  cases fraction with
  | nil =>
      obtain ⟨e, rfl⟩ := Option.isSome_iff_exists.mp (notWhole.resolve_left fun none => none rfl)
      generalize (some e).elim [] layout.exponentChars ++ rest = after at scanned stops
      -- the mark of the exponent is no point, so that no fraction is scanned
      have noPoint : ∀ more, after ≠ '.' :: more := by
        rintro more rfl
        exact (stops '.' rfl).2 rfl
      simp [scanAfterWhole, scanned]
  | cons c more =>
      have spanned := spanDigits_append digits fun d first => (stops d first).1
      rw [List.cons_append] at spanned
      simp only [scanAfterWhole, List.cons_ne_nil, ↓reduceIte, List.cons_append, spanned, scanned]
      cases exponent <;> rfl

/-- The text is a numeral of the given value, with a fraction or an exponent. -/
inductive IsNumeral (layout : FloatLayout) (text : List Char) (r : ℚ) : Prop
  | intro (whole fraction : List Char) (exponent : Option ℤ) (part : IsWholePart whole)
      (digits : ∀ c ∈ fraction, c.isDigit) (notWhole : fraction ≠ [] ∨ exponent.isSome)
      (written : text = whole ++ numeralTail layout fraction exponent)
      (worth : r = value (whole ++ fraction) * 10 ^ (exponent.getD 0 - fraction.length))

theorem IsNumeral.begins {text : List Char} {r : ℚ} (numeral : IsNumeral layout text r) :
    ∃ c more, text = c :: more ∧ c.isDigit := by
  obtain ⟨whole, fraction, exponent, part, -, -, rfl, -⟩ := numeral
  obtain ⟨c, more, rfl, isDigit⟩ := part.begins
  exact ⟨c, _, rfl, isDigit⟩

/-- The digits of a decimal without the zeros at their end: they are there, the first is not a
zero, and the number of all digits gives their place. -/
theorem exists_digits {d : Decimal} (nonzero : d.coefficient ≠ 0) :
    ∃ c more, Text.trimEnd (· == '0') (Nat.toDigits 10 d.coefficient) = c :: more ∧ c ≠ '0' ∧
      (∀ x ∈ c :: more, x.isDigit) ∧ d.toRat = value (c :: more) *
        10 ^ (((Nat.toDigits 10 d.coefficient).length : ℤ) + d.exponent - (c :: more).length) := by
  obtain ⟨first, written, text, notZero⟩ := Number.head_toDigits nonzero
  obtain ⟨zeros, whole, all⟩ :=
    Text.exists_run_trimEnd (· == '0') (Nat.toDigits 10 d.coefficient)
  have worth := toRat_ofDigits (Nat.toDigits 10 d.coefficient) d.exponent
  rw [value_toDigits] at worth
  simp only [ofDigits, toRat] at worth
  cases trimmed : Text.trimEnd (· == '0') (Nat.toDigits 10 d.coefficient) with
  | nil =>
      rw [trimmed, text, List.nil_append] at whole
      have zero := all first (whole ▸ List.mem_cons_self)
      exact absurd (beq_iff_eq.mp zero) notZero
  | cons c more =>
      rw [trimmed] at whole worth
      have head : first = c := by
        rw [text] at whole
        exact (List.cons.inj whole).1
      refine ⟨c, more, rfl, head ▸ notZero, fun x member => ?_, ?_⟩
      · apply Number.isDigit_of_mem_toDigits (n := d.coefficient)
        rw [whole]
        exact List.mem_append_left zeros member
      · rw [toRat, ← worth, whole]
        congr 2
        simp only [List.length_append]
        omega

section

variable (layout) {c : Char} {more : List Char}

theorem isDigit_of_mem_zeros {width : ℕ} {x : Char} (member : x ∈ List.replicate width '0') :
    x.isDigit :=
  List.eq_of_mem_replicate member ▸ rfl

/-- The point before the first digit. -/
theorem isNumeral_pointBefore (areDigits : ∀ x ∈ c :: more, x.isDigit) (width : ℕ) :
    IsNumeral layout ('0' :: '.' :: (List.replicate width '0' ++ c :: more))
      (value (c :: more) * 10 ^ (-(width : ℤ) - (c :: more).length)) := by
  have fraction : List.replicate width '0' ++ c :: more ≠ [] :=
    List.append_ne_nil_of_right_ne_nil _ (List.cons_ne_nil c more)
  refine .intro ['0'] (List.replicate width '0' ++ c :: more) none .zero
    (List.forall_mem_append.mpr ⟨fun _ => isDigit_of_mem_zeros, areDigits⟩) (.inl fraction) ?_ ?_
  · simp [numeralTail]
  · rw [← List.append_assoc, ← List.replicate_one, ← List.replicate_add, value_replicate_append]
    congr 2
    rw [List.length_append, List.length_replicate, Option.getD_none]
    omega

/-- The point after the last digit. -/
theorem isNumeral_pointAfter (first : c ≠ '0') (areDigits : ∀ x ∈ c :: more, x.isDigit)
    (width : ℕ) : IsNumeral layout (c :: more ++ List.replicate width '0' ++ ['.', '0'])
      (value (c :: more) * 10 ^ (width : ℤ)) := by
  have whole : ∀ x ∈ c :: (more ++ List.replicate width '0'), x.isDigit :=
    List.forall_mem_append.mpr ⟨areDigits, fun _ => isDigit_of_mem_zeros⟩
  refine .intro (c :: (more ++ List.replicate width '0')) ['0'] none (.digits first whole)
    (List.forall_mem_singleton.mpr rfl) (.inl (List.cons_ne_nil _ _)) ?_ ?_
  · simp [numeralTail]
  · have zeros : ∀ x ∈ List.replicate width '0' ++ ['0'], x = '0' :=
      List.forall_mem_append.mpr
        ⟨fun _ => List.eq_of_mem_replicate, List.forall_mem_singleton.mpr rfl⟩
    rw [← List.cons_append, List.append_assoc, value_append, value_zeros zeros, List.length_append,
      List.length_replicate]
    push_cast
    rw [add_zero, mul_assoc, ← zpow_natCast, ← zpow_add₀ (by norm_num)]
    congr 2
    simp

/-- The point among the digits. -/
theorem isNumeral_pointAmong (first : c ≠ '0') (areDigits : ∀ x ∈ c :: more, x.isDigit)
    {before : ℕ} (within : before < more.length) :
    IsNumeral layout (c :: more.take before ++ '.' :: more.drop before)
      (value (c :: more) * 10 ^ ((before + 1 : ℤ) - (c :: more).length)) := by
  obtain ⟨here, others⟩ := List.forall_mem_cons.mp areDigits
  have fraction : more.drop before ≠ [] := by simpa using within
  refine .intro (c :: more.take before) (more.drop before) none (.digits first ?_)
    (fun x member => others x (List.mem_of_mem_drop member)) (.inl fraction) ?_ ?_
  · exact List.forall_mem_cons.mpr ⟨here, fun x member => others x (List.mem_of_mem_take member)⟩
  · simp [numeralTail, fraction]
  · rw [List.cons_append, List.take_append_drop]
    congr 2
    rw [List.length_drop, List.length_cons, Option.getD_none]
    omega

/-- One digit before the point and an exponent. -/
theorem isNumeral_exponent (first : c ≠ '0') (areDigits : ∀ x ∈ c :: more, x.isDigit)
    (exponent : ℤ) : IsNumeral layout (c :: numeralTail layout more (some exponent))
      (value (c :: more) * 10 ^ (exponent - more.length)) := by
  obtain ⟨here, others⟩ := List.forall_mem_cons.mp areDigits
  exact .intro [c] more (some exponent) (.digits first (List.forall_mem_singleton.mpr here)) others
    (.inr rfl) rfl rfl

end

/-- **A decimal is laid out as a numeral of its value**, wherever the point may stand. -/
theorem isNumeral_decimalChars (layout : FloatLayout) {d : Decimal} (nonzero : d.coefficient ≠ 0) :
    IsNumeral layout (layout.decimalChars d) d.toRat := by
  obtain ⟨c, more, trimmed, first, areDigits, same⟩ := exists_digits nonzero
  rw [same]
  simp only [FloatLayout.decimalChars, trimmed]
  generalize ((Nat.toDigits 10 d.coefficient).length : ℤ) + d.exponent = point
  split
  -- positional: the point stands before, after or among the digits
  · split
    · next leading =>
        have zeros : point = -((-point).toNat : ℤ) := by omega
        have numeral := isNumeral_pointBefore layout areDigits (-point).toNat
        rwa [← zeros] at numeral
    · next within =>
        obtain ⟨before, rfl⟩ : ∃ before : ℕ, point = before + 1 := ⟨(point - 1).toNat, by omega⟩
        have count : ((before : ℤ) + 1).toNat = before + 1 := by omega
        rw [count]
        split
        · next short =>
            have numeral := isNumeral_pointAfter layout first areDigits
              (before + 1 - (c :: more).length)
            rwa [Nat.cast_sub short, Nat.cast_add_one] at numeral
        · next long =>
            rw [List.length_cons] at long
            exact isNumeral_pointAmong layout first areDigits (by omega)
  -- with an exponent, and a point only if there is more than one digit
  · have numeral := isNumeral_exponent layout first areDigits (point - 1)
    have place : point - 1 - more.length = point - (c :: more).length := by
      rw [List.length_cons]
      omega
    rw [place] at numeral
    cases more with
    | nil => exact numeral
    | cons d more => exact numeral

end Decimal

namespace Binary64

/-- The double is neither infinite nor the value that is not a number. -/
def isFinite : Binary64 → Bool
  | .nan => false
  | .signed _ rank => rank.val < infiniteRank

/-- **A finite double is written as a numeral that is nearest to it**, after its sign. -/
theorem chars_of_isFinite (layout : FloatLayout) {x : Binary64} (finite : x.isFinite) :
    ∃ negative text r, layout.chars x = (if negative then '-' :: text else text) ∧
      Decimal.IsNumeral layout text r ∧
        x = ofRank negative (min (rankNearest r) infiniteRank) := by
  cases x with
  | nan => cases finite
  | signed negative rank =>
      have below : rank.val < infiniteRank := of_decide_eq_true finite
      have same : Binary64.signed negative rank = ofRank negative rank.val := by
        have bound := min_eq_left below.le
        simp only [ofRank, bound]
      by_cases zero : rank.val = 0
      · refine ⟨negative, ['0', '.', '0'], 0, ?_, ?_, ?_⟩
        · have finite : 0 ≠ infiniteRank := by decide
          simp [FloatLayout.chars, zero, finite]
        · exact .intro ['0'] ['0'] none .zero (List.forall_mem_singleton.mpr rfl)
            (.inl (List.cons_ne_nil _ _)) rfl (by simp [Decimal.value])
        · rw [same, zero]
          rfl
      · have reads := rankOfDecimal_shortestDecimal below.le
        have nonzero : (shortestDecimal rank.val).coefficient ≠ 0 := by
          intro none
          rw [rankOfDecimal, if_pos none] at reads
          exact zero reads.symm
        refine ⟨negative, _, _, ?_, Decimal.isNumeral_decimalChars layout nonzero, ?_⟩
        · simp [FloatLayout.chars, below.ne, zero]
        · rw [← rankOfDecimal_eq, reads, same]

end Binary64

/-- The number is whole or a finite double. -/
def Number.isFinite : Number → Bool
  | .int _ => true
  | .float x => x.isFinite

namespace Json

open Decimal

/-- A numeral is read as the double nearest to its value, with the sign before it. -/
theorem readNumber_isNumeral {layout : FloatLayout} {text rest : List Char} {r : ℚ}
    (numeral : IsNumeral layout text r) (ends : EndsWhole rest) (negative : Bool) :
    readNumber ((if negative then '-' :: text else text) ++ rest) = .ok (.float (.ofRank negative
      (min (Binary64.rankNearest r) Binary64.infiniteRank)), rest) := by
  obtain ⟨whole, fraction, exponent, part, digits, notWhole, rfl, rfl⟩ := numeral
  have scanned : scanAfterWhole whole (numeralTail layout fraction exponent ++ rest) =
      (⟨whole, fraction, exponent.getD 0, false⟩, rest) :=
    scanAfterWhole_numeralTail digits notWhole ends
  obtain ⟨plain, minus⟩ := readNumber_wholePart part (head_numeralTail ends) scanned
  have nearest (negative : Bool) :
      numberOf negative ⟨whole, fraction, exponent.getD 0, false⟩ = .ok (.float (.ofRank negative
        (min (Binary64.rankNearest (value (whole ++ fraction) *
          10 ^ (exponent.getD 0 - fraction.length))) Binary64.infiniteRank))) := by
    simp only [numberOf, Bool.false_eq_true, ↓reduceIte, Binary64.ofDecimal, Numeral.decimal,
      Binary64.rankOfDecimal_eq, toRat_ofDigits]
  rw [nearest, Except.map] at plain minus
  cases negative with
  | false => simpa using plain
  | true => simpa using minus

/-- A finite double is read back from its text. -/
theorem readNumber_chars {x : Binary64} (finite : x.isFinite) {rest : List Char}
    (ends : EndsWhole rest) :
    readNumber (FloatLayout.json.chars x ++ rest) = .ok (.float x, rest) := by
  obtain ⟨negative, text, r, written, numeral, same⟩ := x.chars_of_isFinite .json finite
  rw [written, readNumber_isNumeral numeral ends, ← same]

/-- **A number is read back from its text**, if it has one and is finite. -/
theorem readNumber_charsWith {n : Number} (short : n.isWritable) (finite : n.isFinite)
    {rest : List Char} (ends : EndsWhole rest) :
    readNumber (n.charsWith .json ++ rest) = .ok (n, rest) := by
  cases n with
  | int i => exact readNumber_intChars short ends
  | float x => exact readNumber_chars finite ends

end Json

/-- The text of a number begins with a digit, or with a minus sign before one. -/
theorem Number.head_charsWith {n : Number} (finite : n.isFinite) :
    ∃ c more, c.isDigit ∧
      (n.charsWith .json = c :: more ∨ n.charsWith .json = '-' :: c :: more) := by
  cases n with
  | int i =>
      cases i with
      | ofNat n =>
          obtain ⟨c, more, text, isDigit⟩ := exists_head_toDigits n
          exact ⟨c, more, isDigit, .inl text⟩
      | negSucc n =>
          obtain ⟨c, more, text, isDigit⟩ := exists_head_toDigits (n + 1)
          exact ⟨c, more, isDigit, .inr (congrArg ('-' :: ·) text)⟩
  | float x =>
      obtain ⟨negative, text, r, written, numeral, -⟩ := x.chars_of_isFinite .json finite
      obtain ⟨c, more, rfl, isDigit⟩ := numeral.begins
      refine ⟨c, more, isDigit, ?_⟩
      cases negative with
      | false => exact .inl written
      | true => exact .inr written

end WorkspacePolicy
