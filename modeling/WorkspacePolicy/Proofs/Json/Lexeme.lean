/-
# Proofs.Json.Lexeme — whole numbers are read back from JSON text

A whole number that has a text is read back from its digits, as long as what follows does not go
on with the number (`readNumber_intChars`).
-/
import WorkspacePolicy.Json.Reader
import WorkspacePolicy.Proofs.Except
import WorkspacePolicy.Proofs.Term.Lexeme

namespace WorkspacePolicy

set_option autoImplicit false

/-! ## Digits -/

namespace Decimal

theorem isDigit_eq (c : Char) : isDigit c = c.isDigit := rfl

theorem value_toDigits (n : Nat) : value (Nat.toDigits 10 n) = n := by
  rw [value, ← Nat.ofDigitChars_eq_foldl]
  exact Nat.ofDigitChars_ten_toDigits

theorem spanDigits_append {digits rest : List Char} (areDigits : ∀ c ∈ digits, c.isDigit)
    (stops : ∀ c ∈ rest.head?, c.isDigit = false) :
    spanDigits (digits ++ rest) = (digits, rest) := by
  have inRun : ∀ c ∈ digits, isDigit c = true := areDigits
  unfold spanDigits
  rw [List.takeWhile_append_of_pos inRun, List.dropWhile_append_of_pos inRun]
  cases rest with
  | nil => simp
  | cons c rest => simp [isDigit_eq, stops c rfl]

/-- The whole part of a numeral: a single zero, or digits of which the first is not a zero. -/
inductive IsWholePart : List Char → Prop
  | zero : IsWholePart ['0']
  | digits {c : Char} {more : List Char} (first : c ≠ '0') (all : ∀ d ∈ c :: more, d.isDigit) :
      IsWholePart (c :: more)

theorem IsWholePart.begins {whole : List Char} (part : IsWholePart whole) :
    ∃ c more, whole = c :: more ∧ c.isDigit := by
  cases part with
  | zero => exact ⟨'0', [], rfl, rfl⟩
  | @digits c more _ all => exact ⟨c, more, rfl, all c List.mem_cons_self⟩

/-- What may follow a whole number: nothing that goes on with its digits, and neither a fraction
nor an exponent. -/
def EndsWhole (rest : List Char) : Prop :=
  ∀ c ∈ rest.head?, c.isDigit = false ∧ c ≠ '.' ∧ c ≠ 'e' ∧ c ≠ 'E'

theorem scanAfterWhole_of_ends (whole : List Char) {rest : List Char} (ends : EndsWhole rest) :
    scanAfterWhole whole rest = (⟨whole, [], 0, true⟩, rest) := by
  cases rest with
  | nil => rfl
  | cons c rest =>
      obtain ⟨-, noPoint, noMark, noMark'⟩ := ends c rfl
      simp [scanAfterWhole, scanExponent, noPoint, noMark, noMark']

end Decimal

namespace Number

theorem exists_head_toDigits (n : Nat) :
    ∃ c more, Nat.toDigits 10 n = c :: more ∧ c.isDigit := by
  cases text : Nat.toDigits 10 n with
  | nil => exact absurd text Nat.toDigits_ne_nil
  | cons c more => exact ⟨c, more, rfl, isDigit_of_mem_toDigits (n := n) (by simp [text])⟩

/-- A whole number other than zero does not begin with a zero. -/
theorem head_toDigits {n : Nat} (nonzero : n ≠ 0) :
    ∃ c more, Nat.toDigits 10 n = c :: more ∧ c ≠ '0' := by
  induction n using Nat.base_induction 10 (by omega) with
  | single m small =>
      have firsts : ∀ m, m < 10 → m ≠ 0 → m.digitChar ≠ '0' := by decide
      exact ⟨m.digitChar, [], Nat.toDigits_of_lt_base small, firsts m small nonzero⟩
  | digit m k small positive ih =>
      obtain ⟨c, more, text, first⟩ := ih (by omega)
      rw [← Nat.toDigits_append_toDigits (by omega) positive small, text]
      exact ⟨c, _, rfl, first⟩

theorem isWholePart_toDigits (n : Nat) : Decimal.IsWholePart (Nat.toDigits 10 n) := by
  by_cases zero : n = 0
  · subst zero
    exact .zero
  · obtain ⟨c, more, text, first⟩ := head_toDigits zero
    rw [text]
    refine .digits first fun d member => ?_
    rw [← text] at member
    exact isDigit_of_mem_toDigits member

theorem length_toDigits_le {n limit : Nat} (some : 0 < limit) (short : n < Nat.pow 10 limit) :
    (Nat.toDigits 10 n).length ≤ limit :=
  (Nat.length_toDigits_le_iff (by omega) some).mpr short

end Number

namespace Json

open Decimal

/-! ## Numbers -/

theorem numberOf_toDigits (negative : Bool) {n : Nat}
    (short : n < Nat.pow 10 Number.digitLimit) :
    numberOf negative ⟨Nat.toDigits 10 n, [], 0, true⟩ =
      .ok (.int (if negative then -(n : Int) else n)) := by
  have notLong := Nat.not_lt.mpr (Number.length_toDigits_le (by decide) short)
  simp [numberOf, notLong, value_toDigits]

/-- A number is scanned from the end of its whole part on, with or without a minus sign. -/
theorem readNumber_wholePart {whole tail rest : List Char} {numeral : Numeral}
    (part : IsWholePart whole) (stops : ∀ c ∈ tail.head?, c.isDigit = false)
    (scanned : scanAfterWhole whole tail = (numeral, rest)) :
    readNumber (whole ++ tail) = (numberOf false numeral).map (·, rest) ∧
      readNumber ('-' :: (whole ++ tail)) = (numberOf true numeral).map (·, rest) := by
  have mapped (negative : Bool) : (do
      return (← numberOf negative numeral, rest)) = (numberOf negative numeral).map (·, rest) := by
    cases numberOf negative numeral <;> rfl
  cases part with
  | zero =>
      refine ⟨?_, ?_⟩
      · simp only [readNumber, List.cons_append, List.nil_append, List.cons.injEq, Char.reduceEq,
          false_and, imp_self, implies_true, scanned]
        exact mapped false
      · simp only [readNumber, List.cons_append, List.nil_append, scanned]
        exact mapped true
  | @digits c more first all =>
      have notMinus : c ≠ '-' := by
        rintro rfl
        exact absurd (all '-' List.mem_cons_self) (by decide)
      have spanned : spanDigits (c :: (more ++ tail)) = (c :: more, tail) := by
        rw [← List.cons_append]
        exact spanDigits_append all stops
      refine ⟨?_, ?_⟩
      · simp only [readNumber, List.cons_append, List.cons.injEq, notMinus, first, false_and,
          imp_self, implies_true, spanned, scanned]
        exact mapped false
      · simp only [readNumber, List.cons_append, List.cons.injEq, first, false_and, imp_self,
          implies_true, spanned, scanned]
        exact mapped true

/-- The digits of a number, after a minus sign if it has one. -/
theorem readNumber_toDigits {n : Nat} (short : n < Nat.pow 10 Number.digitLimit)
    {rest : List Char} (ends : EndsWhole rest) :
    readNumber (Nat.toDigits 10 n ++ rest) = .ok (.int n, rest) ∧
      readNumber ('-' :: Nat.toDigits 10 n ++ rest) = .ok (.int (-(n : Int)), rest) := by
  have read := readNumber_wholePart (Number.isWholePart_toDigits n)
    (fun c first => (ends c first).1) (scanAfterWhole_of_ends _ ends)
  simp only [numberOf_toDigits _ short] at read
  exact read

/-- **A whole number is read back from its text.** -/
theorem readNumber_intChars {i : Int} (short : (Number.int i).isWritable) {rest : List Char}
    (ends : EndsWhole rest) :
    readNumber (Number.intChars i ++ rest) = .ok (.int i, rest) := by
  simp only [Number.isWritable, decide_eq_true_eq] at short
  cases i with
  | ofNat n => exact (readNumber_toDigits short ends).1
  | negSucc n =>
      rw [Int.natAbs_negSucc] at short
      exact (readNumber_toDigits short ends).2

end Json

end WorkspacePolicy
