/-
# Proofs.Term.QuotedName — reading quoted names back

A reader of quoted names starts after the opening quote. A backslash begins an escape: one
of five characters, or `x` with hexadecimal digits and a closing backslash for a code. Any
other character stands for itself, and the first quote outside an escape ends the name.

`read_quoteChars`: what `quoteChars` writes is read back, and the reader stops exactly
where the name ends, whatever comes after it. So no character of a name can close its quote
early, and quoted names are told apart by their text (`quoteChars_append_inj`).
-/
import Mathlib.Tactic.SplitIfs
import WorkspacePolicy.Term.Quote

namespace WorkspacePolicy.Term

set_option autoImplicit false

/-- Where a reader stands inside a quoted name. -/
inductive NameReader where
  | plain
  | escape
  /-- Inside a code, with the value of the digits so far if there are any. -/
  | code (value : Option Nat)

namespace NameReader

/-- The character that a backslash and one more character stand for. -/
def escaped? : Char → Option Char
  | '\\' => some '\\'
  | '\'' => some '\''
  | 'n' => some '\n'
  | 't' => some '\t'
  | 'r' => some '\r'
  | _ => none

/-- The value of a hexadecimal digit. -/
def hexDigit? (c : Char) : Option Nat :=
  if '0' ≤ c ∧ c ≤ '9' then some (c.toNat - '0'.toNat)
  else if 'a' ≤ c ∧ c ≤ 'f' then some (c.toNat - 'a'.toNat + 10)
  else if 'A' ≤ c ∧ c ≤ 'F' then some (c.toNat - 'A'.toNat + 10)
  else none

/-- The name up to its closing quote, and the text after it. -/
def read : NameReader → List Char → Option (List Char × List Char)
  | _, [] => none
  | .plain, c :: rest =>
      if c = '\'' then some ([], rest)
      else if c = '\\' then read .escape rest
      else (read .plain rest).map fun found => (c :: found.1, found.2)
  | .escape, c :: rest =>
      match escaped? c with
      | some d => (read .plain rest).map fun found => (d :: found.1, found.2)
      | none => if c = 'x' then read (.code none) rest else none
  | .code value, c :: rest =>
      match value, hexDigit? c with
      | _, some digit => read (.code (some (16 * value.getD 0 + digit))) rest
      | some n, none =>
          if c = '\\' then (read .plain rest).map fun found => (Char.ofNat n :: found.1, found.2)
          else none
      | none, none => none

/-! ## Codes -/

/-- The value that hexadecimal digits have after the value `n`. -/
def hexValue (n : Nat) (digits : List Char) : Nat :=
  digits.foldl (fun n c => 16 * n + (hexDigit? c).getD 0) n

theorem hexDigit?_digitChar : ∀ n, n < 16 → hexDigit? n.digitChar = some n := by
  decide

theorem hexValue_toDigits (n : Nat) :
    hexValue 0 (Nat.toDigits 16 n) = n ∧ ∀ c ∈ Nat.toDigits 16 n, (hexDigit? c).isSome := by
  induction n using Nat.base_induction 16 (by omega) with
  | single m small =>
      rw [Nat.toDigits_of_lt_base small]
      simp [hexValue, hexDigit?_digitChar m small]
  | digit m k small positive ih =>
      rw [← Nat.toDigits_append_toDigits (by omega) positive small, Nat.toDigits_of_lt_base small]
      refine ⟨?_, ?_⟩
      · have before := ih.1
        simp only [hexValue, List.foldl_append] at before ⊢
        rw [before]
        simp [hexDigit?_digitChar k small]
      · intro c member
        rcases List.mem_append.mp member with member | member
        · exact ih.2 c member
        · simp only [List.mem_singleton] at member
          simp [member, hexDigit?_digitChar k small]

/-- Digits of a code are read one by one. -/
theorem read_code_digits (digits : List Char) (areDigits : ∀ c ∈ digits, (hexDigit? c).isSome)
    (n : Nat) (rest : List Char) :
    read (.code (some n)) (digits ++ rest) = read (.code (some (hexValue n digits))) rest := by
  induction digits generalizing n with
  | nil => rfl
  | cons c digits ih =>
      obtain ⟨first, others⟩ := List.forall_mem_cons.mp areDigits
      obtain ⟨digit, isDigit⟩ := Option.isSome_iff_exists.mp first
      simp only [List.cons_append, read, isDigit, Option.getD_some]
      rw [ih others]
      simp [hexValue, isDigit]

theorem read_code_start (digits : List Char) (areDigits : ∀ c ∈ digits, (hexDigit? c).isSome)
    (nonempty : digits ≠ []) (rest : List Char) :
    read (.code none) (digits ++ rest) = read (.code (some (hexValue 0 digits))) rest := by
  cases digits with
  | nil => exact absurd rfl nonempty
  | cons c digits =>
      obtain ⟨first, others⟩ := List.forall_mem_cons.mp areDigits
      obtain ⟨digit, isDigit⟩ := Option.isSome_iff_exists.mp first
      simp only [List.cons_append, read, isDigit, Option.getD_none]
      rw [read_code_digits digits others]
      simp [hexValue, isDigit]

/-! ## Names -/

theorem read_quoteChar (c : Char) (rest : List Char) :
    read .plain (quoteChar c ++ rest) =
      (read .plain rest).map fun found => (c :: found.1, found.2) := by
  unfold quoteChar
  split_ifs with backslash quote lineFeed tab carriageReturn control
  · simp [read, escaped?, backslash]
  · simp [read, escaped?, quote]
  · simp [read, escaped?, lineFeed]
  · simp [read, escaped?, tab]
  · simp [read, escaped?, carriageReturn]
  · -- A code goes on up to its closing backslash, which is no digit.
    obtain ⟨value, areDigits⟩ := hexValue_toDigits c.toNat
    have noDigit : hexDigit? '\\' = none := by decide
    simp only [List.cons_append, List.append_assoc, read, escaped?, if_true, if_false,
      Char.reduceEq]
    rw [read_code_start _ areDigits Nat.toDigits_ne_nil, value]
    simp [read, noDigit]
  · simp [read, backslash, quote]

/-- **A quoted name is read back, and nothing after it.** -/
theorem read_quoteChars (name rest : List Char) :
    read .plain (name.flatMap quoteChar ++ '\'' :: rest) = some (name, rest) := by
  induction name with
  | nil => simp [read]
  | cons c name ih => simp [List.flatMap_cons, List.append_assoc, read_quoteChar, ih]

end NameReader

open NameReader in
/-- Quoted names with what comes after them are told apart by their text. -/
theorem quoteChars_append_inj {name other rest rest' : List Char}
    (same : quoteChars name ++ rest = quoteChars other ++ rest') : name = other ∧ rest = rest' := by
  have bodies : name.flatMap quoteChar ++ '\'' :: rest =
      other.flatMap quoteChar ++ '\'' :: rest' := by
    simpa [quoteChars] using same
  have found := read_quoteChars name rest
  rw [bodies, read_quoteChars other rest', Option.some.injEq, Prod.mk.injEq] at found
  exact ⟨found.1.symm, found.2.symm⟩

end WorkspacePolicy.Term
