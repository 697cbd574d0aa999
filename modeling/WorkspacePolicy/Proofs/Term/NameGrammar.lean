/-
# Proofs.Term.NameGrammar — what a quoted name spells

The rules of quoted names are stated as a relation between a text, the name that it spells and
what comes after the closing quote (`Spells`): a backslash and one of five characters stand for a
character, a backslash, `x`, hexadecimal digits and a backslash stand for a code, and any other
character but the quote stands for itself. The reader follows these rules and no others
(`read_eq_some_iff`), so a text spells at most one name.

A text between quotes spells itself and nothing else, wherever it stands: a reader finds the very
text, and goes on with the very rest (`readsOnly_quote`). Line ends and other control characters
are spelled without any.
-/
import WorkspacePolicy.Proofs.Term.OneLine
import WorkspacePolicy.Proofs.Term.QuotedName

namespace WorkspacePolicy.Term

set_option autoImplicit false

namespace NameReader

/-- After an opening quote, the text spells a name and goes on with a rest. -/
inductive Spells : List Char → List Char → List Char → Prop where
  | close (rest : List Char) : Spells ('\'' :: rest) [] rest
  | plain {c : Char} {text name rest : List Char} (noQuote : c ≠ '\'') (noBackslash : c ≠ '\\')
      (later : Spells text name rest) : Spells (c :: text) (c :: name) rest
  | escaped {c d : Char} {text name rest : List Char} (stands : escaped? c = some d)
      (later : Spells text name rest) : Spells ('\\' :: c :: text) (d :: name) rest
  /-- A number that no character has spells U+0000. -/
  | code {digits text name rest : List Char} (given : digits ≠ [])
      (areDigits : ∀ c ∈ digits, (hexDigit? c).isSome) (later : Spells text name rest) :
      Spells ('\\' :: 'x' :: digits ++ '\\' :: text) (Char.ofNat (hexValue 0 digits) :: name) rest

theorem read_code_end (n : Nat) (text : List Char) :
    read (.code (some n)) ('\\' :: text) =
      (read .plain text).map fun found => (Char.ofNat n :: found.1, found.2) := by
  have noDigit : hexDigit? '\\' = none := by decide
  simp [read, noDigit]

/-- The reader finds every name that is spelled. -/
theorem read_of_spells {text name rest : List Char} (spells : Spells text name rest) :
    read .plain text = some (name, rest) := by
  induction spells with
  | close => simp [read]
  | plain noQuote noBackslash _ ih => simp [read, noQuote, noBackslash, ih]
  | escaped stands _ ih => simp [read, stands, ih]
  | @code digits text name rest given areDigits _ ih =>
      have start : read .plain ('\\' :: 'x' :: digits ++ '\\' :: text) =
          read (.code none) (digits ++ '\\' :: text) := by
        simp [read, escaped?]
      rw [start, read_code_start digits areDigits given, read_code_end, ih]
      rfl

/-- What is left to read where the reader stands. -/
def SpellsFrom : NameReader → List Char → List Char → List Char → Prop
  | .plain, text, name, rest => Spells text name rest
  | .escape, text, name, rest => Spells ('\\' :: text) name rest
  | .code value, text, name, rest => ∃ digits text' name', text = digits ++ '\\' :: text' ∧
      name = Char.ofNat (hexValue (value.getD 0) digits) :: name' ∧
      (value = none → digits ≠ []) ∧ (∀ c ∈ digits, (hexDigit? c).isSome) ∧
      Spells text' name' rest

/-- The reader finds no other name: the induction is on the text, from every place at once. -/
theorem spells_of_read {reader : NameReader} {text name rest : List Char}
    (found : read reader text = some (name, rest)) : SpellsFrom reader text name rest := by
  induction text generalizing reader name with
  | nil => cases reader <;> cases found
  | cons c text ih =>
      cases reader with
      | plain =>
          by_cases quote : c = '\''
          · subst quote
            simp only [read, if_true] at found
            cases found
            exact .close _
          by_cases backslash : c = '\\'
          · subst backslash
            exact ih (by simpa [read] using found)
          simp only [read, quote, backslash, if_false] at found
          obtain ⟨⟨later, _⟩, inner, same⟩ := Option.map_eq_some_iff.mp found
          cases same
          exact .plain quote backslash (ih inner)
      | escape =>
          cases stands : escaped? c with
          | some d =>
              simp only [read, stands] at found
              obtain ⟨⟨later, _⟩, inner, same⟩ := Option.map_eq_some_iff.mp found
              cases same
              exact .escaped stands (ih inner)
          | none =>
              simp only [read, stands, Option.ite_none_right_eq_some] at found
              obtain ⟨rfl, found⟩ := found
              obtain ⟨digits, text', name', rfl, rfl, given, areDigits, spells⟩ := ih found
              exact .code (given rfl) areDigits spells
      | code value =>
          cases digit : hexDigit? c with
          | some n =>
              simp only [read, digit] at found
              obtain ⟨digits, text', name', rfl, rfl, -, areDigits, spells⟩ := ih found
              refine ⟨c :: digits, text', name', rfl, ?_, by simp, ?_, spells⟩
              · simp [hexValue, digit]
              · exact List.forall_mem_cons.mpr ⟨by simp [digit], areDigits⟩
          | none =>
              cases value with
              | none => simp [read, digit] at found
              | some n =>
                  simp only [read, digit, Option.ite_none_right_eq_some] at found
                  obtain ⟨rfl, found⟩ := found
                  obtain ⟨⟨later, _⟩, inner, same⟩ := Option.map_eq_some_iff.mp found
                  cases same
                  exact ⟨[], text, later, rfl, rfl, by simp, by simp, ih inner⟩

/-- **The reader follows the rules of quoted names.** -/
theorem read_eq_some_iff {text name rest : List Char} :
    read .plain text = some (name, rest) ↔ Spells text name rest :=
  ⟨spells_of_read, read_of_spells⟩

end NameReader

/-- The text is a quoted name, with its opening quote, and a rest. -/
def IsQuotation (text name rest : String) : Prop :=
  ∃ body, text.toList = '\'' :: body ∧ NameReader.Spells body name.toList rest.toList

/-- **A quoted text is read as itself in front of any rest, in no other way, and has no control
character.** -/
theorem readsOnly_quote (text rest : String) :
    (∀ name after, IsQuotation (quote (some text) ++ rest) name after ↔
      name = text ∧ after = rest) ∧ Clear (quote (some text)).toList := by
  have quoted : (quote (some text)).toList = quoteChars text.toList := String.toList_ofList
  have whole : (quote (some text) ++ rest).toList =
      '\'' :: (text.toList.flatMap quoteChar ++ '\'' :: rest.toList) := by
    simp [quoted, quoteChars]
  refine ⟨fun name after => ?_, quoted ▸ clear_quoteChars text.toList⟩
  calc IsQuotation (quote (some text) ++ rest) name after
    _ ↔ NameReader.Spells (text.toList.flatMap quoteChar ++ '\'' :: rest.toList) name.toList
        after.toList := by simp [IsQuotation, whole]
    _ ↔ some (text.toList, rest.toList) = some (name.toList, after.toList) := by
        rw [← NameReader.read_eq_some_iff, NameReader.read_quoteChars]
    _ ↔ name = text ∧ after = rest := by
        simp [String.toList_inj, eq_comm]

/-- A code ends at its own backslash, also where a digit comes next. -/
example : quote (some "\x07f\\'") = "'\\x7\\f\\\\\\''" := by decide

end WorkspacePolicy.Term
