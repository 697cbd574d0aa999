/-
# Proofs.Term.Lexeme — where numbers, strings and names end

The pieces from which the text of a term is put together can be cut off in front: a whole
number ends before the first character that is no digit (`intChars_append_inj`), a string at
the first quote that is not escaped (`stringBody_append_inj`), and the name of a compound
before its parenthesis (`functorChars_append_inj`). A bare name holds no parenthesis, and a
quoted one does not begin like a bare one.
-/
import Mathlib.Tactic.SplitIfs
import WorkspacePolicy.Term.Printer
import WorkspacePolicy.Proofs.Term.QuotedName

namespace WorkspacePolicy

set_option autoImplicit false

/-! ## Runs -/

/-- A list begins with its run of entries of one kind in one way only. -/
theorem run_append_inj {α : Type} {p : α → Bool} {run run' rest rest' : List α}
    (inRun : ∀ c ∈ run, p c) (inRun' : ∀ c ∈ run', p c)
    (stops : ∀ c ∈ rest.head?, p c = false) (stops' : ∀ c ∈ rest'.head?, p c = false)
    (same : run ++ rest = run' ++ rest') : run = run' ∧ rest = rest' := by
  have cut : ∀ {run rest : List α}, (∀ c ∈ run, p c) → (∀ c ∈ rest.head?, p c = false) →
      (run ++ rest).takeWhile p = run := by
    intro run rest inRun stops
    rw [List.takeWhile_append_of_pos inRun]
    cases rest with
    | nil => simp
    | cons c rest => simp [stops c rfl]
  have runs : run = run' := by
    rw [← cut inRun stops, same, cut inRun' stops']
  subst runs
  exact ⟨rfl, List.append_cancel_left same⟩

namespace Number

theorem toDigits_ten_injective {m n : Nat} (same : Nat.toDigits 10 m = Nat.toDigits 10 n) :
    m = n := by
  rw [← Nat.ofDigitChars_ten_toDigits (n := m), same, Nat.ofDigitChars_ten_toDigits]

theorem isDigit_of_mem_toDigits {n : Nat} {c : Char} (member : c ∈ Nat.toDigits 10 n) :
    c.isDigit :=
  Nat.isDigit_of_mem_toDigits (by omega) (by omega) member

theorem head_toDigits_ne_minus (n : Nat) (rest rest' : List Char) :
    Nat.toDigits 10 n ++ rest ≠ '-' :: rest' := by
  intro same
  cases digits : Nat.toDigits 10 n with
  | nil => exact Nat.toDigits_ne_nil digits
  | cons c more =>
      have isDigit := isDigit_of_mem_toDigits (n := n) (c := c) (by simp [digits])
      rw [digits, List.cons_append, List.cons.injEq] at same
      rw [same.1] at isDigit
      exact absurd isDigit (by decide)

theorem intChars_append_inj {i j : Int} {rest rest' : List Char}
    (stops : ∀ c ∈ rest.head?, c.isDigit = false) (stops' : ∀ c ∈ rest'.head?, c.isDigit = false)
    (same : intChars i ++ rest = intChars j ++ rest') : i = j ∧ rest = rest' := by
  have digits : ∀ {m n : Nat}, Nat.toDigits 10 m ++ rest = Nat.toDigits 10 n ++ rest' →
      m = n ∧ rest = rest' := by
    intro m n same
    obtain ⟨runs, rests⟩ := run_append_inj (p := Char.isDigit) (fun _ => isDigit_of_mem_toDigits)
      (fun _ => isDigit_of_mem_toDigits) stops stops' same
    exact ⟨toDigits_ten_injective runs, rests⟩
  match i, j with
  | .ofNat m, .ofNat n =>
      obtain ⟨rfl, rests⟩ := digits same
      exact ⟨rfl, rests⟩
  -- Only a negative number begins with a minus.
  | .ofNat m, .negSucc n => exact absurd same (head_toDigits_ne_minus m _ _)
  | .negSucc m, .ofNat n => exact absurd same.symm (head_toDigits_ne_minus n _ _)
  | .negSucc m, .negSucc n =>
      obtain ⟨successors, rests⟩ := digits (List.cons.inj same).2
      rw [Nat.succ.inj successors]
      exact ⟨rfl, rests⟩

end Number

namespace Term

theorem stringChar_ne_quote (c : Char) (rest rest' : List Char) :
    stringChar c ++ rest ≠ '"' :: rest' := by
  unfold stringChar
  split_ifs with special
  · simp
  · intro same
    exact special (.inr (List.cons.inj same).1)

theorem stringChar_append_inj {c d : Char} {rest rest' : List Char}
    (same : stringChar c ++ rest = stringChar d ++ rest') : c = d ∧ rest = rest' := by
  unfold stringChar at same
  split_ifs at same with special special' special'
  · simpa using same
  · exact absurd (.inl (List.cons.inj same).1.symm) special'
  · exact absurd (.inl (List.cons.inj same).1) special
  · simpa using same

theorem stringBody_append_inj : ∀ {text other rest rest' : List Char},
    text.flatMap stringChar ++ '"' :: rest = other.flatMap stringChar ++ '"' :: rest' →
      text = other ∧ rest = rest'
  | [], [], _, _, same => by simpa using same
  | [], d :: other, _, _, same => by
      rw [List.flatMap_cons, List.append_assoc] at same
      exact absurd same.symm (stringChar_ne_quote d _ _)
  | c :: text, [], _, _, same => by
      rw [List.flatMap_cons, List.append_assoc] at same
      exact absurd same (stringChar_ne_quote c _ _)
  | c :: text, d :: other, _, _, same => by
      rw [List.flatMap_cons, List.flatMap_cons, List.append_assoc, List.append_assoc] at same
      obtain ⟨rfl, bodies⟩ := stringChar_append_inj same
      obtain ⟨rfl, rests⟩ := stringBody_append_inj bodies
      exact ⟨rfl, rests⟩

/-! ## Names before arguments -/

theorem mem_dropFinalLineFeed {name : List Char} {c : Char} (member : c ∈ name) :
    c ∈ Text.dropFinalLineFeed name ∨ c = '\n' := by
  rcases Text.dropFinalLineFeed_cases name with same | ended
  · exact .inl (same ▸ member)
  · rw [ended] at member
    simpa using member

theorem isNameChar_of_isBareName {name : List Char} (bare : isBareName name) {c : Char}
    (member : c ∈ name) : isNameChar c ∨ c = '\n' := by
  unfold isBareName at bare
  split at bare
  · exact absurd bare (by simp)
  · rename_i first rest kept
    simp only [Bool.and_eq_true, List.all_eq_true] at bare
    rcases mem_dropFinalLineFeed member with member | lineFeed
    · left
      rw [kept] at member
      rcases List.mem_cons.mp member with rfl | member
      · simp [isNameChar, bare.1]
      · exact bare.2 c member
    · exact .inr lineFeed

theorem exists_head_of_isBareName {name : List Char} (bare : isBareName name) :
    ∃ c more, name = c :: more ∧ 'a' ≤ c ∧ c ≤ 'z' := by
  cases name with
  | nil => exact absurd bare (by decide)
  | cons c more =>
      refine ⟨c, more, rfl, ?_⟩
      unfold isBareName at bare
      cases kept : Text.dropFinalLineFeed (c :: more) with
      | nil => simp [kept] at bare
      | cons first rest =>
          have same : c = first := by
            unfold Text.dropFinalLineFeed at kept
            split at kept <;> simp_all
          simp only [kept, Bool.and_eq_true, decide_eq_true_eq] at bare
          exact same ▸ bare.1

theorem quoteChars_append_ne_bare {name : String} {other rest rest' : List Char}
    (bare : isBareName name.toList) : quoteChars other ++ rest ≠ name.toList ++ rest' := by
  obtain ⟨c, more, head, lower, _⟩ := exists_head_of_isBareName bare
  rw [head]
  intro same
  obtain ⟨rfl, -⟩ := List.cons.inj same
  exact absurd lower (by decide)

/-- Names before an opening parenthesis are told apart. -/
theorem functorChars_append_inj {name other : String} {rest rest' : List Char}
    (same : functorChars name ++ '(' :: rest = functorChars other ++ '(' :: rest') :
    name = other ∧ rest = rest' := by
  have noParenthesis : ∀ {name : String}, isBareName name.toList → ∀ c ∈ name.toList,
      (c != '(') = true := by
    intro name bare c member
    rcases isNameChar_of_isBareName bare member with isName | rfl
    · rw [bne_iff_ne]
      rintro rfl
      exact absurd isName (by decide)
    · decide
  unfold functorChars at same
  split_ifs at same with bare bare' bare'
  · -- Both are bare and end before the first parenthesis.
    obtain ⟨names, rests⟩ := run_append_inj (p := (· != '(')) (noParenthesis bare)
      (noParenthesis bare') (by simp) (by simp) same
    exact ⟨String.toList_inj.mp names, (List.cons.inj rests).2⟩
  · exact absurd same.symm (quoteChars_append_ne_bare bare)
  · exact absurd same (quoteChars_append_ne_bare bare')
  · obtain ⟨names, rests⟩ := quoteChars_append_inj same
    exact ⟨String.toList_inj.mp names, (List.cons.inj rests).2⟩

/-- A quoted name is not the beginning of a compound unless a parenthesis follows it. -/
theorem rest_of_quoteChars_eq_functorChars {name other : String} {rest rest' : List Char}
    (same : quoteChars name.toList ++ rest = functorChars other ++ '(' :: rest') :
    rest = '(' :: rest' := by
  unfold functorChars at same
  split_ifs at same with bare
  · exact absurd same (quoteChars_append_ne_bare bare)
  · exact (quoteChars_append_inj same).2

end Term

end WorkspacePolicy

