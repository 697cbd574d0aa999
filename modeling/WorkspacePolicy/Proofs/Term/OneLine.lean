/-
# Proofs.Term.OneLine — clauses that are one line

The text of a term is *clear* if it has no control character, and then its clause is one line. A
quoted name is clear whatever the name is, and so is every number. But a name stands bare before
its arguments if it is a plain name, and also if it is a plain name with a line feed at its end
(`isBareName_iff`), and then it brings the line feed into the text.

So a term of names and numbers is one line exactly if no compound in it has such a name
(`isOneLine_iff`).
-/
import Mathlib.Data.List.Basic
import WorkspacePolicy.Clause
import WorkspacePolicy.Proofs.Project.IdentGrammar
import WorkspacePolicy.Proofs.Term.Items
import WorkspacePolicy.Proofs.Term.Lexeme
import WorkspacePolicy.Proofs.Text.Trim

namespace WorkspacePolicy.Term

set_option autoImplicit false

variable {chars more : List Char}

/-! ## Clear texts -/

/-- There is no control character: none below U+0020, and no U+007F. -/
def Clear (chars : List Char) : Prop := ∀ c ∈ chars, 0x20 ≤ c.toNat ∧ c.toNat ≠ 0x7f

theorem isControl_eq_false_iff {c : Char} :
    isControl c = false ↔ 0x20 ≤ c.toNat ∧ c.toNat ≠ 0x7f := by
  simp [isControl]

theorem clear_iff : Clear chars ↔ ∀ c ∈ chars, isControl c = false := by
  simp only [Clear, isControl_eq_false_iff]

@[simp] theorem clear_nil : Clear [] := nofun

@[simp] theorem clear_cons {c : Char} :
    Clear (c :: chars) ↔ isControl c = false ∧ Clear chars := by
  rw [clear_iff, clear_iff, List.forall_mem_cons]

@[simp] theorem clear_append : Clear (chars ++ more) ↔ Clear chars ∧ Clear more :=
  List.forall_mem_append

/-- The marks that the printer writes between names and numbers are no control characters. -/
@[simp] theorem isControl_marks :
    isControl '\'' = false ∧ isControl '\\' = false ∧ isControl 'x' = false ∧
      isControl '0' = false ∧ isControl '.' = false ∧ isControl '-' = false ∧
      isControl 'e' = false ∧ isControl ',' = false ∧ isControl ' ' = false ∧
      isControl '(' = false ∧ isControl ')' = false ∧ isControl '[' = false ∧
      isControl ']' = false := by
  decide

theorem isControl_of_between {a b c : Char} (above : a ≤ c) (below : c ≤ b) (low : 32 ≤ a.toNat)
    (high : b.toNat < 127) : isControl c = false := by
  have above : a.toNat ≤ c.toNat := UInt32.le_iff_toNat_le.mp above
  have below : c.toNat ≤ b.toNat := UInt32.le_iff_toNat_le.mp below
  rw [isControl_eq_false_iff]
  omega

theorem isControl_of_isDigit {c : Char} (digit : c.isDigit) : isControl c = false := by
  simp only [Char.isDigit, Bool.and_eq_true, decide_eq_true_eq] at digit
  exact isControl_of_between (a := '0') (b := '9') digit.1 digit.2 (by decide) (by decide)

theorem isControl_of_isNameChar {c : Char} (inName : isNameChar c) : isControl c = false := by
  simp only [isNameChar, Bool.or_eq_true, Bool.and_eq_true, decide_eq_true_eq, beq_iff_eq] at inName
  rcases inName with ((⟨above, below⟩ | ⟨above, below⟩) | ⟨above, below⟩) | rfl
  · exact isControl_of_between above below (by decide) (by decide)
  · exact isControl_of_between above below (by decide) (by decide)
  · exact isControl_of_between above below (by decide) (by decide)
  · decide

/-! ## Quoted names -/

theorem isControl_of_hexDigit {c : Char} (digit : (NameReader.hexDigit? c).isSome) :
    isControl c = false := by
  unfold NameReader.hexDigit? at digit
  split at digit
  · next between => exact isControl_of_between between.1 between.2 (by decide) (by decide)
  · split at digit
    · next between => exact isControl_of_between between.1 between.2 (by decide) (by decide)
    · split at digit
      · next between => exact isControl_of_between between.1 between.2 (by decide) (by decide)
      · cases digit

theorem clear_quoteChar (c : Char) : Clear (quoteChar c) := by
  unfold quoteChar
  split_ifs with backslash quote lineFeed tab carriageReturn control
  iterate 5 exact List.forall_mem_cons.mpr ⟨by decide, List.forall_mem_singleton.mpr (by decide)⟩
  · have digits : Clear (Nat.toDigits 16 c.toNat) := by
      rw [clear_iff]
      intro d member
      exact isControl_of_hexDigit ((NameReader.hexValue_toDigits c.toNat).2 d member)
    simp [digits]
  · simpa using control

/-- A quoted name has no control character, whatever the name is. -/
theorem clear_quoteChars (name : List Char) : Clear (quoteChars name) := by
  have body : Clear (name.flatMap quoteChar) :=
    List.forall_mem_flatMap.mpr fun c _ => clear_quoteChar c
  simp [quoteChars, body]

/-! ## Numbers -/

theorem clear_toDigits (n : Nat) : Clear (Nat.toDigits 10 n) :=
  clear_iff.mpr fun _ member => isControl_of_isDigit (Number.isDigit_of_mem_toDigits member)

theorem clear_zeros (width : Nat) : Clear (List.replicate width '0') :=
  clear_iff.mpr fun _ member => isControl_of_isDigit (List.eq_of_mem_replicate member ▸ rfl)

theorem clear_exponentChars (layout : FloatLayout) (exponent : Int) :
    Clear (layout.exponentChars exponent) := by
  have sign : isControl (if exponent < 0 then '-' else '+') = false := by split <;> decide
  simp [FloatLayout.exponentChars, clear_zeros, clear_toDigits, sign]

theorem clear_decimalChars (layout : FloatLayout) (d : Decimal) :
    Clear (layout.decimalChars d) := by
  have digits : Clear (Text.trimEnd (· == '0') (Nat.toDigits 10 d.coefficient)) := by
    obtain ⟨run, same, -⟩ := Text.exists_run_trimEnd (· == '0') (Nat.toDigits 10 d.coefficient)
    have written := clear_toDigits d.coefficient
    rw [same, clear_append] at written
    exact written.1
  simp only [FloatLayout.decimalChars]
  generalize Text.trimEnd (· == '0') (Nat.toDigits 10 d.coefficient) = kept at digits
  split
  · split
    · simp [clear_zeros, digits]
    · split
      · simp [clear_zeros, digits]
      · have parts : ∀ n, Clear (kept.take n) ∧ Clear (kept.drop n) := by
          intro n
          rw [← clear_append, List.take_append_drop]
          exact digits
        simp [parts]
  · split
    · simp
    · simp only [clear_cons] at digits ⊢
      exact ⟨digits.1, clear_exponentChars layout _⟩
    · simp only [clear_cons] at digits
      simp [digits, clear_exponentChars]

theorem clear_floatChars (layout : FloatLayout) (nanClear : Clear layout.nanText)
    (infiniteClear : Clear layout.infiniteText) (x : Binary64) : Clear (layout.chars x) := by
  cases x with
  | nan => exact nanClear
  | signed negative rank =>
      have magnitude : Clear (if rank.val = Binary64.infiniteRank then layout.infiniteText
          else if rank.val = 0 then ['0', '.', '0']
          else layout.decimalChars (Binary64.shortestDecimal rank.val)) := by
        split_ifs
        · exact infiniteClear
        · simp
        · exact clear_decimalChars layout _
      cases negative with
      | false => exact magnitude
      | true => exact clear_cons.mpr ⟨by decide, magnitude⟩

/-- A number has no control character. -/
theorem clear_number (n : Number) : Clear n.chars := by
  cases n with
  | int i =>
      cases i with
      | ofNat n => exact clear_toDigits n
      | negSucc n => exact clear_cons.mpr ⟨by decide, clear_toDigits (n + 1)⟩
  | float x =>
      refine clear_floatChars .plain ?_ ?_ x
      · show Clear ['n', 'a', 'n']
        simp [Clear]
      · show Clear ['i', 'n', 'f']
        simp [Clear]

/-! ## Names before arguments -/

/-- A lower-case letter, and then letters, digits and underscores. -/
def IsPlainName (name : List Char) : Prop :=
  ∃ first rest, name = first :: rest ∧ 'a' ≤ first ∧ first ≤ 'z' ∧ ∀ c ∈ rest, isNameChar c

/-- A plain name and a line feed: not a plain name, but bare like one. -/
def EndsLine (name : List Char) : Prop :=
  ∃ plain, name = plain ++ ['\n'] ∧ IsPlainName plain

theorem IsPlainName.clear {name : List Char} (plain : IsPlainName name) : Clear name := by
  obtain ⟨first, rest, rfl, lower, upper, inName⟩ := plain
  exact clear_cons.mpr ⟨isControl_of_between lower upper (by decide) (by decide),
    clear_iff.mpr fun c member => isControl_of_isNameChar (inName c member)⟩

theorem lineFeed_not_mem_of_clear (clear : Clear chars) : '\n' ∉ chars :=
  fun member => absurd (clear '\n' member) (by decide)

theorem EndsLine.not_clear {name : List Char} (ends : EndsLine name) : ¬ Clear name := by
  obtain ⟨plain, rfl, -⟩ := ends
  intro clear
  exact lineFeed_not_mem_of_clear clear (List.mem_append_right _ List.mem_cons_self)

theorem isPlainName_dropFinalLineFeed_iff {name : List Char} :
    IsPlainName (Text.dropFinalLineFeed name) ↔ isBareName name := by
  unfold isBareName
  split
  · next none => simp [IsPlainName, none]
  · next first rest kept => simp [IsPlainName, kept, and_assoc]

/-- **A name stands bare if it is plain, and also if it is plain but for a line feed.** -/
theorem isBareName_iff {name : List Char} : isBareName name ↔ IsPlainName name ∨ EndsLine name := by
  rw [← isPlainName_dropFinalLineFeed_iff]
  constructor
  · intro plain
    rcases Text.dropFinalLineFeed_cases name with same | ended
    · exact .inl (same ▸ plain)
    · exact .inr ⟨_, ended, plain⟩
  · rintro (plain | ⟨plain, rfl, isPlain⟩)
    · rwa [Text.dropFinalLineFeed_of_not_mem (lineFeed_not_mem_of_clear plain.clear)]
    · rwa [Text.dropFinalLineFeed_append_lineFeed]

theorem clear_functorChars_iff {name : String} :
    Clear (functorChars name) ↔ ¬ EndsLine name.toList := by
  unfold functorChars
  split_ifs with bare
  · rcases isBareName_iff.mp bare with plain | ends
    · exact iff_of_true plain.clear fun ends => ends.not_clear plain.clear
    · exact iff_of_false ends.not_clear fun other => other ends
  · exact iff_of_true (clear_quoteChars _) fun ends => bare (isBareName_iff.mpr (.inr ends))

/-! ## Terms of names and numbers -/

/-- The term is built from names and numbers. -/
inductive IsNamesAndNumbers : Term → Prop where
  | number (n : Number) : IsNamesAndNumbers (.number n)
  | compound {name : String} {args : List Term} (given : ∀ arg ∈ args, IsNamesAndNumbers arg) :
      IsNamesAndNumbers (.compound name args)

/-- Somewhere in the term a plain name and a line feed stands before arguments. -/
inductive HasLineEnd : Term → Prop where
  | name {name : String} {args : List Term} (ends : EndsLine name.toList) (before : args ≠ []) :
      HasLineEnd (.compound name args)
  | argument {name : String} {args : List Term} {arg : Term} (member : arg ∈ args)
      (inside : HasLineEnd arg) : HasLineEnd (.compound name args)

theorem isNamesAndNumbers_compound {name : String} {args : List Term} :
    IsNamesAndNumbers (.compound name args) ↔ ∀ arg ∈ args, IsNamesAndNumbers arg := by
  constructor
  · rintro (_ | given)
    exact given
  · exact .compound

theorem hasLineEnd_compound {name : String} {args : List Term} :
    HasLineEnd (.compound name args) ↔
      EndsLine name.toList ∧ args ≠ [] ∨ ∃ arg ∈ args, HasLineEnd arg := by
  constructor
  · rintro (⟨ends, before⟩ | ⟨member, inside⟩)
    · exact .inl ⟨ends, before⟩
    · exact .inr ⟨_, member, inside⟩
  · rintro (⟨ends, before⟩ | ⟨arg, member, inside⟩)
    · exact .name ends before
    · exact .argument member inside

theorem not_endsLine_cellName : ¬ EndsLine cellName.toList := by
  rintro ⟨plain, same, -⟩
  have member : '\n' ∈ cellName.toList := same ▸ List.mem_append_right _ List.mem_cons_self
  exact absurd member (by decide)

theorem isNamesAndNumbers_ofItems {items : List Term} :
    IsNamesAndNumbers (ofItems items) ↔ ∀ item ∈ items, IsNamesAndNumbers item := by
  induction items with
  | nil => simp [nil, atom, isNamesAndNumbers_compound]
  | cons item items ih => simp [cell, isNamesAndNumbers_compound, ih]

theorem hasLineEnd_ofItems {items : List Term} :
    HasLineEnd (ofItems items) ↔ ∃ item ∈ items, HasLineEnd item := by
  induction items with
  | nil => simp [nil, atom, hasLineEnd_compound]
  | cons item items ih => simp [cell, hasLineEnd_compound, not_endsLine_cellName, ih]

theorem clear_itemChars {items : List Term} :
    Clear (itemChars items) ↔ ∀ item ∈ items, Clear item.chars := by
  have rest : ∀ items, Clear (argChars items) ↔ ∀ item ∈ items, Clear item.chars := by
    intro items
    induction items with
    | nil => simp [argChars]
    | cons item items ih => simp [argChars, ih]
  cases items with
  | nil => simp [itemChars]
  | cons item items => simp [itemChars, rest]

/-- **The text of a term is clear if and only if no name before arguments ends a line.** -/
theorem clear_chars_iff (t : Term) (built : t.IsNamesAndNumbers) :
    Clear t.chars ↔ ¬ t.HasLineEnd := by
  -- An item of a list stands deeper in its term than an argument does, so the size decreases.
  induction size : sizeOf t using Nat.strongRecOn generalizing t with
  | ind n ih =>
      subst size
      cases Layout.of t with
      | number value => exact iff_of_true (clear_number value) nofun
      | string => cases built
      | unbound => cases built
      | list items =>
          have given := isNamesAndNumbers_ofItems.mp built
          have each : (∀ item ∈ items, Clear item.chars) ↔ ∀ item ∈ items, ¬ item.HasLineEnd :=
            forall₂_congr fun item member =>
              ih _ (sizeOf_lt_of_mem_items member) item (given item member) rfl
          simp [chars_ofItems, hasLineEnd_ofItems, clear_itemChars, each]
      | compound name args noList =>
          have given := isNamesAndNumbers_compound.mp built
          have each : (∀ arg ∈ args, Clear arg.chars) ↔ ∀ arg ∈ args, ¬ arg.HasLineEnd :=
            forall₂_congr fun arg member =>
              ih _ (sizeOf_lt_of_mem_args member) arg (given arg member) rfl
          cases args with
          | nil => simp [chars_atom noList, hasLineEnd_compound, clear_quoteChars]
          | cons arg args =>
              rw [chars_compound noList, hasLineEnd_compound, clear_append, clear_append,
                clear_functorChars_iff, clear_cons, clear_itemChars, each]
              simp

/-! ## Clauses -/

/-- The text of the term is clear, and its clause is one line with its line feed. -/
structure IsOneLine (t : Term) : Prop where
  clear : Clear t.text.toList
  ended : ∃ line, (Clause.text t).toList = line ++ ['\n'] ∧ '\n' ∉ line

/-- **A clause of names and numbers is one line, unless a plain name and a line feed stands before
arguments in it.** -/
theorem isOneLine_iff {t : Term} (built : t.IsNamesAndNumbers) :
    IsOneLine t ↔ ¬ t.HasLineEnd := by
  have sameText : t.text.toList = t.chars := String.toList_ofList
  rw [← clear_chars_iff t built, ← sameText]
  constructor
  · exact IsOneLine.clear
  · intro clear
    refine ⟨clear, t.chars ++ ['.'], ?_, ?_⟩
    · simp [Clause.text, Clause.chars]
    · rw [sameText] at clear
      simp [lineFeed_not_mem_of_clear clear]

/-- The clause of a fact `foo` whose name ends in a line feed takes two lines. -/
theorem not_isOneLine_lineFeed :
    IsNamesAndNumbers (.compound "foo\n" [.atom "x"]) ∧
      ¬ IsOneLine (.compound "foo\n" [.atom "x"]) := by
  have atomBuilt : IsNamesAndNumbers (.atom "x") := .compound nofun
  have built : IsNamesAndNumbers (.compound "foo\n" [.atom "x"]) :=
    .compound (List.forall_mem_singleton.mpr atomBuilt)
  have ends : EndsLine "foo\n".toList :=
    ⟨['f', 'o', 'o'], rfl, 'f', ['o', 'o'], rfl, by decide, by decide, by simp [isNameChar]⟩
  refine ⟨built, ?_⟩
  rw [isOneLine_iff built, not_not]
  exact .name ends (List.cons_ne_nil _ _)

end WorkspacePolicy.Term
