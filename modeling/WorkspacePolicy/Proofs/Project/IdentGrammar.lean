/-
# Proofs.Project.IdentGrammar — which texts are package names

A name or a scope is a *part*: it is not empty and holds no slash, no at sign and no white
space. A package name is written `name` or `@scope/name` (`Ident.IsWritten`), and every package
name of parts has exactly one such text, which is `Ident.text`.

Reading gives back what was written, but it accepts one spelling more: a line feed after the text
of a name is passed over. So a text is read if and only if it is written by the grammar or is such
a text and a line feed (`Ident.parse?_eq_some_iff`), and reading agrees with the grammar on all
other texts and on no text of the second kind (`Ident.agreesWithGrammar_iff`).
-/
import WorkspacePolicy.Proofs.Project.Ident

namespace WorkspacePolicy

set_option autoImplicit false

/-! ## The line feed at the end of a text -/

namespace Text

theorem dropFinalLineFeed_append_lineFeed : ∀ text : List Char,
    dropFinalLineFeed (text ++ ['\n']) = text
  | [] => rfl
  | c :: rest => by
      have ih := dropFinalLineFeed_append_lineFeed rest
      rw [List.cons_append, dropFinalLineFeed, ih]
      intro _ ended
      exact List.append_ne_nil_of_right_ne_nil rest (List.cons_ne_nil '\n' []) ended

end Text

namespace Ident

/-! ## The grammar -/

/-- A scope or a name: not empty, without slashes, at signs and white space. -/
def IsPart (part : String) : Prop :=
  part ≠ "" ∧ ∀ c ∈ part.toList, c ≠ '/' ∧ c ≠ '@' ∧ Text.isBlank c = false

/-- The name is a part, and so is the scope if there is one. -/
structure IsWellFormed (ident : Ident) : Prop where
  scope : ∀ scope ∈ ident.scope, IsPart scope
  name : IsPart ident.name

/-- A text by the grammar, with the package name that it writes. -/
inductive IsWritten : Ident → String → Prop where
  | bare {name : String} (part : IsPart name) : IsWritten ⟨none, name⟩ name
  | inScope {scope name : String} (scopePart : IsPart scope) (namePart : IsPart name) :
      IsWritten ⟨some scope, name⟩ ("@" ++ scope ++ "/" ++ name)

theorem isPart_ofList_iff {part : List Char} : isPart part ↔ IsPart (String.ofList part) := by
  have nonempty : String.ofList part ≠ "" ↔ part ≠ [] := by
    rw [ne_eq, ← String.toList_inj, String.toList_ofList]
    rfl
  rw [IsPart, nonempty, String.toList_ofList]
  simp [isPart, isPartChar, and_assoc]

theorem IsPart.toList {part : String} (given : IsPart part) : isPart part.toList := by
  rw [isPart_ofList_iff, String.ofList_toList]
  exact given

theorem slash_not_mem_of_isPart {part : List Char} (given : isPart part) : '/' ∉ part := by
  intro member
  simp only [isPart, Bool.and_eq_true, List.all_eq_true] at given
  exact absurd (given.2 '/' member) (by decide)

theorem at_not_mem_of_isPart {part : List Char} (given : isPart part) : '@' ∉ part := by
  intro member
  simp only [isPart, Bool.and_eq_true, List.all_eq_true] at given
  exact absurd (given.2 '@' member) (by decide)

/-- The grammar writes a package name in one way. -/
theorem isWritten_iff {ident : Ident} {text : String} :
    IsWritten ident text ↔ ident.IsWellFormed ∧ text = ident.text := by
  constructor
  · rintro (part | ⟨scopePart, namePart⟩)
    · exact ⟨⟨nofun, part⟩, rfl⟩
    · refine ⟨⟨fun scope given => Option.some.inj given ▸ scopePart, namePart⟩, ?_⟩
      simp [Ident.text, scopePart.1, toString]
  · rintro ⟨wellFormed, rfl⟩
    obtain ⟨scope, name⟩ := ident
    cases scope with
    | none => exact .bare wellFormed.name
    | some scope =>
        have scopePart := wellFormed.scope scope rfl
        have written := IsWritten.inScope scopePart wellFormed.name
        simpa [Ident.text, scopePart.1, toString] using written

/-! ## Reading -/

/-- **Reading without a final line feed is the grammar.** -/
theorem ofChars?_eq_some_iff {text : List Char} {ident : Ident} :
    ofChars? text = some ident ↔ IsWritten ident (String.ofList text) := by
  constructor
  · intro read
    rcases ofChars?_cases read with ⟨scope, name, scopePart, namePart, rfl, rfl⟩ | ⟨part, rfl⟩
    · have joined : String.ofList ('@' :: scope ++ '/' :: name) =
          "@" ++ String.ofList scope ++ "/" ++ String.ofList name := by
        rw [← String.toList_inj]
        simp
      rw [joined]
      exact .inScope (isPart_ofList_iff.mp scopePart) (isPart_ofList_iff.mp namePart)
    · exact .bare (isPart_ofList_iff.mp part)
  · intro written
    generalize spelled : String.ofList text = spelling at written
    cases written with
    | bare part =>
        subst spelled
        have chars := isPart_ofList_iff.mpr part
        rw [ofChars?.eq_2 text fun rest starts => ?_]
        · simp [chars]
        · exact at_not_mem_of_isPart chars (starts ▸ List.mem_cons_self)
    | @inScope scope name scopePart namePart =>
        have chars : text = '@' :: (scope.toList ++ '/' :: name.toList) := by
          have same := congrArg String.toList spelled
          simpa using same
        have beforeSlash : ∀ c ∈ scope.toList, (c != '/') = true := by
          intro c member
          have noSlash := slash_not_mem_of_isPart scopePart.toList
          rw [bne_iff_ne]
          rintro rfl
          exact noSlash member
        rw [chars, ofChars?, List.takeWhile_append_of_pos beforeSlash,
          List.dropWhile_append_of_pos beforeSlash]
        simp [scopePart.toList, namePart.toList]

/-- **A text is read as a package name if and only if it is the text of a name of parts, or that
text with a line feed after it.** -/
theorem parse?_eq_some_iff {text : String} {ident : Ident} :
    parse? text = some ident ↔
      ident.IsWellFormed ∧ (text = ident.text ∨ text = ident.text ++ "\n") := by
  rw [parse?, ofChars?_eq_some_iff, isWritten_iff]
  constructor
  · rintro ⟨wellFormed, same⟩
    refine ⟨wellFormed, ?_⟩
    rw [← same, ← String.toList_inj, ← String.toList_inj]
    simpa using Text.dropFinalLineFeed_cases text.toList
  · rintro ⟨wellFormed, rfl | rfl⟩
    · have read := isWritten_iff.mpr ⟨wellFormed, rfl⟩
      rw [← String.ofList_toList (s := ident.text), ← ofChars?_eq_some_iff] at read
      rw [Text.dropFinalLineFeed_of_not_mem (lineFeed_not_mem_of_ofChars? read)]
      exact ⟨wellFormed, String.ofList_toList⟩
    · refine ⟨wellFormed, ?_⟩
      rw [String.toList_append]
      show String.ofList (Text.dropFinalLineFeed (ident.text.toList ++ ['\n'])) = ident.text
      rw [Text.dropFinalLineFeed_append_lineFeed, String.ofList_toList]

/-! ## All texts -/

theorem lineFeed_not_mem_of_isWritten {ident : Ident} {text : String}
    (written : IsWritten ident text) : '\n' ∉ text.toList := by
  have read : ofChars? text.toList = some ident := by
    rw [ofChars?_eq_some_iff, String.ofList_toList]
    exact written
  exact lineFeed_not_mem_of_ofChars? read

/-- On this text reading and writing are inverse, by the grammar of package names. -/
structure AgreesWithGrammar (text : String) : Prop where
  /-- The text is read just when the grammar writes it. -/
  accepts : (parse? text).isSome ↔ ∃ ident, IsWritten ident text
  /-- The name that was read has the text that it was read from. -/
  writesBack : ∀ ident : Ident, parse? text = some ident → ident.text = text
  /-- A name of parts that has this text is read back from it. -/
  readsBack : ∀ ident : Ident, ident.IsWellFormed → ident.text = text → parse? text = some ident

/-- A line feed makes a second spelling of a name, which the grammar does not have. -/
theorem not_agreesWithGrammar_of_lineFeed {ident : Ident} (wellFormed : ident.IsWellFormed) :
    ¬ AgreesWithGrammar (ident.text ++ "\n") := by
  intro agrees
  have read : parse? (ident.text ++ "\n") = some ident :=
    parse?_eq_some_iff.mpr ⟨wellFormed, .inr rfl⟩
  obtain ⟨other, written⟩ := agrees.accepts.mp (Option.isSome_iff_exists.mpr ⟨ident, read⟩)
  apply lineFeed_not_mem_of_isWritten written
  rw [String.toList_append]
  exact List.mem_append_right _ List.mem_cons_self

/-- **Reading and writing package names are inverse by the grammar, on every text but those of a
name and a line feed.** -/
theorem agreesWithGrammar_iff (text : String) :
    AgreesWithGrammar text ↔ ¬ ∃ ident : Ident, ident.IsWellFormed ∧ text = ident.text ++ "\n" := by
  constructor
  · rintro agrees ⟨ident, wellFormed, rfl⟩
    exact not_agreesWithGrammar_of_lineFeed wellFormed agrees
  · intro other
    have same : ∀ ident : Ident, parse? text = some ident →
        ident.IsWellFormed ∧ text = ident.text := by
      intro ident read
      obtain ⟨wellFormed, spelled⟩ := parse?_eq_some_iff.mp read
      exact ⟨wellFormed, spelled.resolve_right fun ended => other ⟨ident, wellFormed, ended⟩⟩
    constructor
    case accepts =>
      rw [Option.isSome_iff_exists]
      constructor
      · rintro ⟨ident, read⟩
        exact ⟨ident, isWritten_iff.mpr (same ident read)⟩
      · rintro ⟨ident, written⟩
        obtain ⟨wellFormed, spelled⟩ := isWritten_iff.mp written
        exact ⟨ident, parse?_eq_some_iff.mpr ⟨wellFormed, .inl spelled⟩⟩
    case writesBack =>
      intro ident read
      exact (same ident read).2.symm
    case readsBack =>
      intro ident wellFormed spelled
      exact parse?_eq_some_iff.mpr ⟨wellFormed, .inl spelled.symm⟩

/-- The key of a manifest that ends in a line feed names the package of another key. -/
example : parse? "@acme/lib\n" = parse? "@acme/lib" := by decide

end Ident

end WorkspacePolicy
