/-
# Proofs.Project.Ident — a package name is read back from its text

A text that is a package name is the text of that name, except for the line feed that it may
end in (`text_of_ofChars?`). A package name holds no line feed itself, so that the text of a
name that was read is read as the same name (`parse?_text`), and two such names with the same
text are the same (`text_injective`).
-/
import WorkspacePolicy.Project.Ident

namespace WorkspacePolicy

set_option autoImplicit false

theorem Text.dropFinalLineFeed_of_not_mem {text : List Char} (absent : '\n' ∉ text) :
    dropFinalLineFeed text = text := by
  rcases dropFinalLineFeed_cases text with same | ended
  · exact same.symm
  · exact absurd (ended ▸ List.mem_append_right _ (List.mem_singleton_self '\n')) absent

namespace Ident

/-- The name is one that some text writes. -/
def IsParsed (ident : Ident) : Prop := ∃ text, parse? text = some ident

theorem ne_lineFeed_of_isPart {part : List Char} (isPart : isPart part) : '\n' ∉ part := by
  intro member
  simp only [Ident.isPart, Bool.and_eq_true, List.all_eq_true] at isPart
  exact absurd (isPart.2 '\n' member) (by decide)

/-- The two shapes of a text that is a name. -/
theorem ofChars?_cases {text : List Char} {ident : Ident} (read : ofChars? text = some ident) :
    (∃ scope name, isPart scope ∧ isPart name ∧ text = '@' :: scope ++ '/' :: name ∧
        ident = ⟨some (String.ofList scope), String.ofList name⟩) ∨
      (isPart text ∧ ident = ⟨none, String.ofList text⟩) := by
  unfold ofChars? at read
  split at read
  · next rest =>
      cases cut : rest.dropWhile (· != '/') with
      | nil => simp [cut] at read
      | cons slash name =>
          simp only [cut, Option.ite_none_right_eq_some, Bool.and_eq_true,
            Option.some.injEq] at read
          obtain ⟨⟨scopePart, namePart⟩, rfl⟩ := read
          have isSlash : slash = '/' := by
            have := List.head?_dropWhile_not (· != '/') rest
            rw [cut] at this
            simpa using this
          refine .inl ⟨_, name, scopePart, namePart, ?_, rfl⟩
          rw [isSlash] at cut
          rw [List.cons_append, ← cut, List.takeWhile_append_dropWhile]
  · rw [Option.ite_none_right_eq_some] at read
    exact .inr ⟨read.1, (Option.some.inj read.2).symm⟩

/-- A text is the text of the name that it writes. -/
theorem text_of_ofChars? {text : List Char} {ident : Ident} (read : ofChars? text = some ident) :
    ident.text.toList = text := by
  rcases ofChars?_cases read with ⟨scope, name, scopePart, -, rfl, rfl⟩ | ⟨-, rfl⟩
  · have nonempty : String.ofList scope ≠ "" := by
      intro same
      rw [← String.toList_inj, String.toList_ofList] at same
      subst same
      exact absurd scopePart (by decide)
    simp [Ident.text, nonempty, toString]
  · simp [Ident.text]

theorem lineFeed_not_mem_of_ofChars? {text : List Char} {ident : Ident}
    (read : ofChars? text = some ident) : '\n' ∉ text := by
  rcases ofChars?_cases read with ⟨scope, name, scopePart, namePart, rfl, -⟩ | ⟨isPart, -⟩
  · intro member
    rcases List.mem_append.mp member with inScope | inName
    · rcases List.mem_cons.mp inScope with same | inScope
      · exact absurd same (by decide)
      · exact ne_lineFeed_of_isPart scopePart inScope
    · rcases List.mem_cons.mp inName with same | inName
      · exact absurd same (by decide)
      · exact ne_lineFeed_of_isPart namePart inName
  · exact ne_lineFeed_of_isPart isPart

/-- **A name that was read is read back from its text.** -/
theorem parse?_text {ident : Ident} (parsed : ident.IsParsed) : parse? ident.text = some ident := by
  obtain ⟨text, read⟩ := parsed
  have same := text_of_ofChars? read
  have noLineFeed := lineFeed_not_mem_of_ofChars? read
  rw [parse?, same, Text.dropFinalLineFeed_of_not_mem noLineFeed]
  exact read

theorem text_injective {ident other : Ident} (parsed : ident.IsParsed) (parsed' : other.IsParsed)
    (same : ident.text = other.text) : ident = other := by
  have read := parse?_text parsed
  rw [same, parse?_text parsed'] at read
  exact (Option.some.inj read).symm

end Ident

end WorkspacePolicy
