/-
# Proofs.Text.Trim — the end of a text

A text is *trimmed* for some characters if it does not end in one of them. `trimEnd` is the one
trimmed text that the given text continues by such characters only (`trimEnd_eq_iff`). So what is
added at the end does not count where it consists of them (`trimEnd_append_of_all`), and what
stands before a character of another kind stays (`trimEnd_append_of_isTrimmed`).
-/
import WorkspacePolicy.Text.Blank

namespace WorkspacePolicy.Text

set_option autoImplicit false

variable {p : Char → Bool} {text : List Char}

/-- The text does not end in a character that satisfies `p`. -/
def IsTrimmed (p : Char → Bool) (text : List Char) : Prop :=
  ∀ c ∈ text.getLast?, p c = false

theorem isTrimmed_nil : IsTrimmed p [] := nofun

theorem isTrimmed_concat {c : Char} : IsTrimmed p (text ++ [c]) ↔ p c = false := by
  simp [IsTrimmed]

/-- Only characters that satisfy `p` are taken away. -/
theorem exists_run_trimEnd (p : Char → Bool) : ∀ text : List Char,
    ∃ run, text = trimEnd p text ++ run ∧ ∀ c ∈ run, p c
  | [] => ⟨[], rfl, nofun⟩
  | c :: rest => by
      obtain ⟨run, same, all⟩ := exists_run_trimEnd p rest
      rw [trimEnd]
      split
      · next nothing =>
          rw [nothing, List.nil_append] at same
          by_cases here : p c
          · refine ⟨c :: rest, by simp [here], ?_⟩
            rw [same]
            exact List.forall_mem_cons.mpr ⟨here, all⟩
          · refine ⟨rest, by simp [here], ?_⟩
            rw [same]
            exact all
      · next kept =>
          refine ⟨run, ?_, all⟩
          rw [List.cons_append, ← same]

theorem isTrimmed_trimEnd (p : Char → Bool) (text : List Char) : IsTrimmed p (trimEnd p text) := by
  induction text with
  | nil => exact isTrimmed_nil
  | cons c rest ih =>
      rw [trimEnd]
      split
      · by_cases here : p c
        · simp [here, isTrimmed_nil]
        · simp [here, IsTrimmed]
      · next kept =>
          intro last ended
          apply ih last
          rw [List.getLast?_cons_of_ne_nil kept] at ended
          exact ended

theorem trimEnd_append_of_all {run : List Char} (text : List Char) (all : ∀ c ∈ run, p c) :
    trimEnd p (text ++ run) = trimEnd p text := by
  have nothing : trimEnd p run = [] := by
    induction run with
    | nil => rfl
    | cons c run ih =>
        obtain ⟨here, later⟩ := List.forall_mem_cons.mp all
        rw [trimEnd, ih later]
        simp [here]
  induction text with
  | nil => exact nothing
  | cons c text ih => rw [List.cons_append, trimEnd, ih, trimEnd]

theorem trimEnd_append_of_isTrimmed (trimmed : IsTrimmed p text) (rest : List Char) :
    trimEnd p (text ++ rest) = text ++ trimEnd p rest := by
  induction text with
  | nil => rfl
  | cons c text ih =>
      rw [List.cons_append, trimEnd]
      cases text with
      | nil =>
          have kept : p c = false := trimmed c rfl
          rw [List.nil_append]
          split
          · next nothing => simp [kept, nothing]
          · rfl
      | cons d text =>
          rw [ih fun last ended => trimmed last (by simpa using ended)]
          rfl

/-- **Trimming gives the one trimmed text that the given text continues by `p` only.** -/
theorem trimEnd_eq_iff {body : List Char} :
    trimEnd p text = body ↔ IsTrimmed p body ∧ ∃ run, text = body ++ run ∧ ∀ c ∈ run, p c := by
  constructor
  · rintro rfl
    exact ⟨isTrimmed_trimEnd p text, exists_run_trimEnd p text⟩
  · rintro ⟨trimmed, run, rfl, all⟩
    have whole := trimEnd_append_of_isTrimmed trimmed []
    rw [List.append_nil] at whole
    rw [trimEnd_append_of_all body all, whole, trimEnd, List.append_nil]

end WorkspacePolicy.Text
