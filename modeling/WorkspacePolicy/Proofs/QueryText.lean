/-
# Proofs.QueryText — the text of a query ends once, and keeps its context apart

The white space and the periods at the end of a query are taken away by turns. What is left is
the query without the longest run of both at its end (`dropPeriods_eq_trimEnd`), so that one
period ends the text, such a run at the end of the query does not count, and the text of a query
is a query with that text.

The run can reach back into the goals of the context, but only to the blank after the last comma.
So the goals stand at the front of the text whatever the query is, and because a quoted name says
itself where it ends, two texts with the same variables that agree have the same values
(`eq_of_dropLast_contextChars`): no value of a context can pass for another value, for the goals
after it or for the query.
-/
import WorkspacePolicy.Proofs.Term.QuotedName
import WorkspacePolicy.Proofs.Text.Trim
import WorkspacePolicy.QueryText

namespace WorkspacePolicy.QueryText

set_option autoImplicit false

open Text

/-- White space or a period. -/
def isEnding (c : Char) : Bool :=
  c == '.' || isBlank c

/-! ## The end of the text -/

/-- **White space and periods taken away by turns are one run of both.** -/
theorem dropPeriods_eq_trimEnd (text : List Char) :
    dropPeriods text = trimEnd isEnding text := by
  fun_induction dropPeriods text with
  | case1 text body ended ih =>
      obtain ⟨blanks, same, all⟩ := exists_run_trimEnd isBlank text
      have split : body = body.dropLast ++ ['.'] := by
        obtain ⟨nonempty, last⟩ := List.getLast?_eq_some_iff.mp ended
        simp [last]
      have run : ∀ c ∈ '.' :: blanks, isEnding c := by
        refine List.forall_mem_cons.mpr ⟨rfl, ?_⟩
        intro c member
        simp [isEnding, all c member]
      have whole : text = body.dropLast ++ '.' :: blanks := by
        rw [same]
        show body ++ blanks = _
        rw [split]
        simp
      rw [ih, whole, trimEnd_append_of_all _ run]
  | case2 text body notEnded =>
      obtain ⟨blanks, same, all⟩ := exists_run_trimEnd isBlank text
      symm
      rw [trimEnd_eq_iff]
      refine ⟨?_, blanks, same, fun c member => by simp [isEnding, all c member]⟩
      intro c last
      have notBlank : isBlank c = false := isTrimmed_trimEnd isBlank text c last
      have notPeriod : c ≠ '.' := by
        rintro rfl
        exact notEnded last
      simp [isEnding, notBlank, notPeriod]

theorem toList_text (query : String) (context : Context) :
    (text query context).toList =
      trimEnd isEnding (contextChars context ++ query.toList) ++ ['.'] := by
  rw [text, String.toList_ofList, chars, dropPeriods_eq_trimEnd]

theorem text_congr {query query' : String} {context context' : Context}
    (same : trimEnd isEnding (contextChars context ++ query.toList) =
      trimEnd isEnding (contextChars context' ++ query'.toList)) :
    text query context = text query' context' := by
  rw [← String.toList_inj, toList_text, toList_text, same]

/-! ## The goals of the context -/

theorem valueChars_append_inj {value other : Option String} {rest rest' : List Char}
    (same : valueChars value ++ rest = valueChars other ++ rest') :
    value = other ∧ rest = rest' := by
  cases value with
  | none =>
      cases other with
      | none => exact ⟨rfl, List.append_cancel_left same⟩
      | some other => exact absurd (List.cons.inj same).1 (by decide)
  | some value =>
      cases other with
      | none => exact absurd (List.cons.inj same).1 (by decide)
      | some other =>
          obtain ⟨chars, rests⟩ := Term.quoteChars_append_inj same
          exact ⟨congrArg some (String.toList_inj.mp chars), rests⟩

/-- Two goals for one variable with what comes after them are told apart by their values. -/
theorem goal_append_inj {name : String} {value other : Option String} {rest rest' : List Char}
    (same : name.toList ++ " = ".toList ++ valueChars value ++ ',' :: rest =
      name.toList ++ " = ".toList ++ valueChars other ++ ',' :: rest') :
    value = other ∧ rest = rest' := by
  simp only [List.append_assoc] at same
  have values := List.append_cancel_left (List.append_cancel_left same)
  obtain ⟨value, rests⟩ := valueChars_append_inj values
  exact ⟨value, (List.cons.inj rests).2⟩

/-- The goals without the blank at their end: one after the other. -/
theorem dropLast_contextChars_cons (name : String) (value : Option String) (context : Context) :
    (contextChars ((name, value) :: context)).dropLast =
      name.toList ++ " = ".toList ++ valueChars value ++
        ',' :: (if context = [] then [] else ' ' :: (contextChars context).dropLast) := by
  cases context with
  | nil =>
      have one : contextChars [(name, value)] =
          (name.toList ++ " = ".toList ++ valueChars value ++ [',']) ++ [' '] := by
        simp [contextChars, goalChars]
      rw [one, List.dropLast_concat]
      rfl
  | cons next context =>
      have nonempty : contextChars (next :: context) ≠ [] := by
        simp [contextChars, goalChars]
      have first : contextChars ((name, value) :: next :: context) =
          (name.toList ++ " = ".toList ++ valueChars value ++ [',', ' ']) ++
            contextChars (next :: context) := by
        simp [contextChars, goalChars]
      rw [first, List.dropLast_append_of_ne_nil nonempty]
      simp

/-- **Goals for the same variables that agree as texts agree in their values**, whatever comes
after them. The induction is on both contexts at once; each step reads one goal. -/
theorem eq_of_dropLast_contextChars : ∀ {context context' : Context} {rest rest' : List Char},
    context.map Prod.fst = context'.map Prod.fst →
    (contextChars context).dropLast ++ rest = (contextChars context').dropLast ++ rest' →
    context.map Prod.snd = context'.map Prod.snd
  | [], [], _, _, _, _ => rfl
  | [], _ :: _, _, _, names, _ => by cases names
  | _ :: _, [], _, _, names, _ => by cases names
  | (name, value) :: context, (name', value') :: context', rest, rest', names, same => by
      obtain ⟨sameName, sameNames⟩ := List.cons.inj names
      dsimp only at sameName
      subst sameName
      rw [dropLast_contextChars_cons, dropLast_contextChars_cons] at same
      simp only [List.append_assoc, List.cons_append] at same
      simp only [← List.append_assoc] at same
      obtain ⟨sameValue, rests⟩ := goal_append_inj same
      subst sameValue
      refine congrArg (value :: ·) ?_
      -- The other goals, if there are any, stand after one blank.
      have bothEnd : context = [] ↔ context' = [] := by
        rw [← List.map_eq_nil_iff (f := Prod.fst), sameNames, List.map_eq_nil_iff]
      by_cases last : context = []
      · simp [last, bothEnd.mp last]
      · have more : context' ≠ [] := fun nothing => last (bothEnd.mpr nothing)
        simp only [last, more, if_false, List.cons_append] at rests
        exact eq_of_dropLast_contextChars sameNames (List.cons.inj rests).2

/-- The goals stand at the front of the text, all but the blank after the last comma. -/
theorem toList_text_of_context (query : String) {context : Context} (nonempty : context ≠ []) :
    (text query context).toList =
      (contextChars context).dropLast ++ (trimEnd isEnding (' ' :: query.toList) ++ ['.']) := by
  obtain ⟨front, goals⟩ : ∃ front, contextChars context = (front ++ [',']) ++ [' '] := by
    obtain ⟨before, last, rfl⟩ := List.eq_nil_or_concat context |>.resolve_left nonempty
    refine ⟨contextChars before ++ last.1.toList ++ " = ".toList ++ valueChars last.2, ?_⟩
    simp [contextChars, goalChars]
  have comma : IsTrimmed isEnding (front ++ [',']) := isTrimmed_concat.mpr (by decide)
  rw [toList_text, goals, List.dropLast_concat, List.append_assoc, List.singleton_append,
    trimEnd_append_of_isTrimmed comma, List.append_assoc]

/-! ## All queries and contexts -/

/-- How the text of a query is written. -/
structure IsSafe : Prop where
  /-- It is the goals and the query without the longest run of white space and periods at the end,
  and one period. -/
  ends : ∀ query context, ∃ body run, contextChars context ++ query.toList = body ++ run ∧
    (∀ c ∈ run, isEnding c) ∧ IsTrimmed isEnding body ∧
      (text query context).toList = body ++ ['.']
  /-- Written again as a query of its own it stays as it is. -/
  again : ∀ query context, text (text query context) [] = text query context
  /-- White space and periods at the end of the query do not count. -/
  appended : ∀ query run context, (∀ c ∈ run.toList, isEnding c) →
    text (query ++ run) context = text query context
  /-- The values of given variables can be told from it, whatever the queries are. -/
  values : ∀ query query' context context', context.map Prod.fst = context'.map Prod.fst →
    text query context = text query' context' → context.map Prod.snd = context'.map Prod.snd

/-- **The text of a query ends in one period, and no value in it alters the goals around it.** -/
theorem text_isSafe : IsSafe where
  ends query context := by
    obtain ⟨run, same, all⟩ :=
      exists_run_trimEnd isEnding (contextChars context ++ query.toList)
    exact ⟨_, run, same, all, isTrimmed_trimEnd _ _, toList_text query context⟩
  again query context := by
    have period : ∀ c ∈ ['.'], isEnding c := List.forall_mem_singleton.mpr rfl
    have trimmed := isTrimmed_trimEnd isEnding (contextChars context ++ query.toList)
    have whole := trimEnd_append_of_isTrimmed trimmed []
    rw [List.append_nil, trimEnd, List.append_nil] at whole
    apply text_congr
    rw [toList_text, contextChars, List.flatMap_nil, List.nil_append,
      trimEnd_append_of_all _ period, whole]
  appended query run context all := by
    apply text_congr
    rw [String.toList_append, ← List.append_assoc, trimEnd_append_of_all _ all]
  values query query' context context' names same := by
    by_cases nothing : context = []
    · subst nothing
      have nothing' : context' = [] := List.map_eq_nil_iff.mp names.symm
      rw [nothing']
    · have nonempty : context' ≠ [] := by
        rintro rfl
        exact nothing (List.map_eq_nil_iff.mp names)
      rw [← String.toList_inj, toList_text_of_context query nothing,
        toList_text_of_context query' nonempty] at same
      exact eq_of_dropLast_contextChars names same

/-- A blank query leaves the goals of its context. -/
example : text " .. " [("A", some "it's"), ("B", none)] = "A = 'it\\'s', B = null,." := by cbv

end WorkspacePolicy.QueryText
