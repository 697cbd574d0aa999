/-
# Proofs.Engine.Bridge.Goals — which session and which query a goal is about

What crosses the bridge are names: of a module, under `M`, and of a query, under `E`. A goal
that hands over the name of a query is about that query and no other (`namesQuery_iff`), and
one that hands over the name of a module is about its session (`namesModule_iff`): the names
are put together from decimal numbers and fixed texts without a digit, so that each number
can be cut off in turn (`Alias.text_injective`).
-/
import WorkspacePolicy.Engine.Bridge
import WorkspacePolicy.Proofs.Term.Lexeme

namespace WorkspacePolicy.Bridge

set_option autoImplicit false

/-! ## Names -/

theorem toList_moduleName (k : Nat) :
    (moduleName k).toList = "constraints_session_".toList ++ Nat.toDigits 10 (k + 1) := by
  unfold moduleName
  simp [toString, Nat.repr]

theorem toList_text (a : Alias) : a.text.toList =
    "constraints_session_".toList ++ (Nat.toDigits 10 (a.session + 1) ++ ("_thread_".toList ++
      (Nat.toDigits 10 (a.thread + 1) ++ ("_q".toList ++ Nat.toDigits 10 (a.query + 1))))) := by
  unfold Alias.text moduleName
  simp [toString, Nat.repr]

theorem moduleName_injective {k l : Nat} (same : moduleName k = moduleName l) : k = l := by
  have lists := congrArg String.toList same
  rw [toList_moduleName, toList_moduleName] at lists
  have numbers := Number.toDigits_ten_injective (List.append_cancel_left lists)
  omega

/-- A decimal number is cut off before a text that begins with no digit. -/
theorem toDigits_append_inj {m n : Nat} {rest rest' : List Char}
    (stops : ∀ c ∈ rest.head?, c.isDigit = false) (stops' : ∀ c ∈ rest'.head?, c.isDigit = false)
    (same : Nat.toDigits 10 m ++ rest = Nat.toDigits 10 n ++ rest') : m = n ∧ rest = rest' := by
  obtain ⟨digits, rests⟩ := run_append_inj (p := Char.isDigit)
    (fun _ => Number.isDigit_of_mem_toDigits) (fun _ => Number.isDigit_of_mem_toDigits)
    stops stops' same
  exact ⟨Number.toDigits_ten_injective digits, rests⟩

/-- **The name of a query tells its session, its thread and its number.** -/
theorem Alias.text_injective {a b : Alias} (same : a.text = b.text) : a = b := by
  have lists := congrArg String.toList same
  rw [toList_text, toList_text] at lists
  have fromSession := List.append_cancel_left lists
  obtain ⟨sessions, afterSession⟩ := toDigits_append_inj (by simp) (by simp) fromSession
  have fromThread := List.append_cancel_left afterSession
  obtain ⟨threads, afterThread⟩ := toDigits_append_inj (by simp) (by simp) fromThread
  have queries := Number.toDigits_ten_injective (List.append_cancel_left afterThread)
  cases a
  cases b
  simp_all

/-! ## Goals -/

namespace Goal

/-- The goal hands over the name of a query. -/
def NamesQuery (goal : Goal) (name : String) : Prop := ("E", name) ∈ goal.inputs

/-- The goal hands over the name of a module. -/
def NamesModule (goal : Goal) (name : String) : Prop := ("M", name) ∈ goal.inputs

/-- The query that the goal is about, if it is about one. -/
def query? : Goal → Option Alias
  | .start _ query _ | .next query | .stop query => some query
  | .consult .. | .dispose _ => none

/-- The session whose module the goal is about, if it is about one. -/
def module? : Goal → Option Nat
  | .consult session _ | .start session _ _ | .dispose session => some session
  | .next _ | .stop _ => none

theorem namesQuery_iff (goal : Goal) (a : Alias) :
    goal.NamesQuery a.text ↔ goal.query? = some a := by
  have names : ∀ b : Alias, a.text = b.text ↔ b = a := fun b =>
    ⟨fun same => (Alias.text_injective same).symm, fun same => by rw [same]⟩
  cases goal <;> simp [NamesQuery, inputs, query?, names]

theorem namesModule_iff (goal : Goal) (k : Nat) :
    goal.NamesModule (moduleName k) ↔ goal.module? = some k := by
  have names : ∀ l : Nat, moduleName k = moduleName l ↔ l = k := fun l =>
    ⟨fun same => (moduleName_injective same).symm, fun same => by rw [same]⟩
  cases goal <;> simp [NamesModule, inputs, module?, names]

end Goal

end WorkspacePolicy.Bridge
