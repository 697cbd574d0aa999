/-
# QueryText — the text of a query

A query may come with a context, which gives variables a value: every pair becomes a
goal `Name = 'value'` before the query, or `Name = null` for a missing value. The text
ends in one period: white space at the end goes first, then a period with the white space
before it as long as there is one, and last a period is added.
-/
import WorkspacePolicy.Term.Quote
import WorkspacePolicy.Text.Blank

namespace WorkspacePolicy.QueryText

set_option autoImplicit false

/-- Variables with the values that they are to have. -/
abbrev Context := List (String × Option String)

/-- The value of a variable: a quoted name, or `null`. -/
def valueChars : Option String → List Char
  | none => "null".toList
  | some value => Term.quoteChars value.toList

/-- The goal for one variable, with the comma after it. -/
def goalChars (binding : String × Option String) : List Char :=
  binding.1.toList ++ " = ".toList ++ valueChars binding.2 ++ ", ".toList

/-- The goals for all variables. -/
def contextChars (context : Context) : List Char :=
  context.flatMap goalChars

/-- A text without the white space at its end, and without each period that is at its end
then, together with the white space before that. -/
def dropPeriods (text : List Char) : List Char :=
  let body := Text.trimEnd Text.isBlank text
  if body.getLast? = some '.' then dropPeriods body.dropLast else body
termination_by text.length
decreasing_by
  rename_i ended
  have shorter := Text.length_trimEnd_le Text.isBlank text
  have nonempty : 0 < (Text.trimEnd Text.isBlank text).length := by
    rw [List.length_pos_iff]
    intro nothing
    simp [body, nothing] at ended
  rw [List.length_dropLast]
  omega

/-- The characters of the text of a query. -/
def chars (query : String) (context : Context) : List Char :=
  dropPeriods (contextChars context ++ query.toList) ++ ['.']

/-- The text of a query in a context. -/
def text (query : String) (context : Context) : String :=
  String.ofList (chars query context)

end WorkspacePolicy.QueryText
