/-
# Project.Ident — package names

A package name is `name` or `@scope/name`, where neither part is empty or holds a
slash, an at sign or white space. A text that ends in a line feed is read without it.
-/
import WorkspacePolicy.Text.Blank
import WorkspacePolicy.Text.Lines
import WorkspacePolicy.Text.Quoted

namespace WorkspacePolicy

set_option autoImplicit false

/-- A package name with its scope, if it has one. -/
structure Ident where
  scope : Option String
  name : String
  deriving DecidableEq, Repr

namespace Ident

/-- A character that may stand in a scope or a name. -/
def isPartChar (c : Char) : Bool :=
  c != '/' && c != '@' && !Text.isBlank c

/-- A scope or a name. -/
def isPart (part : List Char) : Bool :=
  !part.isEmpty && part.all isPartChar

/-- The package name that a text without a final line feed writes. -/
def ofChars? (text : List Char) : Option Ident :=
  match text with
  | '@' :: rest =>
    let scope := rest.takeWhile (· != '/')
    match rest.dropWhile (· != '/') with
    | _ :: name =>
      if isPart scope && isPart name then some ⟨some (String.ofList scope), String.ofList name⟩
      else none
    | [] => none
  | name => if isPart name then some ⟨none, String.ofList name⟩ else none

/-- The package name that a text writes. -/
def parse? (text : String) : Option Ident :=
  ofChars? (Text.dropFinalLineFeed text.toList)

/-- The text of a package name; an empty scope is no scope. -/
def text (ident : Ident) : String :=
  match ident.scope with
  | none => ident.name
  | some scope => if scope = "" then ident.name else s!"@{scope}/{ident.name}"

/-- The message for a text that is no package name. -/
def invalidMessage (text : String) : String :=
  s!"Invalid ident ({Text.quoted text})"

end Ident

end WorkspacePolicy
