/-
# Text.Order — texts by code point

Texts are ordered like words in a dictionary whose alphabet is the code points:
the first position at which two texts differ decides, and a text comes before
every longer text that it begins.
-/
import WorkspacePolicy.Text.Surrogate

namespace WorkspacePolicy.Text

set_option autoImplicit false

/-- `leChars a b`: `a` comes before `b` or equals it. -/
def leChars : List Char → List Char → Bool
  | [], _ => true
  | _ :: _, [] => false
  | a :: as, b :: bs => if a = b then leChars as bs else codePoint a < codePoint b

/-- Dictionary order by code point. -/
def le (a b : String) : Bool :=
  leChars a.toList b.toList

/-- Dictionary order of lists of texts, for paths compared name by name. -/
def leNames : List String → List String → Bool
  | [], _ => true
  | _ :: _, [] => false
  | a :: as, b :: bs => if a = b then leNames as bs else le a b

/-- The texts in ascending order. -/
def sorted (texts : List String) : List String :=
  texts.mergeSort le

end WorkspacePolicy.Text
