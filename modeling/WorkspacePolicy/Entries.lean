/-
# Entries — keyed values in order of first insertion

A list of pairs serves as a small map: a key keeps the place at which it was first
inserted, and inserting it again replaces its value there. `Entries.ofList` inserts
pairs one by one, so the last value of a key wins and no key occurs twice.
-/

namespace WorkspacePolicy.Entries

set_option autoImplicit false

variable {α : Type}

/-- Sets the value of a key, at its own place or else at the end. -/
def insert (key : String) (value : α) : List (String × α) → List (String × α)
  | [] => [(key, value)]
  | (k, v) :: rest => if k = key then (key, value) :: rest else (k, v) :: insert key value rest

/-- The entries after inserting the pairs from left to right. -/
def ofList (pairs : List (String × α)) : List (String × α) :=
  pairs.foldl (fun entries pair => insert pair.1 pair.2 entries) []

/-- The value of a key. -/
def find? (key : String) : List (String × α) → Option α
  | [] => none
  | (k, v) :: rest => if k = key then some v else find? key rest

end WorkspacePolicy.Entries
