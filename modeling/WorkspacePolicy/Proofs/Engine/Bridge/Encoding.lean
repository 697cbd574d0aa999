/-
# Proofs.Engine.Bridge.Encoding — how the other side writes terms

The other side writes a term as a list: a tag and what belongs to it, with the arguments of a
compound written in the same way. A compound without arguments is an atom. Reading undoes the
writing, for terms of any depth (`decode_encode`), and for the bindings of an answer
(`decodeBindings_encode`).
-/
import WorkspacePolicy.Proofs.Except
import WorkspacePolicy.Engine.Bridge

namespace WorkspacePolicy

set_option autoImplicit false

namespace Bridge

/-! ## Terms -/

mutual

/-- The list that stands for a term. -/
def encode : Term → Json
  | .number value => .array [.string "num", .number value]
  | .string text => .array [.string "str", .string text]
  | .variable name => .array [.string "var", .string name]
  | .compound name [] => .array [.string "atom", .string name]
  | .compound name (arg :: args) =>
    .array [.string "term", .string name, .array (encode arg :: encodeAll args)]
termination_by structural t => t

/-- The lists that stand for terms. -/
def encodeAll : List Term → List Json
  | [] => []
  | t :: rest => encode t :: encodeAll rest
termination_by structural ts => ts

end

mutual

/-- **Reading a term undoes writing it.** -/
theorem decode_encode : (t : Term) → decode (encode t) = .ok t
  | .number value => rfl
  | .string text => rfl
  | .variable name => rfl
  | .compound name [] => rfl
  | .compound name (arg :: args) => by
      have all : decodeAll (encode arg :: encodeAll args) = .ok (arg :: args) :=
        decodeAll_encodeAll (arg :: args)
      show (decodeAll (encode arg :: encodeAll args)).map (Term.compound name) = _
      rw [all]
      rfl

theorem decodeAll_encodeAll : (ts : List Term) → decodeAll (encodeAll ts) = .ok ts
  | [] => rfl
  | t :: rest => by
      rw [encodeAll, decodeAll, decode_encode t, decodeAll_encodeAll rest]
      rfl

end

/-! ## Answers -/

/-- The list that stands for one binding. -/
def encodeBinding (link : String × Term) : Json := .array [.string link.1, encode link.2]

theorem decodeBinding_encode (link : String × Term) :
    decodeBinding (encodeBinding link) = .ok link := by
  show (decode (encode link.2)).bind (fun t => .ok (link.1, t)) = _
  rw [decode_encode]
  rfl

theorem decodeBindings_encode (links : Bindings) :
    decodeBindings (.array (links.map encodeBinding)) = .ok links := by
  show (links.map encodeBinding).mapM decodeBinding = _
  induction links with
  | nil => rfl
  | cons link rest ih =>
      rw [List.map_cons, List.mapM_cons, decodeBinding_encode, ok_bind, ih]
      rfl

end Bridge

end WorkspacePolicy
