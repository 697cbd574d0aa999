/-
# Proofs.Term.ProperList — which terms are lists

A chain is a row of cells before an ending. Every term is one, if only its own ending, and the
ending alone decides: the chain is a list if it ends in the empty list, and no list if it ends in
anything else (`chain_cases`). What stands in the cells is never looked at (`items?_chain`).

So a list is read exactly from the term that is built for it, and a term is refused exactly if
its chain breaks off in a number, a string, a variable, another name, or a compound that is no
cell (`isReadAsList`).
-/
import WorkspacePolicy.Proofs.Term.Items

namespace WorkspacePolicy.Term

set_option autoImplicit false

/-- Cells with the items, before an ending. -/
def chain (items : List Term) (ending : Term) : Term := items.foldr cell ending

/-- The term ends a chain without making it a list: it is neither a cell nor the empty list. -/
inductive BreaksOff : Term → Prop where
  | number (value : Number) : BreaksOff (.number value)
  | string (text : String) : BreaksOff (.string text)
  | unbound (name : String) : BreaksOff (.variable name)
  | atom {name : String} (other : name ≠ nilName) : BreaksOff (.atom name)
  /-- A compound with another number of arguments than a cell, whatever its name is. -/
  | arity (name : String) {args : List Term} (given : args ≠ []) (other : args.length ≠ 2) :
      BreaksOff (.compound name args)
  | functor {name : String} (first second : Term) (other : name ≠ cellName) :
      BreaksOff (.compound name [first, second])

theorem items?_chain (items : List Term) (ending : Term) :
    items? (chain items ending) = (items? ending).map (items ++ ·) := by
  induction items with
  | nil => simp [chain]
  | cons item items ih =>
      show items? (cell item (chain items ending)) = _
      rw [items?_cell, ih, Option.map_map]
      rfl

theorem items?_of_breaksOff {ending : Term} (breaks : BreaksOff ending) :
    items? ending = none := by
  cases breaks with
  | number | string | unbound => rfl
  | atom other => simp [atom, items?, other]
  | functor _ _ other => simp [items?, other]
  | @arity name args given other =>
      rcases args with _ | ⟨first, _ | ⟨second, _ | ⟨third, others⟩⟩⟩
      · exact absurd rfl given
      · rfl
      · exact absurd rfl other
      · rfl

/-- Every term is a list or a chain that breaks off. -/
theorem chain_cases : ∀ t : Term, (∃ items, t = ofItems items) ∨
    ∃ items ending, t = chain items ending ∧ BreaksOff ending
  | .number value => .inr ⟨[], _, rfl, .number value⟩
  | .string text => .inr ⟨[], _, rfl, .string text⟩
  | .variable name => .inr ⟨[], _, rfl, .unbound name⟩
  | .compound name [] => by
      by_cases empty : name = nilName
      · exact .inl ⟨[], by rw [empty]; rfl⟩
      · exact .inr ⟨[], _, rfl, .atom empty⟩
  | .compound name [item, rest] => by
      by_cases isCell : name = cellName
      · subst isCell
        rcases chain_cases rest with ⟨items, rfl⟩ | ⟨items, ending, rfl, breaks⟩
        · exact .inl ⟨item :: items, rfl⟩
        · exact .inr ⟨item :: items, ending, rfl, breaks⟩
      · exact .inr ⟨[], _, rfl, .functor item rest isCell⟩
  | .compound name [_] => .inr ⟨[], _, rfl, .arity name (by simp) (by simp)⟩
  | .compound name (_ :: _ :: _ :: _) => .inr ⟨[], _, rfl, .arity name (by simp) (by simp)⟩

/-- How a term is read as a list. -/
structure IsReadAsList (t : Term) : Prop where
  /-- The items are those of the list that the term is. -/
  read : ∀ items, items? t = some items ↔ t = ofItems items
  /-- There are none exactly if the chain of cells breaks off, whatever its items are. -/
  refused : items? t = none ↔ ∃ items ending, t = chain items ending ∧ BreaksOff ending

/-- **A list is read exactly from the term that is built for it, and every other term is a chain
that breaks off.** -/
theorem isReadAsList (t : Term) : IsReadAsList t where
  read items := items?_eq_some_iff t items
  refused := by
    constructor
    · intro refused
      refine (chain_cases t).resolve_left ?_
      rintro ⟨items, rfl⟩
      rw [items?_ofItems] at refused
      cases refused
    · rintro ⟨items, ending, rfl, breaks⟩
      rw [items?_chain, items?_of_breaksOff breaks]
      rfl

/-- A list among the items does not mend the chain that it stands in. -/
example : items? (chain [nil, ofItems [nil]] (.compound cellName [nil, nil, nil])) = none := rfl

end WorkspacePolicy.Term
