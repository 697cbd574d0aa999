/-
# Proofs.Term.Items — lists among the terms

`Term.items?` reads exactly the lists that `Term.ofItems` builds (`items?_eq_some_iff`),
so every term has exactly one of five layouts: a number, a string, a variable, a list of
items, or a compound that is no list (`Layout.of`). The printer has one equation for each
layout, and the items of a list and the arguments of a compound are printed alike
(`itemChars`).
-/
import WorkspacePolicy.Term.Printer

namespace WorkspacePolicy.Term

set_option autoImplicit false

@[simp] theorem ofItems_nil : ofItems [] = nil := rfl

@[simp] theorem ofItems_cons (item : Term) (items : List Term) :
    ofItems (item :: items) = cell item (ofItems items) := rfl

@[simp] theorem items?_nil : items? nil = some [] := rfl

@[simp] theorem items?_cell (item rest : Term) :
    items? (cell item rest) = (items? rest).map (item :: ·) := by
  simp [cell, items?]

@[simp] theorem items?_ofItems (items : List Term) : items? (ofItems items) = some items := by
  induction items with
  | nil => rfl
  | cons item items ih => simp [ih]

theorem eq_ofItems_of_items? : ∀ (t : Term) (items : List Term), items? t = some items →
    t = ofItems items
  | .compound name [], items, found => by
      simp only [items?, Option.ite_none_right_eq_some, Option.some.injEq] at found
      obtain ⟨rfl, rfl⟩ := found
      rfl
  | .compound name [item, rest], items, found => by
      simp only [items?, Option.ite_none_right_eq_some, Option.map_eq_some_iff] at found
      obtain ⟨rfl, tail, foundTail, rfl⟩ := found
      rw [ofItems_cons, ← eq_ofItems_of_items? rest tail foundTail]
      rfl
  | .compound _ [_], _, found => by simp [items?] at found
  | .compound _ (_ :: _ :: _ :: _), _, found => by simp [items?] at found
  | .number _, _, found => by simp [items?] at found
  | .string _, _, found => by simp [items?] at found
  | .variable _, _, found => by simp [items?] at found

/-- `items?` reads the lists that `ofItems` builds, and nothing else. -/
theorem items?_eq_some_iff (t : Term) (items : List Term) :
    items? t = some items ↔ t = ofItems items := by
  constructor
  · exact eq_ofItems_of_items? t items
  · rintro rfl
    exact items?_ofItems items

/-! ## The five layouts -/

/-- How a term is laid out as text. -/
inductive Layout : Term → Prop
  | number (value : Number) : Layout (.number value)
  | string (text : String) : Layout (.string text)
  | unbound (name : String) : Layout (.variable name)
  | list (items : List Term) : Layout (ofItems items)
  | compound (name : String) (args : List Term)
      (noList : items? (.compound name args) = none) : Layout (.compound name args)

theorem Layout.of : ∀ t : Term, Layout t
  | .number value => .number value
  | .string text => .string text
  | .variable name => .unbound name
  | .compound name args => by
      cases found : items? (.compound name args) with
      | none => exact .compound name args found
      | some items =>
          rw [eq_ofItems_of_items? _ items found]
          exact .list items

theorem sizeOf_lt_of_mem_args {name : String} {args : List Term} {arg : Term}
    (member : arg ∈ args) : sizeOf arg < sizeOf (Term.compound name args) := by
  have := List.sizeOf_lt_of_mem member
  simp only [compound.sizeOf_spec]
  omega

theorem sizeOf_lt_of_mem_items {items : List Term} {item : Term} (member : item ∈ items) :
    sizeOf item < sizeOf (ofItems items) := by
  induction items with
  | nil => simp at member
  | cons first items ih =>
      have inCell : ∀ t ∈ [first, ofItems items], sizeOf t < sizeOf (cell first (ofItems items)) :=
        fun _ => sizeOf_lt_of_mem_args
      rcases List.mem_cons.mp member with rfl | member
      · exact inCell item (by simp)
      · exact Nat.lt_trans (ih member) (inCell (ofItems items) (by simp))

/-! ## The text of each layout -/

/-- Terms with a comma and a blank between neighbours. -/
def itemChars : List Term → List Char
  | [] => []
  | item :: items => chars item ++ argChars items

theorem restChars_ofItems (items : List Term) : restChars (ofItems items) = argChars items := by
  induction items with
  | nil => rfl
  | cons item items ih => simp [cell, restChars, argChars, ih]

theorem chars_ofItems (items : List Term) :
    chars (ofItems items) = '[' :: itemChars items ++ [']'] := by
  cases items with
  | nil => rfl
  | cons item items =>
      have isList : (items? (ofItems items)).isSome := by simp
      simp only [ofItems_cons, cell, chars, isList, and_self, if_true, restChars_ofItems, itemChars,
        List.cons_append, List.append_assoc]

theorem chars_atom {name : String} (noList : items? (.compound name []) = none) :
    chars (.compound name []) = quoteChars name.toList := by
  have other : name ≠ nilName := by
    rintro rfl
    simp [items?] at noList
  simp [chars, other]

theorem chars_compound {name : String} {arg : Term} {args : List Term}
    (noList : items? (.compound name (arg :: args)) = none) :
    chars (.compound name (arg :: args)) =
      functorChars name ++ '(' :: itemChars (arg :: args) ++ [')'] := by
  match args, noList with
  | [], _ => simp [chars, itemChars]
  | [rest], noList =>
      have noCell : ¬ (name = cellName ∧ (items? rest).isSome) := by
        rintro ⟨rfl, isList⟩
        simp only [items?, if_true, Option.map_eq_none_iff] at noList
        simp [noList] at isList
      simp only [chars, noCell, if_false, itemChars, argChars, List.append_assoc, List.cons_append,
        List.append_nil]
  | _ :: _ :: _, _ => simp [chars, itemChars]

end WorkspacePolicy.Term
