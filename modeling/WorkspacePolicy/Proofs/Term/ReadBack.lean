/-
# Proofs.Term.ReadBack — values written as terms and read back

A value has a term unless something without a term stands in it, and the first such leaf from the
left is reported (`failure?_toTerm?`). A list of terms is read as the list of what each of them is
read as, whatever they are (`toJson_ofItems`): an item that is the empty list or a list of its own
changes nothing about the list around it.

So a value comes back as it was, but for what terms do not tell apart: tuples are lists, a missing
value and the text `[]` are the empty list, and truth values are texts (`isCarriedOver`).
-/
import WorkspacePolicy.Proofs.Except
import WorkspacePolicy.Proofs.Term.Items
import WorkspacePolicy.Term.Data

namespace WorkspacePolicy

set_option autoImplicit false

namespace Term

theorem restToJson_ofItems (items : List Term) :
    restToJson (ofItems items) = items.map toJson := by
  induction items with
  | nil => rfl
  | cons item items ih => simp [cell, restToJson, ih]

/-- A list is read item by item. -/
theorem toJson_ofItems (items : List Term) :
    toJson (ofItems items) = .array (items.map toJson) := by
  cases items with
  | nil => rfl
  | cons item items => simp [cell, toJson, restToJson_ofItems]

end Term

namespace Value

mutual

/-- The values inside a value that are no lists and no tuples, from left to right. -/
def leaves : Value → List Value
  | .list items => itemsLeaves items
  | .tuple items => itemsLeaves items
  | leaf => [leaf]
termination_by structural value => value

/-- The leaves of some values, one value after the other. -/
def itemsLeaves : List Value → List Value
  | [] => []
  | item :: items => leaves item ++ itemsLeaves items
termination_by structural items => items

end

/-- What is wrong with a leaf. -/
def unsupported? : Value → Option Unsupported
  | .foreign kind => some ⟨kind⟩
  | _ => Option.none

mutual

/-- What comes back of a value: a missing value is the empty list, and so is the text that is its
name; truth values are texts, and tuples are lists. Nothing comes back of what has no term. -/
def asData : Value → Json
  | .none => .array []
  | .bool value => .string (if value then "true" else "false")
  | .number value => .number value
  | .text value => if value = Term.nilName then .array [] else .string value
  | .list items => .array (itemsAsData items)
  | .tuple items => .array (itemsAsData items)
  | .term value => value.toJson
  | .foreign _ => .null
termination_by structural value => value

/-- What comes back of some values, one by one. -/
def itemsAsData : List Value → List Json
  | [] => []
  | item :: items => asData item :: itemsAsData items
termination_by structural items => items

end

/-! ## Values without a term -/

mutual

/-- **The first leaf without a term is reported.** -/
theorem failure?_toTerm? : ∀ v : Value, failure? v.toTerm? = v.leaves.findSome? unsupported?
  | .list items => failure?_map.trans (failure?_itemsToTerms? items)
  | .tuple items => failure?_map.trans (failure?_itemsToTerms? items)
  | .none => rfl
  | .bool _ => rfl
  | .number _ => rfl
  | .text _ => rfl
  | .term _ => by rfl
  | .foreign _ => rfl

theorem failure?_itemsToTerms? : ∀ items : List Value,
    failure? (itemsToTerms? items) = (itemsLeaves items).findSome? unsupported?
  | [] => rfl
  | item :: items => by
      rw [itemsLeaves, List.findSome?_append, ← failure?_toTerm? item,
        ← failure?_itemsToTerms? items, itemsToTerms?]
      cases toTerm? item with
      | error _ => rfl
      | ok _ => exact failure?_map

end

theorem unsupported?_eq_some_iff {leaf : Value} {e : Unsupported} :
    unsupported? leaf = some e ↔ leaf = .foreign e.kind := by
  cases leaf <;> cases e <;> simp [unsupported?]

theorem forall_unsupported?_iff {leaves : List Value} :
    (∀ leaf ∈ leaves, unsupported? leaf = Option.none) ↔ ∀ kind, .foreign kind ∉ leaves := by
  constructor
  · intro supported kind member
    cases supported _ member
  · intro absent leaf member
    cases leaf with
    | foreign kind => exact absurd member (absent kind)
    | _ => rfl

/-! ## Values with a term -/

/-- Lists and tuples come back alike, from the list of the terms of their items. -/
theorem toJson_of_items {items : List Value} {t : Term}
    (each : ∀ terms, itemsToTerms? items = .ok terms → terms.map Term.toJson = itemsAsData items)
    (given : (itemsToTerms? items).map .ofItems = .ok t) :
    t.toJson = .array (itemsAsData items) := by
  obtain ⟨terms, itemsGiven, rfl⟩ := map_eq_ok_iff.mp given
  rw [Term.toJson_ofItems, each terms itemsGiven]

mutual

theorem toJson_of_toTerm? : ∀ (v : Value) (t : Term), v.toTerm? = .ok t → t.toJson = v.asData
  | .list items, _, given => toJson_of_items (map_toJson_of_itemsToTerms? items) given
  | .tuple items, _, given => toJson_of_items (map_toJson_of_itemsToTerms? items) given
  | .none, _, rfl => rfl
  | .bool value, _, rfl => by cases value <;> rfl
  | .number _, _, rfl => rfl
  | .text _, _, rfl => rfl
  | .term _, _, rfl => by rfl

theorem map_toJson_of_itemsToTerms? : ∀ (items : List Value) (terms : List Term),
    itemsToTerms? items = .ok terms → terms.map Term.toJson = itemsAsData items
  | [], _, rfl => rfl
  | item :: items, terms, given => by
      rw [itemsToTerms?] at given
      cases first : toTerm? item with
      | error _ =>
          rw [first] at given
          cases given
      | ok t =>
          rw [first] at given
          obtain ⟨others, othersGiven, rfl⟩ := map_eq_ok_iff.mp given
          rw [List.map_cons, itemsAsData, toJson_of_toTerm? item t first,
            map_toJson_of_itemsToTerms? items others othersGiven]

end

/-- How a value is written as a term, and what comes back of it. -/
structure IsCarriedOver (v : Value) : Prop where
  /-- There is a term unless something without a term stands somewhere in the value. -/
  written : (∃ t, v.toTerm? = .ok t) ↔ ∀ kind, .foreign kind ∉ v.leaves
  /-- The first such thing from the left is reported, by its kind. -/
  refused : ∀ e, v.toTerm? = .error e ↔ ∃ before after,
    v.leaves = before ++ .foreign e.kind :: after ∧ ∀ kind, .foreign kind ∉ before
  /-- The term is read as the value, but for what terms do not tell apart. -/
  readBack : ∀ t, v.toTerm? = .ok t → t.toJson = v.asData

/-- **A value comes back from its term at every depth, and has one unless something in it has
none.** -/
theorem isCarriedOver (v : Value) : IsCarriedOver v where
  written := by
    rw [← failure?_eq_none_iff, failure?_toTerm?, List.findSome?_eq_none_iff,
      forall_unsupported?_iff]
  refused e := by
    rw [← failure?_eq_some_iff, failure?_toTerm?, List.findSome?_eq_some_iff]
    simp only [unsupported?_eq_some_iff, forall_unsupported?_iff]
    constructor
    · rintro ⟨before, _, after, same, rfl, absent⟩
      exact ⟨before, after, same, absent⟩
    · rintro ⟨before, after, same, absent⟩
      exact ⟨before, _, after, same, rfl, absent⟩
  readBack := toJson_of_toTerm? v

/-- An item that is written like the end of the list ends nothing. -/
example : (toTerm? (.list [.text "[]", .tuple [.none, .bool true], .text "."])).toOption.map
    Term.toJson = some (.array [.array [], .array [.array [], .string "true"], .string "."]) := rfl

end Value

end WorkspacePolicy
