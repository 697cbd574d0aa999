/-
# Proofs.Json.Everywhere — conditions on all parts of a value

A condition may hold everywhere in a value (`everywhere`): its numbers have a text, are whole or
are finite, its objects hold every key once, its texts are joined.

The doubles that are infinite or no numbers are written as words. The first such word in the text
of a value is `constant?`, and there is none just where all numbers are finite
(`constant?_eq_none_iff`).
-/
import WorkspacePolicy.Proofs.Json.Double
import WorkspacePolicy.Proofs.Json.QuotedText

namespace WorkspacePolicy.Json

set_option autoImplicit false

/-! ## Everywhere in a value -/

mutual

/-- A condition holds of a value and of every value inside it. -/
def everywhere (p : Json → Bool) : Json → Bool
  | .array items => p (.array items) && everyItem p items
  | .object members => p (.object members) && everyMember p members
  | value => p value
termination_by structural value => value

def everyItem (p : Json → Bool) : List Json → Bool
  | [] => true
  | item :: items => everywhere p item && everyItem p items
termination_by structural items => items

def everyMember (p : Json → Bool) : List (String × Json) → Bool
  | [] => true
  | (_, value) :: members => everywhere p value && everyMember p members
termination_by structural members => members

end

theorem everyItem_iff {p : Json → Bool} {items : List Json} :
    everyItem p items ↔ ∀ t ∈ items, everywhere p t := by
  induction items with
  | nil => simp [everyItem]
  | cons item items ih => simp [everyItem, ih]

theorem everyMember_iff {p : Json → Bool} {members : List (String × Json)} :
    everyMember p members ↔ ∀ m ∈ members, everywhere p m.2 := by
  induction members with
  | nil => simp [everyMember]
  | cons member members ih => simp [everyMember, ih]

theorem everywhere_array {p : Json → Bool} {items : List Json} (here : p (.array items))
    (each : ∀ t ∈ items, everywhere p t) : everywhere p (.array items) :=
  Bool.and_eq_true_iff.mpr ⟨here, everyItem_iff.mpr each⟩

theorem everywhere_object {p : Json → Bool} {members : List (String × Json)}
    (here : p (.object members)) (each : ∀ m ∈ members, everywhere p m.2) :
    everywhere p (.object members) :=
  Bool.and_eq_true_iff.mpr ⟨here, everyMember_iff.mpr each⟩

mutual

theorem everywhere_mono {p q : Json → Bool} (imp : ∀ v, p v → q v) : ∀ v : Json,
    v.everywhere p → v.everywhere q
  | .array items => fun holds => by
      simp only [everywhere, Bool.and_eq_true] at holds ⊢
      exact ⟨imp _ holds.1, everyItem_mono imp items holds.2⟩
  | .object members => fun holds => by
      simp only [everywhere, Bool.and_eq_true] at holds ⊢
      exact ⟨imp _ holds.1, everyMember_mono imp members holds.2⟩
  | .null => imp _
  | .bool _ => imp _
  | .number _ => imp _
  | .string _ => imp _

theorem everyItem_mono {p q : Json → Bool} (imp : ∀ v, p v → q v) : ∀ items : List Json,
    everyItem p items → everyItem q items
  | [] => fun _ => rfl
  | item :: items => fun holds => by
      simp only [everyItem, Bool.and_eq_true] at holds ⊢
      exact ⟨everywhere_mono imp item holds.1, everyItem_mono imp items holds.2⟩

theorem everyMember_mono {p q : Json → Bool} (imp : ∀ v, p v → q v) :
    ∀ members : List (String × Json), everyMember p members → everyMember q members
  | [] => fun _ => rfl
  | (_, value) :: members => fun holds => by
      simp only [everyMember, Bool.and_eq_true] at holds ⊢
      exact ⟨everywhere_mono imp value holds.1, everyMember_mono imp members holds.2⟩

end

/-! ## Conditions on values -/

/-- A number is whole and has a text. -/
def isWholeNumber : Json → Bool
  | .number (.int value) => (Number.int value).isWritable
  | .number (.float _) => false
  | _ => true

/-- A number has a text. -/
def isWritableNumber : Json → Bool
  | .number value => value.isWritable
  | _ => true

/-- A number is neither infinite nor the value that is not a number. -/
def isFiniteNumber : Json → Bool
  | .number value => value.isFinite
  | _ => true

theorem isWritableNumber_of_isWholeNumber (v : Json) (whole : isWholeNumber v) :
    isWritableNumber v := by
  cases v with
  | number n => cases n <;> first | exact whole | rfl
  | _ => rfl

theorem isFiniteNumber_of_isWholeNumber (v : Json) (whole : isWholeNumber v) :
    isFiniteNumber v := by
  cases v with
  | number n =>
      cases n with
      | int _ => rfl
      | float _ => cases whole
  | _ => rfl

/-- An object holds every key once. -/
def hasDistinctKeys : Json → Bool
  | .object members => decide (members.map (·.1)).Nodup
  | _ => true

/-- The keys of an object are joined texts, and so is a text. -/
def hasJoinedTexts : Json → Bool
  | .string text => isJoined text.toList
  | .object members => members.all fun m => isJoined m.1.toList
  | _ => true

/-! ## Words for numbers -/

mutual

/-- The first word in the text of a value that stands for a number no numeral stands for. -/
def constant? : Json → Option String
  | .number value => if value.isFinite then none else some (String.ofList (value.charsWith .json))
  | .array items => itemsConstant? items
  | .object members => membersConstant? members
  | _ => none
termination_by structural value => value

def itemsConstant? : List Json → Option String
  | [] => none
  | item :: items => (constant? item).or (itemsConstant? items)
termination_by structural items => items

def membersConstant? : List (String × Json) → Option String
  | [] => none
  | (_, value) :: members => (constant? value).or (membersConstant? members)
termination_by structural members => members

end

mutual

/-- **There is no such word if and only if all numbers are finite.** -/
theorem constant?_eq_none_iff : ∀ v : Json, v.constant? = none ↔ v.everywhere isFiniteNumber
  | .null => by simp [constant?, everywhere, isFiniteNumber]
  | .bool _ => by simp [constant?, everywhere, isFiniteNumber]
  | .string _ => by simp [constant?, everywhere, isFiniteNumber]
  | .number _ => by simp [constant?, everywhere, isFiniteNumber]
  | .array items => by
      simp only [constant?, everywhere, isFiniteNumber, Bool.true_and]
      exact itemsConstant?_eq_none_iff items
  | .object members => by
      simp only [constant?, everywhere, isFiniteNumber, Bool.true_and]
      exact membersConstant?_eq_none_iff members

theorem itemsConstant?_eq_none_iff : ∀ items : List Json,
    itemsConstant? items = none ↔ everyItem isFiniteNumber items
  | [] => by simp [itemsConstant?, everyItem]
  | item :: items => by
      rw [itemsConstant?, everyItem, Option.or_eq_none_iff, Bool.and_eq_true,
        constant?_eq_none_iff item, itemsConstant?_eq_none_iff items]

theorem membersConstant?_eq_none_iff : ∀ members : List (String × Json),
    membersConstant? members = none ↔ everyMember isFiniteNumber members
  | [] => by simp [membersConstant?, everyMember]
  | (_, value) :: members => by
      rw [membersConstant?, everyMember, Option.or_eq_none_iff, Bool.and_eq_true,
        constant?_eq_none_iff value, membersConstant?_eq_none_iff members]

end

end WorkspacePolicy.Json
