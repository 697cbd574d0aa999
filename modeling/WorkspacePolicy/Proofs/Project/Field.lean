/-
# Proofs.Project.Field — a manifest field as the value of a result

A field goes into the rules as a term and comes out of a query as JSON text. What comes out is
a function of the field alone (`Json.resultText`): a missing value stays missing, a text that
already holds a document comes out as that document, and everything else comes out as it stands.

The number of a field is a number on the way and a collection is the atom of its text, so that
the text `null` is taken for a missing value and the text `[]` for the empty array. Doubles are
left out, and objects hold every key once, as all that were read do
(`Json.hasDistinctKeys_of_read`).
-/
import WorkspacePolicy.Project.Database
import WorkspacePolicy.Proofs.Json.Read
import WorkspacePolicy.Term.Link

namespace WorkspacePolicy

set_option autoImplicit false

/-- What a field of a manifest is once a query has given it back; `none` for a missing value. -/
def Json.resultText : Json → Option String
  | .null => none
  | .string text =>
    if text = "null" then none
    else match Json.read true text with
      | .ok document => some (document.text .compact)
      | .error _ => some ((Json.string text).text .compact)
  | value => some (value.text .compact)

namespace Term

/-- The text of a value holds no other document than the value. -/
theorem canonicalJson_text {v : Json} (whole : v.everywhere Json.isWholeNumber)
    (distinct : v.everywhere Json.hasDistinctKeys) :
    canonicalJson (v.text .compact) = v.text .compact := by
  rw [canonicalJson, Json.read_text true whole distinct]

/-- The atom of the empty list is the one atom that comes out as a collection. -/
theorem linkJson_atom {text : String} (notNull : text ≠ "null") :
    linkJson (atom text) = .ok (some (if text = nilName then "[]" else canonicalJson text)) := by
  by_cases isNil : text = nilName
  · subst isNil
    rfl
  · simp [linkJson, atom, isNull, isWritable, areWritable, toJson, notNull, isNil]

theorem linkJson_atom_text {v : Json} (whole : v.everywhere Json.isWholeNumber)
    (distinct : v.everywhere Json.hasDistinctKeys) (notNull : v.text .compact ≠ "null") :
    linkJson (atom (v.text .compact)) = .ok (some (v.text .compact)) := by
  rw [linkJson_atom notNull, canonicalJson_text whole distinct]
  split
  · next isNil => rw [isNil]; rfl
  · rfl

theorem linkJson_atom_string (text : String) :
    linkJson (ofField (.string text)) = .ok (Json.string text).resultText := by
  by_cases isNull : text = "null"
  · subst isNull
    rfl
  · rw [ofField, linkJson_atom isNull]
    simp only [Json.resultText, isNull, ↓reduceIte]
    split
    · next isNil =>
        have read : Json.read true text = .ok (.array []) := by
          rw [isNil]
          exact Json.read_text true (v := .array []) rfl rfl
        rw [read]
        rfl
    · rw [canonicalJson]
      cases Json.read true text <;> rfl

/-- A text that begins with the mark of a collection is not `null`. -/
theorem ofList_ne_null {c : Char} (more : List Char) (mark : c ≠ 'n') :
    String.ofList (c :: more) ≠ "null" := by
  intro same
  have := congrArg String.toList same
  rw [String.toList_ofList] at this
  exact mark (List.cons.inj this).1

/-- **A field comes out of a query as itself**, except that texts are read as documents where they
are documents, and that the text `null` is a missing value. -/
theorem linkJson_ofField {v : Json} (whole : v.everywhere Json.isWholeNumber)
    (distinct : v.everywhere Json.hasDistinctKeys) :
    (ofField v).linkJson = .ok v.resultText := by
  cases v with
  | null => rfl
  | bool value =>
      cases value
      · exact linkJson_atom_text (v := .bool false) rfl rfl (by decide)
      · exact linkJson_atom_text (v := .bool true) rfl rfl (by decide)
  | number value =>
      have short : value.isWritable := by
        cases value with
        | int i => simpa [Json.everywhere, Json.isWholeNumber] using whole
        | float x => rfl
      simp [ofField, linkJson, isNull, isWritable, toJson, short, Json.resultText]
  | string text => exact linkJson_atom_string text
  | array items =>
      refine linkJson_atom_text whole distinct ?_
      cases items <;> exact ofList_ne_null _ (by decide)
  | object members =>
      refine linkJson_atom_text whole distinct ?_
      cases members <;> exact ofList_ne_null _ (by decide)

/-- A field with every kind of value, its keys out of order. -/
def mixedField : Json :=
  .object [("b", .array [.number (.int (-12)), .bool true, .null, .array [], .object []]),
    ("a", .string "say \"[]\"\n")]

theorem linkJson_ofField_mixed : mixedField.everywhere Json.isWholeNumber ∧
    mixedField.everywhere Json.hasDistinctKeys ∧ (ofField mixedField).linkJson =
      .ok (some "\x7b\"b\":[-12,true,null,[],\x7b\x7d],\"a\":\"say \\\"[]\\\"\\n\"\x7d") :=
  have whole : mixedField.everywhere Json.isWholeNumber := by decide +kernel
  have distinct : mixedField.everywhere Json.hasDistinctKeys := by decide +kernel
  ⟨whole, distinct, (linkJson_ofField whole distinct).trans rfl⟩

end Term

end WorkspacePolicy
