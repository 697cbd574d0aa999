/-
# Proofs.Term.CanonicalJson — results as canonical JSON

A result is written as JSON text: the document that its text holds, written anew, or its text as a
JSON string, or its numbers and lists as they are (`Term.linked`). Such a text is a document that a
strict reader takes, and writing it anew changes nothing, if and only if every number in it is
finite (`linkJson_canonical_iff`).

Not every number is. A reader refuses the words `NaN` and `Infinity`, but it reads a numeral beyond
the range of the doubles as infinity, which is then written as the word that no strict reader takes.
Read again, that word is no document but a text, so that it comes out in quotes.
-/
import WorkspacePolicy.Proofs.Json.Read
import WorkspacePolicy.Term.Link

namespace WorkspacePolicy.Term

set_option autoImplicit false

/-! ## The value of a result -/

mutual

/-- A condition holds everywhere in the data of a term if it holds of texts and arrays and of the
numbers that have a text. -/
theorem everywhere_toJson {p : Json → Bool} (number : ∀ n : Number, n.isWritable → p (.number n))
    (string : ∀ s, p (.string s)) (array : ∀ items, p (.array items)) : ∀ t : Term,
    t.isWritable → t.toJson.everywhere p
  | .number n => fun short => number n (by simpa [isWritable] using short)
  | .string _ => fun _ => string _
  | .variable _ => fun _ => string _
  | .compound name [] => fun _ => by
      simp only [toJson]
      split
      · exact Json.everywhere_array (array []) nofun
      · exact string name
  | .compound name [item, rest] => fun short => by
      simp only [isWritable, areWritable, Bool.and_eq_true, Bool.and_true] at short
      simp only [toJson]
      split
      · refine Json.everywhere_array (array _) (List.forall_mem_cons.mpr ⟨?_, ?_⟩)
        · exact everywhere_toJson number string array item short.1
        · exact everywhere_restToJson number string array rest short.2
      · exact string _
  | .compound _ [_] => fun _ => string _
  | .compound _ (_ :: _ :: _ :: _) => fun _ => string _

theorem everywhere_restToJson {p : Json → Bool}
    (number : ∀ n : Number, n.isWritable → p (.number n)) (string : ∀ s, p (.string s))
    (array : ∀ items, p (.array items)) : ∀ t : Term,
    t.isWritable → ∀ item ∈ t.restToJson, item.everywhere p
  | .compound _ [item, rest] => fun short => by
      simp only [isWritable, areWritable, Bool.and_eq_true, Bool.and_true] at short
      refine List.forall_mem_cons.mpr ⟨?_, ?_⟩
      · exact everywhere_toJson number string array item short.1
      · exact everywhere_restToJson number string array rest short.2
  | .compound _ [] => fun _ => nofun
  | .compound _ [_] => fun _ => nofun
  | .compound _ (_ :: _ :: _ :: _) => fun _ => nofun
  | .number _ => fun _ => nofun
  | .string _ => fun _ => nofun
  | .variable _ => fun _ => nofun

end

/-- The document that a text holds, or else the text itself. -/
def documentOf (s : String) : Json :=
  match Json.read true s with
  | .ok value => value
  | .error _ => .string s

/-- The value that a bound term is written as. -/
def linked (t : Term) : Json :=
  match t.toJson with
  | .string s => documentOf s
  | value => value

theorem canonicalJson_eq (s : String) : canonicalJson s = (documentOf s).text .compact := by
  rw [canonicalJson, documentOf]
  cases Json.read true s <;> rfl

theorem linkJson_eq_ok_some_iff {t : Term} {r : String} :
    t.linkJson = .ok (some r) ↔
      t.isNull = false ∧ t.isWritable ∧ t.linked.text .compact = r := by
  rw [linkJson]
  by_cases missing : t.isNull
  · simp [missing]
  by_cases short : t.isWritable
  · simp only [missing, short, linked, Bool.false_eq_true, Bool.not_true, ↓reduceIte, true_and]
    cases t.toJson with
    | string s => simp [canonicalJson_eq]
    | _ => simp
  · simp [missing, short]

theorem isWritableNumber_linked {t : Term} (short : t.isWritable) :
    t.linked.everywhere Json.isWritableNumber := by
  have everywhere := everywhere_toJson (p := Json.isWritableNumber) (fun _ short => short)
    (fun _ => rfl) (fun _ => rfl) t short
  rw [linked]
  split
  · next s _ =>
      rw [documentOf]
      split
      · next read => exact Json.isWritableNumber_of_read read
      · rfl
  · exact everywhere

theorem hasDistinctKeys_linked {t : Term} (short : t.isWritable) :
    t.linked.everywhere Json.hasDistinctKeys := by
  have everywhere := everywhere_toJson (p := Json.hasDistinctKeys) (fun _ _ => rfl)
    (fun _ => rfl) (fun _ => rfl) t short
  rw [linked]
  split
  · next s _ =>
      rw [documentOf]
      split
      · next read => exact Json.hasDistinctKeys_of_read read
      · rfl
  · exact everywhere

/-! ## Canonical texts -/

/-- No text is the text that quotes it, which is longer. -/
theorem text_string_ne (s : String) : (Json.string s).text .compact ≠ s := by
  intro same
  have lengths := congrArg (fun text => text.toList.length) same
  have longer := Json.length_le_length_body false s.toList
  simp only [Json.text, Json.charsAt, Json.stringChars, String.toList_ofList, List.length_append,
    List.length_cons, Json.Style.compact] at lengths
  omega

theorem linkJson_string (s : String) :
    (string s).linkJson = .ok (some (canonicalJson s)) := rfl

/-- **The JSON text of a result is strict JSON, and its own JSON text, if and only if all numbers
in it are finite.** -/
theorem linkJson_canonical_iff {t : Term} {r : String} (given : t.linkJson = .ok (some r)) :
    ((∃ v, Json.read true r = .ok v) ↔ t.linked.everywhere Json.isFiniteNumber) ∧
      ((string r).linkJson = .ok (some r) ↔ t.linked.everywhere Json.isFiniteNumber) := by
  obtain ⟨-, short, rfl⟩ := linkJson_eq_ok_some_iff.mp given
  have writable := isWritableNumber_linked short
  have distinct := hasDistinctKeys_linked short
  by_cases finite : t.linked.everywhere Json.isFiniteNumber
  · have read := Json.read_of_isFiniteNumber Json.Style.separates_compact true writable finite
      distinct nofun
    have again : (string (t.linked.text .compact)).linkJson =
        .ok (some (t.linked.text .compact)) := by
      rw [linkJson_string, canonicalJson, read]
    exact ⟨iff_of_true ⟨_, read⟩ finite, iff_of_true again finite⟩
  -- the first word that is refused makes a text of the document, which comes out in quotes
  · obtain ⟨word, first⟩ := Option.ne_none_iff_exists'.mp
      (mt (Json.constant?_eq_none_iff t.linked).mp finite)
    have refused := Json.read_of_constant? Json.Style.separates_compact writable distinct nofun
      first
    refine ⟨iff_of_false ?_ finite, iff_of_false ?_ finite⟩
    · rintro ⟨v, read⟩
      rw [refused] at read
      cases read
    · intro again
      rw [linkJson_string, canonicalJson, refused] at again
      exact text_string_ne _ (Option.some.inj (Except.ok.inj again))

/-- A numeral beyond the range of the doubles comes out as a word that is no JSON, and the word
comes out in quotes. -/
theorem linkJson_canonical_beyond : (string "1e400").linkJson = .ok (some "Infinity") ∧
    (¬ ∃ v, Json.read true "Infinity" = .ok v) ∧
      (string "Infinity").linkJson ≠ .ok (some "Infinity") := by
  have given : (string "1e400").linkJson = .ok (some "Infinity") := by decide +kernel
  have beyond : ¬ (string "1e400").linked.everywhere Json.isFiniteNumber := by decide +kernel
  obtain ⟨strict, fixed⟩ := linkJson_canonical_iff given
  exact ⟨given, mt strict.mp beyond, mt fixed.mp beyond⟩

end WorkspacePolicy.Term
