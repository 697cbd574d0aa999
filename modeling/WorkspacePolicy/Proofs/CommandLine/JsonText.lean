/-
# Proofs.CommandLine.JsonText — results as JSON text

Every row of a query takes one line. The line holds visible ASCII characters only, so neither a
text in the row nor a name can end it, and what it holds is read back as the row
(`areLinesOf_rowLines`): the same names in the same order, with the same texts, and `null` for a
missing one. Conclusions are read back in the same way from the text in which they are printed
(`isTextOf_conclusionsText`).

What is to be read back is said without the printer (`Row.toJson`, `Conclusions.toJson`), and one
equation for each kind of result joins the two (`rowLine_eq`, `conclusionsText_eq`).

Results are read back if their lines keep them. Of a row whose names are distinct, as those of an
answer are (`Row.distinct_of_ofBindings`), this asks only that no lone high surrogate comes right
before a lone low one. No text without lone surrogates has such a pair
(`Row.isKept_of_isEncodable`).
-/
import Mathlib.Data.List.Forall2
import WorkspacePolicy.CommandLine.Run
import WorkspacePolicy.Proofs.Json.Visible
import WorkspacePolicy.Proofs.Policy.RowStream

namespace WorkspacePolicy

set_option autoImplicit false

open CommandLine

theorem Json.hasJoinedTexts_object {members : List (String × Json)} (keys : List String)
    (listed : members.map (·.1) = keys) (joined : keys.all fun key => isJoined key.toList) :
    hasJoinedTexts (.object members) := by
  rw [← listed, List.all_map] at joined
  exact joined

/-! ## Rows -/

theorem Json.everywhere_elim {p : Json → Bool} {value : Option String} (null : p .null)
    (text : ∀ s ∈ value, p (.string s)) : (value.elim Json.null Json.string).everywhere p := by
  cases value with
  | none => exact null
  | some s => exact text s rfl

namespace Row

/-- A row as a value of JSON: each name with its text, or `null` where it is missing. -/
def toJson (row : Row) : Json :=
  .object (row.map fun cell => (cell.1, cell.2.elim .null .string))

/-- A row that its line keeps: its names are distinct, and its texts are joined. -/
structure IsKept (row : Row) : Prop where
  distinct : (row.map (·.1)).Nodup
  names : ∀ cell ∈ row, Json.isJoined cell.1.toList
  values : ∀ cell ∈ row, ∀ text ∈ cell.2, Json.isJoined text.toList

/-- **Every row of texts without lone surrogates is kept**, as long as its names are distinct. -/
theorem isKept_of_isEncodable {row : Row} (distinct : (row.map (·.1)).Nodup)
    (names : ∀ cell ∈ row, Text.isEncodable cell.1)
    (values : ∀ cell ∈ row, ∀ text ∈ cell.2, Text.isEncodable text) : row.IsKept where
  distinct := distinct
  names cell member := Json.isJoined_of_isEncodable (names cell member)
  values cell member text there := Json.isJoined_of_isEncodable (values cell member text there)

/-- The row of an answer names every variable once, as the answer does. -/
theorem distinct_of_ofBindings {links : Bindings} {row : Row} (given : ofBindings links = .ok row)
    (distinct : (links.map (·.1)).Nodup) : (row.map (·.1)).Nodup := by
  have cells := (forall₂_of_mapM given).imp fun _ _ shown => (cell_eq_ok shown).1.symm
  have names : (links.filter (·.1 != "_")).map (·.1) = row.map (·.1) := by
    rwa [← List.forall₂_eq_eq_eq, List.forall₂_map_left_iff, List.forall₂_map_right_iff]
  rw [← names]
  exact distinct.sublist (List.filter_sublist.map _)

theorem everywhere_toJson {p : Json → Bool} {row : Row} (object : p row.toJson) (null : p .null)
    (texts : ∀ cell ∈ row, ∀ s ∈ cell.2, p (.string s)) : row.toJson.everywhere p := by
  refine Json.everywhere_object object ?_
  rw [List.forall_mem_map]
  exact fun cell member => Json.everywhere_elim null (texts cell member)

theorem read_toJson {row : Row} (kept : row.IsKept) (strict : Bool) :
    Json.read strict (row.toJson.text .line) = .ok row.toJson := by
  refine Json.read_textIn Json.Style.separates_line strict ?_ ?_ fun _ => ?_
  · exact everywhere_toJson rfl rfl fun _ _ _ _ => rfl
  · refine everywhere_toJson ?_ rfl fun _ _ _ _ => rfl
    simpa [toJson, Json.hasDistinctKeys, Function.comp_def] using kept.distinct
  · refine everywhere_toJson ?_ rfl kept.values
    simpa [toJson, Json.hasJoinedTexts] using fun name value => kept.names (name, value)

end Row

namespace CommandLine

/-! ## Lines -/

theorem cellJson_eq : cellJson = fun value => value.elim .null .string := by
  funext value
  cases value <;> rfl

/-- The printer writes the value that the row stands for. -/
theorem rowLine_eq (row : Row) : rowLine row = row.toJson.text .line ++ "\n" := by
  rw [rowLine, Row.toJson, cellJson_eq]

/-- The line is in ASCII, without the end of a line, and what it holds is the row. -/
structure IsLineOf (line : String) (row : Row) : Prop where
  visible : ∀ c ∈ line.toList, Json.isVisible c
  reads : row.IsKept → ∀ strict, Json.read strict line = .ok row.toJson

theorem isLineOf_text (row : Row) : IsLineOf (row.toJson.text .line) row where
  visible := by
    have noNumber : row.toJson.everywhere Json.isNoNumber :=
      Row.everywhere_toJson rfl rfl fun _ _ _ _ => rfl
    intro c member
    rw [Json.text, String.toList_ofList] at member
    have shown := Json.areShown_charsAt Json.Style.isVisible_line _ 0 noNumber c member
    simpa [Json.Style.shows, Json.Style.line] using shown
  reads := Row.read_toJson

/-- The text is one line for each row, each ended by a line feed. -/
def AreLinesOf (out : String) (rows : List Row) : Prop :=
  ∃ lines : List String, out = String.join (lines.map (· ++ "\n")) ∧
    List.Forall₂ IsLineOf lines rows

/-- **Rows are printed as one line each.** -/
theorem areLinesOf_rowLines (rows : List Row) : AreLinesOf (rowLines rows) rows := by
  refine ⟨rows.map fun row => row.toJson.text .line, ?_, ?_⟩
  · rw [rowLines, funext rowLine_eq, List.map_map]
    rfl
  · rw [List.forall₂_map_left_iff]
    exact List.forall₂_same.mpr fun row _ => isLineOf_text row

example : rowLine [("X", some "𝄞 \"\n"), ("Y", none)] =
    "\x7b\"X\": \"\\ud834\\udd1e \\\"\\n\", \"Y\": null\x7d\n" := by
  decide

/-! ## Conclusions -/

end CommandLine

namespace EnforcedDependency

/-- The texts that are printed of a dependency. -/
def texts (d : EnforcedDependency) : List String :=
  d.workspace.place :: d.ident.text :: d.kind.field :: d.range.toList

/-- A dependency as a value of JSON, with `null` for a missing range. -/
def toJson (d : EnforcedDependency) : Json :=
  .object [("workspace", .string d.workspace.place), ("dependencyIdent", .string d.ident.text),
    ("dependencyRange", d.range.elim .null .string), ("dependencyType", .string d.kind.field)]

theorem everywhere_toJson {p : Json → Bool} {d : EnforcedDependency} (object : p d.toJson)
    (null : p .null) (texts : ∀ s ∈ d.texts, p (.string s)) : d.toJson.everywhere p := by
  simp only [EnforcedDependency.texts, List.forall_mem_cons, Option.mem_toList] at texts
  obtain ⟨place, ident, kind, range⟩ := texts
  refine Json.everywhere_object object ?_
  simp only [List.forall_mem_cons]
  exact ⟨place, ident, Json.everywhere_elim null range, kind, List.forall_mem_nil _⟩

end EnforcedDependency

namespace EnforcedField

/-- The texts that are printed of a field. -/
def texts (f : EnforcedField) : List String :=
  f.workspace.place :: f.path :: f.value.toList

/-- A field as a value of JSON, with `null` for a missing value. -/
def toJson (f : EnforcedField) : Json :=
  .object [("workspace", .string f.workspace.place), ("fieldPath", .string f.path),
    ("fieldValue", f.value.elim .null .string)]

theorem everywhere_toJson {p : Json → Bool} {f : EnforcedField} (object : p f.toJson)
    (null : p .null) (texts : ∀ s ∈ f.texts, p (.string s)) : f.toJson.everywhere p := by
  simp only [EnforcedField.texts, List.forall_mem_cons, Option.mem_toList] at texts
  obtain ⟨place, path, value⟩ := texts
  refine Json.everywhere_object object ?_
  simp only [List.forall_mem_cons]
  exact ⟨place, path, Json.everywhere_elim null value, List.forall_mem_nil _⟩

end EnforcedField

namespace Conclusions

/-- Conclusions as a value of JSON. -/
def toJson (c : Conclusions) : Json :=
  .object [("enforcedDependencies", .array (c.dependencies.map EnforcedDependency.toJson)),
    ("enforcedFields", .array (c.fields.map EnforcedField.toJson))]

/-- The texts that are printed of conclusions. -/
def texts (c : Conclusions) : List String :=
  c.dependencies.flatMap EnforcedDependency.texts ++ c.fields.flatMap EnforcedField.texts

/-- A condition that objects and arrays meet by their form holds everywhere inside conclusions. -/
theorem everywhere_toJson {p : Json → Bool} {c : Conclusions} (object : p c.toJson) (null : p .null)
    (array : ∀ items, p (.array items)) (dependency : ∀ d : EnforcedDependency, p d.toJson)
    (field : ∀ f : EnforcedField, p f.toJson) (texts : ∀ s ∈ c.texts, p (.string s)) :
    c.toJson.everywhere p := by
  simp only [Conclusions.texts, List.forall_mem_append, List.mem_flatMap, forall_exists_index,
    and_imp] at texts
  refine Json.everywhere_object object ?_
  simp only [List.forall_mem_cons]
  refine ⟨Json.everywhere_array (array _) ?_, Json.everywhere_array (array _) ?_,
    List.forall_mem_nil _⟩
  · rw [List.forall_mem_map]
    exact fun d member => EnforcedDependency.everywhere_toJson (dependency d) null
      fun s => texts.1 s d member
  · rw [List.forall_mem_map]
    exact fun f member => EnforcedField.everywhere_toJson (field f) null
      fun s => texts.2 s f member

/-- **Conclusions are read back from their text**, as long as their texts are joined. -/
theorem read_toJson {c : Conclusions} (joined : ∀ s ∈ c.texts, Json.isJoined s.toList)
    (strict : Bool) : Json.read strict (c.toJson.text .indented) = .ok c.toJson := by
  refine Json.read_textIn Json.Style.separates_indented strict ?_ ?_ fun _ => ?_
  · exact everywhere_toJson rfl rfl (fun _ => rfl) (fun _ => rfl) (fun _ => rfl) fun _ _ => rfl
  · exact everywhere_toJson rfl rfl (fun _ => rfl) (fun _ => rfl) (fun _ => rfl) fun _ _ => rfl
  · refine everywhere_toJson ?_ rfl (fun _ => rfl) (fun _ => ?_) (fun _ => ?_) joined
    · exact Json.hasJoinedTexts_object ["enforcedDependencies", "enforcedFields"] rfl (by decide)
    · exact Json.hasJoinedTexts_object
        ["workspace", "dependencyIdent", "dependencyRange", "dependencyType"] rfl (by decide)
    · exact Json.hasJoinedTexts_object ["workspace", "fieldPath", "fieldValue"] rfl (by decide)

end Conclusions

namespace CommandLine

/-- The text is in ASCII and ended by a line feed, and what it holds is the conclusions. -/
structure IsTextOf (out : String) (c : Conclusions) : Prop where
  visible : ∀ d ∈ out.toList, Json.isVisible d ∨ d = '\n'
  reads : ∃ text, out = text ++ "\n" ∧ ((∀ s ∈ c.texts, Json.isJoined s.toList) →
    ∀ strict, Json.read strict text = .ok c.toJson)

/-- The printer writes the value that the conclusions stand for. -/
theorem conclusionsText_eq (c : Conclusions) :
    conclusionsText c = c.toJson.text .indented ++ "\n" := by
  have dependency : dependencyJson = EnforcedDependency.toJson := by
    funext d
    rw [dependencyJson, EnforcedDependency.toJson, cellJson_eq]
  have field : fieldJson = EnforcedField.toJson := by
    funext f
    rw [fieldJson, EnforcedField.toJson, cellJson_eq]
  rw [conclusionsText, Conclusions.toJson, dependency, field]

/-- **Conclusions are printed as one text.** -/
theorem isTextOf_conclusionsText (c : Conclusions) : IsTextOf (conclusionsText c) c where
  visible := by
    have noNumber : c.toJson.everywhere Json.isNoNumber :=
      Conclusions.everywhere_toJson rfl rfl (fun _ => rfl) (fun _ => rfl) (fun _ => rfl)
        fun _ _ => rfl
    have shown := Json.areShown_charsAt Json.Style.isVisible_indented _ 0 noNumber
    intro d member
    rw [conclusionsText_eq, String.toList_append, List.mem_append, Json.text,
      String.toList_ofList] at member
    rcases member with inside | feed
    · simpa [Json.Style.shows, Json.Style.indented] using shown d inside
    · exact .inr (List.mem_singleton.mp feed)
  reads := ⟨c.toJson.text .indented, conclusionsText_eq c, Conclusions.read_toJson⟩

/-! ## What the output makes of the text -/

/-- **The output leaves a text of visible lines as it is.** -/
theorem output_eq_of_visible {text : String}
    (visible : ∀ c ∈ text.toList, Json.isVisible c ∨ c = '\n') : Terminal.output text = text := by
  have same : ∀ chars : List Char, (∀ c ∈ chars, Json.isVisible c ∨ c = '\n') →
      Text.joinLineEnds chars = chars := by
    intro chars
    induction chars with
    | nil => exact fun _ => rfl
    | cons c chars ih =>
        intro visible
        obtain ⟨first, others⟩ := List.forall_mem_cons.mp visible
        have noReturn : c ≠ '\r' := by
          rintro rfl
          exact absurd first (by decide)
        simp [Text.joinLineEnds, noReturn, ih others]
  rw [Terminal.output, same _ visible, String.ofList_toList]

theorem AreLinesOf.output_eq {out : String} {rows : List Row} (areLines : AreLinesOf out rows) :
    Terminal.output out = out := by
  obtain ⟨lines, rfl, each⟩ := areLines
  have visible : ∀ line ∈ lines, ∀ c ∈ line.toList, Json.isVisible c := by
    induction each with
    | nil => exact nofun
    | cons isLine _ ih => exact List.forall_mem_cons.mpr ⟨isLine.visible, ih⟩
  refine output_eq_of_visible fun c member => ?_
  simp only [String.toList_join, List.mem_flatMap, List.mem_map] at member
  obtain ⟨_, ⟨line, among, rfl⟩, inside⟩ := member
  rw [String.toList_append, List.mem_append] at inside
  exact inside.imp (visible line among c) fun feed => List.mem_singleton.mp feed

theorem IsTextOf.output_eq {out : String} {c : Conclusions} (isText : IsTextOf out c) :
    Terminal.output out = out :=
  output_eq_of_visible isText.visible

end CommandLine

end WorkspacePolicy
