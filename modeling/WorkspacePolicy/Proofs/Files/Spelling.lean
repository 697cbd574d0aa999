/-
# Proofs.Files.Spelling — the normal form of a path

A text spells a place in many ways: with empty parts and `.`, and with names that `..` takes back.
Each simplification of a spelling drops one part that stays where it is, or a name together with
the `..` right after it, or a `..` at the top of the file system (`Path.Shortens`). A spelling is
in normal form once only names are left.

Resolving a text gives the normal form of what it spells from a base, and there is no other
(`isNormalForm_iff`): whatever is simplified first, the place is the same. The invariant of a
simplification is the place that the parts lead to from the top (`foldl_step_of_shortens`).
-/
import Mathlib.Logic.Relation
import WorkspacePolicy.Proofs.Files.Place

namespace WorkspacePolicy.Path

set_option autoImplicit false

/-- One simplification of the parts of a spelling from the top of the file system. -/
inductive Shortens : List String → List String → Prop where
  /-- An empty part and `.` stay where they are. -/
  | stay (before after : List String) {part : String} (stays : part = "" ∨ part = ".") :
      Shortens (before ++ part :: after) (before ++ after)
  /-- `..` takes the name before it back. -/
  | back (before after : List String) {name : String} (down : LeadsDown name) :
      Shortens (before ++ name :: ".." :: after) (before ++ after)
  /-- Nothing is above the top. -/
  | top (after : List String) : Shortens (".." :: after) after

/-- The parts that a text spells from a base: a text that begins at the top leaves the base out. -/
def spelled (base : Path) (text : String) : List String :=
  if isAbsoluteText text then parts text else base ++ parts text

/-- The place is the normal form of what a text spells from a base. -/
structure IsNormalForm (base : Path) (text : String) (place : Path) : Prop where
  reached : Relation.ReflTransGen Shortens (spelled base text) place
  names : ∀ n ∈ place, LeadsDown n

variable {place : Path}

theorem step_of_stays {part : String} (stays : part = "" ∨ part = ".") :
    step place part = place := by
  rw [step, if_pos stays]

theorem step_up (place : Path) : step place ".." = place.dropLast := by
  simp [step]

/-- A simplification does not change where the parts lead. -/
theorem foldl_step_of_shortens {longer shorter : List String} (shortens : Shortens longer shorter) :
    longer.foldl step [] = shorter.foldl step [] := by
  cases shortens with
  | stay before after stays =>
      rw [List.foldl_append, List.foldl_append, List.foldl_cons, step_of_stays stays]
  | back before after down =>
      rw [List.foldl_append, List.foldl_append, List.foldl_cons, List.foldl_cons,
        step_of_leadsDown down, step_up, List.dropLast_concat]
  | top after => rw [List.foldl_cons, step_up, List.dropLast_nil]

theorem foldl_step_of_simplified {longer shorter : List String}
    (simplified : Relation.ReflTransGen Shortens longer shorter) :
    longer.foldl step [] = shorter.foldl step [] := by
  induction simplified with
  | refl => rfl
  | tail _ shortens ih => rw [ih, foldl_step_of_shortens shortens]

/-- Parts can be simplified to the place that they lead to, and only names are left there. The
induction is on the parts, from any place that names lead to. -/
theorem shortens_foldl_step {parts : List String} (down : ∀ n ∈ place, LeadsDown n) :
    Relation.ReflTransGen Shortens (place ++ parts) (parts.foldl step place) ∧
      ∀ n ∈ parts.foldl step place, LeadsDown n := by
  induction parts generalizing place with
  | nil =>
      rw [List.append_nil]
      exact ⟨.refl, down⟩
  | cons part rest ih =>
      rw [List.foldl_cons]
      by_cases stays : part = "" ∨ part = "."
      · rw [step_of_stays stays]
        obtain ⟨reached, names⟩ := ih down
        exact ⟨.head (.stay place rest stays) reached, names⟩
      by_cases up : part = ".."
      · subst up
        rw [step_up]
        rcases List.eq_nil_or_concat place with rfl | ⟨above, name, rfl⟩
        · obtain ⟨reached, names⟩ := ih down
          exact ⟨.head (.top rest) reached, names⟩
        · rw [List.concat_eq_append] at down ⊢
          obtain ⟨here, last⟩ := List.forall_mem_append.mp down
          obtain ⟨reached, names⟩ := ih here
          rw [List.dropLast_concat, List.append_assoc]
          exact ⟨.head (.back above rest (last name List.mem_cons_self)) reached, names⟩
      · have leadsDown : LeadsDown part := ⟨fun h => stays (.inl h), fun h => stays (.inr h), up⟩
        have below : ∀ n ∈ place ++ [part], LeadsDown n :=
          List.forall_mem_append.mpr ⟨down, List.forall_mem_singleton.mpr leadsDown⟩
        obtain ⟨reached, names⟩ := ih below
        rw [step_of_leadsDown leadsDown]
        rw [List.append_assoc, List.singleton_append] at reached
        exact ⟨reached, names⟩

theorem foldl_step_spelled {base : Path} (down : ∀ n ∈ base, LeadsDown n) (text : String) :
    (spelled base text).foldl step [] = resolve base text := by
  unfold spelled resolve
  split
  · rfl
  · rw [List.foldl_append, foldl_step_of_leadsDown down, List.nil_append]

/-- **A text resolves to its normal form, and to nothing else.** -/
theorem isNormalForm_iff {base : Path} (down : ∀ n ∈ base, LeadsDown n) {text : String} :
    IsNormalForm base text place ↔ resolve base text = place := by
  rw [← foldl_step_spelled down]
  constructor
  · rintro ⟨reached, names⟩
    rw [foldl_step_of_simplified reached, foldl_step_of_leadsDown names, List.nil_append]
  · rintro rfl
    have none : ∀ n ∈ ([] : Path), LeadsDown n := nofun
    exact ⟨(shortens_foldl_step none).1, (shortens_foldl_step none).2⟩

theorem existsUnique_isNormalForm {base : Path} (down : ∀ n ∈ base, LeadsDown n) (text : String) :
    ∃ place, IsNormalForm base text place ∧ ∀ other, IsNormalForm base text other → other = place :=
  ⟨resolve base text, (isNormalForm_iff down).mpr rfl,
    fun _ normal => ((isNormalForm_iff down).mp normal).symm⟩

/-! ## The names of a normal form -/

/-- The names of a text that leads down are names that a file may have. -/
theorem isProper_of_mem_parts {text part : String} (taken : isName text)
    (member : part ∈ parts text) (down : LeadsDown part) : isProper part := by
  obtain ⟨piece, cut, rfl⟩ := List.mem_map.mp member
  obtain ⟨noSlash, inside⟩ := Text.mem_pieces piece cut
  obtain ⟨nonempty, noDot, noUp⟩ := down
  rw [isProper_iff, String.toList_ofList, isName_iff, String.toList_ofList]
  exact ⟨nonempty, noDot, noUp, noSlash,
    fun c inPiece => (isName_iff text).mp taken c (inside c inPiece)⟩

theorem mem_of_mem_foldl_step {parts : List String} : ∀ {place : Path},
    ∀ n ∈ parts.foldl step place, n ∈ place ∨ n ∈ parts := by
  induction parts with
  | nil => exact fun n member => .inl member
  | cons part rest ih =>
      intro place n member
      rcases ih n member with inPlace | later
      · unfold step at inPlace
        split at inPlace
        · exact .inl inPlace
        · split at inPlace
          · exact .inl (List.dropLast_subset place inPlace)
          · rcases List.mem_append.mp inPlace with above | here
            · exact .inl above
            · exact .inr (List.mem_singleton.mp here ▸ List.mem_cons_self)
      · exact .inr (List.mem_cons_of_mem part later)

/-- What a text resolves to has names that a file may have, if the base has and the file system can
take the text. -/
theorem isProper_of_mem_resolve {base : Path} {text : String} (proper : ∀ n ∈ base, isProper n)
    (taken : isName text) : ∀ n ∈ resolve base text, isProper n := by
  have down : ∀ n ∈ base, LeadsDown n := fun n member => leadsDown_of_isProper (proper n member)
  intro n member
  have leadsDown : LeadsDown n := ((isNormalForm_iff down).mpr rfl).names n member
  rcases mem_of_mem_foldl_step n member with inBase | inText
  · split at inBase
    · exact absurd inBase List.not_mem_nil
    · exact proper n inBase
  · exact isProper_of_mem_parts taken inText leadsDown

/-! ## Components -/

/-- The parts of a text that are neither empty nor `.`. -/
def components (text : String) : List String :=
  (parts text).filter fun part => part != "" && part != "."

theorem components_relativeText {names : List String} (proper : ∀ n ∈ names, isProper n) :
    components (relativeText names) = names := by
  cases names with
  | nil => decide
  | cons name rest =>
      rw [components, parts_relativeText (List.cons_ne_nil name rest) proper, List.filter_eq_self]
      intro n member
      obtain ⟨nonempty, noDot, -⟩ := leadsDown_of_isProper (proper n member)
      simp [nonempty, noDot]

end WorkspacePolicy.Path
