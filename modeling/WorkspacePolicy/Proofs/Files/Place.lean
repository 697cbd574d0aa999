/-
# Proofs.Files.Place — texts for places lead back to them

A file system has only *proper* names: names that are not empty, are neither `.` nor `..` and
hold no slash and nothing that the file system cannot take (`Path.isProper`,
`FileTree.hasProperNames`). Whatever is there was reached through such names
(`isProper_of_find?`).

The relative text of proper names leads to the place that they name, from any base
(`resolve_relativeText`), so that different names have different texts
(`relativeText_injective`).
-/
import WorkspacePolicy.Files.Tree

namespace WorkspacePolicy

set_option autoImplicit false

/-! ## Pieces of a text -/

namespace Text

theorem pieces_of_not_mem {c : Char} {piece : List Char} (absent : c ∉ piece) :
    pieces c piece = [piece] := by
  induction piece with
  | nil => rfl
  | cons d rest ih =>
      have other : d ≠ c := fun same => absent (by simp [same])
      rw [pieces, if_neg other, ih fun member => absent (List.mem_cons_of_mem d member)]

theorem pieces_append_cons {c : Char} {piece : List Char} (absent : c ∉ piece) (rest : List Char) :
    pieces c (piece ++ c :: rest) = piece :: pieces c rest := by
  induction piece with
  | nil => rw [List.nil_append, pieces, if_pos rfl]
  | cons d more ih =>
      have other : d ≠ c := fun same => absent (by simp [same])
      rw [List.cons_append, pieces, if_neg other,
        ih fun member => absent (List.mem_cons_of_mem d member)]

/-- Cutting undoes putting together with the same character in between. -/
theorem pieces_intercalate {c : Char} : ∀ {listed : List (List Char)}, listed ≠ [] →
    (∀ piece ∈ listed, c ∉ piece) → pieces c ([c].intercalate listed) = listed
  | [piece], _, absent => by
      rw [List.intercalate_singleton]
      exact pieces_of_not_mem (absent piece List.mem_cons_self)
  | first :: second :: rest, _, absent => by
      rw [List.intercalate_cons_cons, List.append_assoc, List.singleton_append,
        pieces_append_cons (absent first List.mem_cons_self),
        pieces_intercalate (List.cons_ne_nil second rest)
          fun piece member => absent piece (List.mem_cons_of_mem first member)]

theorem mem_intercalate {c d : Char} : ∀ {listed : List (List Char)},
    d ∈ [c].intercalate listed → d = c ∨ ∃ piece ∈ listed, d ∈ piece
  | [], member => absurd member (by simp)
  | [piece], member => by
      rw [List.intercalate_singleton] at member
      exact .inr ⟨piece, List.mem_cons_self, member⟩
  | first :: second :: rest, member => by
      rw [List.intercalate_cons_cons, List.append_assoc, List.singleton_append] at member
      rcases List.mem_append.mp member with inFirst | member
      · exact .inr ⟨first, List.mem_cons_self, inFirst⟩
      · rcases List.mem_cons.mp member with same | later
        · exact .inl same
        · rcases mem_intercalate later with same | ⟨piece, listed, inPiece⟩
          · exact .inl same
          · exact .inr ⟨piece, List.mem_cons_of_mem first listed, inPiece⟩

/-- The pieces hold characters of the text, and not the one that it was cut at. -/
theorem mem_pieces {c : Char} {text : List Char} : ∀ piece ∈ pieces c text,
    c ∉ piece ∧ ∀ d ∈ piece, d ∈ text := by
  induction text with
  | nil => simp [pieces]
  | cons d rest ih =>
      have later : ∀ piece ∈ pieces c rest, c ∉ piece ∧ ∀ e ∈ piece, e ∈ d :: rest := by
        intro piece member
        obtain ⟨absent, inside⟩ := ih piece member
        exact ⟨absent, fun e inPiece => List.mem_cons_of_mem d (inside e inPiece)⟩
      rw [pieces]
      split
      · exact List.forall_mem_cons.mpr ⟨by simp, later⟩
      · next other =>
          split
          · next nothing => simp [Ne.symm other]
          · next first others cut =>
              rw [cut] at later
              obtain ⟨⟨absent, inside⟩, there⟩ := List.forall_mem_cons.mp later
              refine List.forall_mem_cons.mpr ⟨⟨?_, ?_⟩, there⟩
              · simp [Ne.symm other, absent]
              · exact List.forall_mem_cons.mpr ⟨List.mem_cons_self, inside⟩

end Text

/-! ## Proper names -/

namespace Path

/-- A name that a file system may give to a file. -/
def isProper (name : String) : Bool :=
  name != "" && name != "." && name != ".." && !name.toList.contains '/' && isName name

theorem isProper_iff (name : String) : isProper name ↔
    name ≠ "" ∧ name ≠ "." ∧ name ≠ ".." ∧ '/' ∉ name.toList ∧ isName name := by
  simp [isProper, and_assoc]

/-- A part of a text that leads down to a place of that name. -/
def LeadsDown (part : String) : Prop := part ≠ "" ∧ part ≠ "." ∧ part ≠ ".."

theorem leadsDown_of_isProper {name : String} (proper : isProper name) : LeadsDown name := by
  obtain ⟨nonempty, noDot, noUp, -⟩ := (isProper_iff name).mp proper
  exact ⟨nonempty, noDot, noUp⟩

theorem step_of_leadsDown {place : Path} {name : String} (down : LeadsDown name) :
    step place name = place ++ [name] := by
  obtain ⟨nonempty, noDot, noUp⟩ := down
  simp [step, nonempty, noDot, noUp]

theorem foldl_step_of_leadsDown {place : Path} {names : List String}
    (down : ∀ n ∈ names, LeadsDown n) : names.foldl step place = place ++ names := by
  induction names generalizing place with
  | nil => simp
  | cons name rest ih =>
      obtain ⟨first, others⟩ := List.forall_mem_cons.mp down
      rw [List.foldl_cons, step_of_leadsDown first, ih others, List.append_assoc,
        List.singleton_append]

theorem foldl_step_proper {place : Path} {names : List String} (proper : ∀ n ∈ names, isProper n) :
    names.foldl step place = place ++ names :=
  foldl_step_of_leadsDown fun n member => leadsDown_of_isProper (proper n member)

theorem toList_relativeText {names : List String} (nonempty : names ≠ []) :
    (relativeText names).toList = ['/'].intercalate (names.map String.toList) := by
  have noEmpty : names.isEmpty = false := by simpa using nonempty
  simp [relativeText, noEmpty, String.toList_intercalate]

theorem parts_relativeText {names : List String} (nonempty : names ≠ [])
    (proper : ∀ n ∈ names, isProper n) : parts (relativeText names) = names := by
  have noSlash : ∀ piece ∈ names.map String.toList, '/' ∉ piece := by
    intro piece member
    obtain ⟨name, listed, rfl⟩ := List.mem_map.mp member
    exact ((isProper_iff name).mp (proper name listed)).2.2.2.1
  have somePiece : names.map String.toList ≠ [] := by simpa using nonempty
  rw [parts, toList_relativeText nonempty, Text.pieces_intercalate somePiece noSlash]
  simp

theorem isAbsoluteText_relativeText {names : List String} (proper : ∀ n ∈ names, isProper n) :
    isAbsoluteText (relativeText names) = false := by
  cases names with
  | nil => decide
  | cons name rest =>
      obtain ⟨nonempty, -, -, noSlash, -⟩ := (isProper_iff name).mp (proper name List.mem_cons_self)
      unfold isAbsoluteText
      rw [toList_relativeText (List.cons_ne_nil name rest)]
      cases chars : name.toList with
      | nil => exact absurd (String.toList_inj.mp chars) nonempty
      | cons c more =>
          have other : c ≠ '/' := fun same => noSlash (by simp [chars, same])
          cases rest <;> simp [chars, List.intercalate_cons_cons, other]

/-- **The text of a place below a base leads there.** -/
theorem resolve_relativeText (base : Path) {names : List String}
    (proper : ∀ n ∈ names, isProper n) : resolve base (relativeText names) = base ++ names := by
  rw [resolve, isAbsoluteText_relativeText proper]
  cases names with
  -- The base itself has the text `.`, which is no proper name.
  | nil => simp [relativeText, parts, Text.pieces, step]
  | cons name rest =>
      rw [parts_relativeText (List.cons_ne_nil name rest) proper]
      exact foldl_step_proper proper

theorem relativeText_injective {names others : List String} (proper : ∀ n ∈ names, isProper n)
    (proper' : ∀ n ∈ others, isProper n) (same : relativeText names = relativeText others) :
    names = others := by
  have led := resolve_relativeText [] proper
  rw [same, resolve_relativeText [] proper'] at led
  simpa using led.symm

/-- The file system can take a character in the text of a path. -/
def isNameChar (c : Char) : Bool :=
  (!Text.isLoneSurrogate c || Text.isByteSurrogate c) && c != '\x00'

theorem isName_iff (name : String) : isName name ↔ ∀ c ∈ name.toList, isNameChar c := by
  have parts : isName name ↔ (∀ c ∈ name.toList,
      (!Text.isLoneSurrogate c || Text.isByteSurrogate c) = true) ∧ '\x00' ∉ name.toList := by
    simp [isName, isEncodable]
  rw [parts]
  constructor
  · rintro ⟨encodable, noNull⟩ c member
    have notNull : c ≠ '\x00' := by
      rintro rfl
      exact noNull member
    rw [isNameChar, encodable c member]
    simp [notNull]
  · intro taken
    refine ⟨fun c member => ?_, fun member => ?_⟩
    · exact (Bool.and_eq_true_iff.mp (taken c member)).1
    · exact absurd (taken '\x00' member) (by decide)

theorem isName_relativeText {names : List String} (proper : ∀ n ∈ names, isProper n) :
    isName (relativeText names) := by
  cases names with
  | nil => decide
  | cons name rest =>
      rw [isName_iff, toList_relativeText (List.cons_ne_nil name rest)]
      intro c member
      rcases Text.mem_intercalate member with rfl | ⟨piece, listed, inPiece⟩
      · decide
      · obtain ⟨n, given, rfl⟩ := List.mem_map.mp listed
        have taken := ((isProper_iff n).mp (proper n given)).2.2.2.2
        exact (isName_iff n).mp taken c inPiece

theorem below?_append (base names : Path) : below? base (base ++ names) = some names := by
  induction base with
  | nil => rfl
  | cons name base ih => simp [below?, ih]

theorem eq_append_of_below? : ∀ {base place : Path} {names : List String},
    below? base place = some names → place = base ++ names
  | [], place, names, below => by
      rw [below?, Option.some.injEq] at below
      exact below
  | name :: base, [], names, below => by simp [below?] at below
  | name :: base, first :: place, names, below => by
      simp only [below?, Option.ite_none_right_eq_some] at below
      obtain ⟨rfl, below⟩ := below
      rw [eq_append_of_below? below, List.cons_append]

end Path

namespace FileTree

mutual

/-- All names in the tree are proper. -/
def hasProperNames : FileTree → Bool
  | .file _ => true
  | .directory entries => haveProperNames entries
termination_by structural tree => tree

/-- All names of the entries and in them are proper. -/
def haveProperNames : List (String × FileTree) → Bool
  | [] => true
  | (name, tree) :: entries =>
    Path.isProper name && hasProperNames tree && haveProperNames entries
termination_by structural entries => entries

end

theorem haveProperNames_iff (entries : List (String × FileTree)) : haveProperNames entries ↔
    ∀ entry ∈ entries, Path.isProper entry.1 ∧ entry.2.hasProperNames := by
  induction entries with
  | nil => simp [haveProperNames]
  | cons entry entries ih => simp [haveProperNames, ih]

theorem isProper_of_child? {tree subtree : FileTree} {name : String}
    (proper : tree.hasProperNames) (child : tree.child? name = some subtree) :
    Path.isProper name ∧ subtree.hasProperNames := by
  unfold child? at child
  cases found : tree.entries.find? fun entry => entry.1 == name with
  | none => simp [found] at child
  | some entry =>
      rw [found] at child
      obtain rfl := Option.some.inj child
      have called : entry.1 = name := by simpa using List.find?_some found
      have member := List.mem_of_find?_eq_some found
      cases tree with
      | file content => simp [entries] at member
      | directory entries =>
          rw [hasProperNames] at proper
          exact called ▸ (haveProperNames_iff entries).mp proper entry member

/-- What is there is in directories that are there. -/
theorem exists_of_append {tree : FileTree} {place more : Path}
    (there : tree.exists (place ++ more)) : tree.exists place := by
  induction place generalizing tree with
  | nil => rfl
  | cons name rest ih =>
      unfold «exists» at there ⊢
      rw [List.cons_append, find?] at there
      rw [find?]
      cases child : tree.child? name with
      | none => simp [child] at there
      | some next =>
          simp only [child] at there
          exact ih there

/-- Only proper names lead to something. -/
theorem isProper_of_find? {tree subtree : FileTree} {place : Path} (proper : tree.hasProperNames)
    (found : tree.find? place = some subtree) : ∀ n ∈ place, Path.isProper n := by
  induction place generalizing tree with
  | nil => exact fun n member => absurd member List.not_mem_nil
  | cons name rest ih =>
      unfold find? at found
      cases child : tree.child? name with
      | none => simp [child] at found
      | some next =>
          simp only [child] at found
          obtain ⟨nameProper, nextProper⟩ := isProper_of_child? proper child
          intro n member
          rcases List.mem_cons.mp member with rfl | member
          · exact nameProper
          · exact ih nextProper found n member

end FileTree

end WorkspacePolicy
