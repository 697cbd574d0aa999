/-
# Proofs.Files.TooLong — where a path pattern cannot be looked up

A plain name of a pattern is looked up in every directory to which the segments before it lead.
This fails where the name is too long, or the path that it ends is (`IsTooLong`), and for no other
reason: `Glob.select` fails exactly if the pattern leads to such a place (`select_eq_error_iff`),
whatever else it matches.
-/
import WorkspacePolicy.Proofs.Files.Match

namespace WorkspacePolicy.Glob

set_option autoImplicit false

variable {tree : FileTree} {base place : Path} {endsInSlash : Bool} {led : List String}
  {rest : List Segment}

/-! ## Names that are too long -/

/-- The name may be that of a file, but it is too long to be looked up where the names `led` lead
from `base`. -/
structure IsTooLong (base : Path) (led : List String) (name : String) : Prop where
  isName : Path.isName name
  tooLong : FileTree.pathLimit < Path.textByteSize (base ++ led ++ [name]) ∨
    FileTree.nameLimit < Path.byteSize name

theorem checkLength_of_isTooLong {name : String} (long : IsTooLong base led name) :
    checkLength base led name = .error .unreadable := by
  obtain ⟨isName, long⟩ := long
  unfold checkLength
  rw [isName]
  by_cases longPath : FileTree.pathLimit < Path.textByteSize (base ++ led ++ [name])
  · rw [if_pos longPath]
    rfl
  · rw [if_neg longPath, if_pos (long.resolve_left longPath)]
    rfl

theorem checkLength_of_not_isTooLong {name : String} (short : ¬ IsTooLong base led name) :
    checkLength base led name = .ok () := by
  unfold checkLength
  by_cases isName : Path.isName name
  · have fits := not_or.mp fun long => short ⟨isName, long⟩
    rw [isName, if_neg fits.1, if_neg fits.2]
    rfl
  · rw [if_pos (by simp [isName])]

/-! ## Patterns that lead too far -/

/-- The segments lead from a place to a directory in which the next of them is too long. -/
def LeadsTooFar (tree : FileTree) (base : Path) (segments : List Segment) (led : List String)
    (place : Path) : Prop :=
  ∃ before name after more, segments = before ++ .name name :: after ∧
    Leads tree true before place more ∧ IsTooLong base (led ++ more) name

theorem not_leadsTooFar_nil : ¬ LeadsTooFar tree base [] led place := by
  rintro ⟨before, name, after, more, parts, -, -⟩
  exact absurd parts (by simp)

theorem leadsTooFar_name {name : String} :
    LeadsTooFar tree base (.name name :: rest) led place ↔
      IsTooLong base led name ∨ tree.isDirectoryAt (Path.step place name) ∧
        LeadsTooFar tree base rest (led ++ [name]) (Path.step place name) := by
  constructor
  · rintro ⟨before, other, after, more, parts, leads, long⟩
    cases leads with
    | done =>
        obtain ⟨⟨⟩, rfl⟩ := List.cons.inj parts
        exact .inl (by simpa using long)
    | name there isOpen further =>
        obtain ⟨⟨⟩, rfl⟩ := List.cons.inj parts
        refine .inr ⟨isOpen.resolve_right (by simp), _, other, after, _, rfl, further, ?_⟩
        simpa using long
    | pattern => cases parts
    | descend => cases parts
  · rintro (long | ⟨there, before, other, after, more, rfl, leads, long⟩)
    · exact ⟨[], name, rest, [], rfl, .done place, by simpa using long⟩
    · refine ⟨.name name :: before, other, after, name :: more, rfl, ?_, by simpa using long⟩
      exact .name (exists_of_isDirectoryAt there) (.inl there) leads

theorem leadsTooFar_pattern {pattern : String} :
    LeadsTooFar tree base (.pattern pattern :: rest) led place ↔
      ∃ directory name subtree, tree.find? place = some directory ∧
        (name, subtree) ∈ directory.entries ∧ NamePattern.matches pattern name ∧
        subtree.isDirectory ∧ LeadsTooFar tree base rest (led ++ [name]) (place ++ [name]) := by
  constructor
  · rintro ⟨before, other, after, more, parts, leads, long⟩
    cases leads with
    | done => cases parts
    | name => cases parts
    | pattern found member fits isOpen further =>
        obtain ⟨⟨⟩, rfl⟩ := List.cons.inj parts
        refine ⟨_, _, _, found, member, fits, isOpen.resolve_right (by simp), ?_⟩
        exact ⟨_, other, after, _, rfl, further, by simpa using long⟩
    | descend => cases parts
  · rintro ⟨directory, name, subtree, found, member, fits, isOpen, before, other, after, more, rfl,
      leads, long⟩
    refine ⟨.pattern pattern :: before, other, after, name :: more, rfl, ?_, by simpa using long⟩
    exact .pattern found member fits (.inl isOpen) leads

theorem leadsTooFar_descend : LeadsTooFar tree base (.descend :: rest) led place ↔
    ∃ directory names, tree.find? place = some directory ∧ directory.HasDirectory names ∧
      LeadsTooFar tree base rest (led ++ names) (place ++ names) := by
  constructor
  · rintro ⟨before, other, after, more, parts, leads, long⟩
    cases leads with
    | done => cases parts
    | name => cases parts
    | pattern => cases parts
    | descend found inside further =>
        obtain ⟨⟨⟩, rfl⟩ := List.cons.inj parts
        exact ⟨_, _, found, inside, _, other, after, _, rfl, further, by simpa using long⟩
  · rintro ⟨directory, names, found, inside, before, other, after, more, rfl, leads, long⟩
    refine ⟨.descend :: before, other, after, names ++ more, rfl, ?_, by simpa using long⟩
    exact .descend found inside leads

/-! ## Looking a pattern up -/

/-- Looking the segments up fails exactly where they lead too far. -/
def FailsTooFar (tree : FileTree) (base : Path) (endsInSlash : Bool) (segments : List Segment) :
    Prop :=
  ∀ led place,
    (LeadsTooFar tree base segments led place →
      selectFrom tree base endsInSlash segments led place = .error .unreadable) ∧
    (¬ LeadsTooFar tree base segments led place →
      ∃ found, selectFrom tree base endsInSlash segments led place = .ok found)

theorem failsTooFar_nil : FailsTooFar tree base endsInSlash [] :=
  fun led _ => ⟨fun tooFar => absurd tooFar not_leadsTooFar_nil, fun _ => ⟨[led], rfl⟩⟩

/-- Looking up in several places fails where it fails in one of them. -/
theorem mapM_flatten_decided {α β : Type} {items : List α}
    {judge : α → Except FileTree.Fault (List β)} {bad : α → Prop} {tooFar : Prop}
    (each : ∀ a ∈ items, (bad a → judge a = .error .unreadable) ∧ (¬ bad a → Passes judge a))
    (one : (∃ a ∈ items, bad a) ↔ tooFar) :
    (tooFar → (items.mapM judge >>= fun found => pure found.flatten) = .error .unreadable) ∧
      (¬ tooFar → ∃ found, (items.mapM judge >>= fun found => pure found.flatten) = .ok found) := by
  rw [← one]
  constructor
  · rintro ⟨a, member, isBad⟩
    have alike : ∀ b ∈ items, Passes judge b ∨ judge b = .error .unreadable := by
      intro b listed
      by_cases isBad : bad b
      · exact .inr ((each b listed).1 isBad)
      · exact .inl ((each b listed).2 isBad)
    rw [mapM_of_some_bad alike ⟨a, member, (each a member).1 isBad⟩]
    rfl
  · intro noneBad
    obtain ⟨values, given⟩ := exists_mapM_of_passes fun a member =>
      (each a member).2 fun isBad => noneBad ⟨a, member, isBad⟩
    rw [given]
    exact ⟨values.flatten, rfl⟩

theorem FailsTooFar.name (later : FailsTooFar tree base endsInSlash rest) (name : String) :
    FailsTooFar tree base endsInSlash (.name name :: rest) := by
  intro led place
  rw [leadsTooFar_name]
  unfold selectFrom
  by_cases long : IsTooLong base led name
  · rw [checkLength_of_isTooLong long]
    exact ⟨fun _ => rfl, fun short => absurd (.inl long) short⟩
  rw [checkLength_of_not_isTooLong long, or_iff_right long]
  obtain ⟨fails, passes⟩ := later (led ++ [name]) (Path.step place name)
  by_cases there : (if rest.isEmpty && !endsInSlash then tree.exists (place.step name)
    else tree.isDirectoryAt (place.step name)) = true
  · simp only [ok_bind, there, if_true]
    constructor
    · exact fun tooFar => fails tooFar.2
    · intro short
      -- A step that may be taken leads to a directory unless it is the last one.
      rcases ((mayStep_iff rest).mp there).2 with isOpen | ⟨rfl, -⟩
      · exact passes fun tooFar => short ⟨isOpen, tooFar⟩
      · exact passes not_leadsTooFar_nil
  · simp only [ok_bind, there]
    refine ⟨fun tooFar => absurd ((mayStep_iff rest).mpr ?_) there, fun _ => ⟨[], rfl⟩⟩
    exact ⟨exists_of_isDirectoryAt tooFar.1, .inl tooFar.1⟩

theorem FailsTooFar.pattern (later : FailsTooFar tree base endsInSlash rest) (pattern : String) :
    FailsTooFar tree base endsInSlash (.pattern pattern :: rest) := by
  intro led place
  unfold selectFrom
  refine mapM_flatten_decided (fun entry _ => later (led ++ [entry.1]) (place ++ [entry.1])) ?_
  rw [leadsTooFar_pattern]
  constructor
  · rintro ⟨⟨name, subtree⟩, member, tooFar⟩
    obtain ⟨directory, found, inside, isOpen, fits⟩ := fitting_iff.mp member
    rcases isOpen with isOpen | ⟨rfl, -⟩
    · exact ⟨directory, name, subtree, found, inside, fits, isOpen, tooFar⟩
    · exact absurd tooFar not_leadsTooFar_nil
  · rintro ⟨directory, name, subtree, found, inside, fits, isOpen, tooFar⟩
    exact ⟨(name, subtree), fitting_iff.mpr ⟨directory, found, inside, .inl isOpen, fits⟩, tooFar⟩

theorem FailsTooFar.descend (later : FailsTooFar tree base endsInSlash rest) :
    FailsTooFar tree base endsInSlash (.descend :: rest) := by
  intro led place
  unfold selectFrom
  refine mapM_flatten_decided (fun names _ => later (led ++ names) (place ++ names)) ?_
  rw [leadsTooFar_descend]
  constructor
  · rintro ⟨names, member, tooFar⟩
    obtain ⟨directory, found, inside⟩ := mem_starts.mp member
    exact ⟨directory, names, found, inside, tooFar⟩
  · rintro ⟨directory, names, found, inside, tooFar⟩
    exact ⟨names, mem_starts.mpr ⟨directory, found, inside⟩, tooFar⟩

theorem failsTooFar (segments : List Segment) : FailsTooFar tree base endsInSlash segments := by
  induction segments with
  | nil => exact failsTooFar_nil
  | cons segment rest ih =>
      cases segment with
      | name name => exact ih.name name
      | pattern pattern => exact ih.pattern pattern
      | descend => exact ih.descend

/-- **A pattern cannot be looked up exactly where it leads too far.** -/
theorem select_eq_error_iff {glob : Glob} {fault : FileTree.Fault} :
    glob.select tree base = .error fault ↔
      fault = .unreadable ∧ LeadsTooFar tree base glob.segments [] base := by
  obtain ⟨fails, passes⟩ := @failsTooFar tree base glob.endsInSlash glob.segments [] base
  unfold select
  by_cases tooFar : LeadsTooFar tree base glob.segments [] base
  · rw [fails tooFar, and_iff_left tooFar]
    exact ⟨fun same => (Except.error.inj same).symm, fun same => same ▸ rfl⟩
  · obtain ⟨found, given⟩ := passes tooFar
    rw [given]
    exact ⟨nofun, fun both => absurd both.2 tooFar⟩

end WorkspacePolicy.Glob
