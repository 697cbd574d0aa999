/-
# Proofs.Project.Manifest — which objects are manifests

Reading a manifest looks at one *spot* of the object after the other: its name, and then for each
kind of dependency the field and, entry by entry, the range and the name of the package
(`Manifest.spots`). What is wrong at a spot can be told from this spot alone (`Spot.fault?`), and
reading stops at the first one at which something is wrong.

So an object is a manifest exactly if its name and its dependency fields are as they should be
(`Manifest.IsAccepted`), and then its dependencies are the entries of the fields, in document
order. What else is in the object does not matter (`Manifest.readsManifests`).
-/
import Mathlib.Data.List.Forall2
import WorkspacePolicy.Project.Manifest
import WorkspacePolicy.Proofs.Except

namespace WorkspacePolicy

set_option autoImplicit false

/-- Values that count as no entries at all. -/
inductive Json.IsFalsy : Json → Prop
  | null : IsFalsy .null
  | false : IsFalsy (.bool false)
  | zero : IsFalsy (.number (.int 0))
  | zeroDouble (negative : Bool) : IsFalsy (.number (.float (.zero negative)))
  | emptyText : IsFalsy (.string "")
  | emptyArray : IsFalsy (.array [])
  | emptyObject : IsFalsy (.object [])

theorem Binary64.isZero_iff {x : Binary64} : x.isZero ↔ ∃ negative, x = .zero negative := by
  cases x with
  | nan => exact iff_of_false Bool.false_ne_true nofun
  | signed sign rank =>
      have zero_eq : ∀ negative, zero negative = .signed negative ⟨0, Nat.zero_lt_succ _⟩ := by
        intro negative
        rw [zero, ofRank]
        congr 2
      simp only [zero_eq, signed.injEq, exists_eq_left', Fin.ext_iff, isZero, beq_iff_eq]

theorem Json.isEmpty_iff {v : Json} : v.isEmpty ↔ v.IsFalsy := by
  constructor
  · intro empty
    cases v with
    | null => exact .null
    | bool value =>
        obtain rfl : value = Bool.false := by simpa [isEmpty] using empty
        exact .false
    | number value =>
        cases value with
        | int i =>
            obtain rfl : i = 0 := by simpa [isEmpty, Number.isZero] using empty
            exact .zero
        | float x =>
            obtain ⟨negative, rfl⟩ := Binary64.isZero_iff.mp empty
            exact .zeroDouble negative
    | string text =>
        obtain rfl : text = "" := by simpa [isEmpty] using empty
        exact .emptyText
    | array items =>
        obtain rfl : items = [] := by simpa [isEmpty] using empty
        exact .emptyArray
    | object members =>
        obtain rfl : members = [] := by simpa [isEmpty] using empty
        exact .emptyObject
  · rintro (_ | _ | _ | negative | _ | _ | _)
    case zeroDouble => exact Binary64.isZero_iff.mpr ⟨negative, rfl⟩
    all_goals rfl

namespace Manifest

/-! ## Spots -/

/-- What is looked at in one step. -/
inductive Spot where
  /-- The name of the manifest, if it has one. -/
  | name (value : Option Json)
  /-- A dependency field that is there. -/
  | field (kind : DependencyType) (value : Json)
  /-- The range of an entry. -/
  | range (kind : DependencyType) (entry : String) (value : Json)
  /-- The name of an entry. -/
  | ident (entry : String)

/-- What is wrong at a spot. -/
def Spot.fault? : Spot → Option Fault
  | .name (some (.string text)) | .ident text =>
    if (Ident.parse? text).isSome then none else some (.invalidIdent text)
  | .name _ => none
  | .field kind value =>
    match value with
    | .object _ => none
    | value => if value.isEmpty then none else some (.notAnObject kind)
  | .range kind entry value =>
    match value with
    | .null | .string _ => none
    | _ => some (.invalidRange entry kind)

/-- The entries of a dependency field. -/
def entriesOf (fields : List (String × Json)) (kind : DependencyType) : List (String × Json) :=
  match Entries.find? kind.field fields with
  | some (.object entries) => entries
  | _ => []

/-- The spots of an entry: the range is looked at before the name. -/
def entrySpots (kind : DependencyType) (e : String × Json) : List Spot :=
  [.range kind e.1 e.2, .ident e.1]

/-- The spots of a dependency field. -/
def kindSpots (fields : List (String × Json)) (kind : DependencyType) : List Spot :=
  (Entries.find? kind.field fields).toList.map (.field kind) ++
    (entriesOf fields kind).flatMap (entrySpots kind)

/-- All spots, in the order in which they are looked at. -/
def spots (fields : List (String × Json)) : List Spot :=
  .name (Entries.find? "name" fields) :: DependencyType.all.flatMap (kindSpots fields)

/-- What is wrong at the first spot at which something is wrong. -/
def firstFault? (listed : List Spot) : Option Fault := listed.findSome? Spot.fault?

theorem failure?_readIdent (text : String) :
    failure? (readIdent text) = (Spot.ident text).fault? := by
  rw [readIdent, Spot.fault?]
  cases Ident.parse? text <;> rfl

theorem failure?_readName (fields : List (String × Json)) :
    failure? (readName fields) = (Spot.name (Entries.find? "name" fields)).fault? := by
  unfold readName
  split
  · next text found =>
      rw [found, failure?_map, failure?_readIdent]
      rfl
  · next other =>
      rw [Spot.fault?]
      · rfl
      · exact other

theorem firstFault?_append (listed more : List Spot) :
    firstFault? (listed ++ more) = (firstFault? listed).or (firstFault? more) :=
  List.findSome?_append

theorem firstFault?_cons (s : Spot) (listed : List Spot) :
    firstFault? (s :: listed) = s.fault?.or (firstFault? listed) := by
  rw [firstFault?, List.findSome?_cons]
  cases s.fault? <;> rfl

theorem failure?_readEntries (kind : DependencyType) (entries : List (String × Json)) :
    failure? (readEntries kind entries) = firstFault? (entries.flatMap (entrySpots kind)) := by
  induction entries with
  | nil => rfl
  | cons e rest ih =>
      obtain ⟨entry, range⟩ := e
      -- Once the range is read, the name and then the other entries decide.
      have named : ∀ range : Option String, failure? (do
          let ident ← readIdent entry
          let others ← readEntries kind rest
          return (⟨ident, range⟩ :: others : List Dependency)) =
            firstFault? (.ident entry :: rest.flatMap (entrySpots kind)) := by
        intro range
        rw [firstFault?_cons, ← failure?_readIdent, ← ih]
        refine failure?_bind fun ident _ => ?_
        exact (failure?_bind fun others _ => show _ = none from rfl).trans Option.or_none
      rw [List.flatMap_cons, entrySpots, List.cons_append, List.cons_append, List.nil_append]
      cases range with
      | null => exact named none
      | string text => exact named (some text)
      | bool | number | array | object => rfl

theorem failure?_readKind (fields : List (String × Json)) (kind : DependencyType) :
    failure? (readKind fields kind) = firstFault? (kindSpots fields kind) := by
  unfold readKind kindSpots entriesOf
  cases found : Entries.find? kind.field fields with
  | none => rfl
  | some value =>
      simp only [Option.toList_some, List.map_cons, List.map_nil, List.cons_append,
        List.nil_append, firstFault?_cons]
      cases value with
      | object entries =>
          rw [← failure?_readEntries]
          split
          · next empty =>
              obtain rfl : entries = [] := by simpa [Json.isEmpty] using empty
              rfl
          · rfl
      | null | bool | number | string | array => simp only [Spot.fault?]; split <;> rfl

/-- Reading fails as the first spot at which something is wrong. -/
theorem failure?_ofFields (fields : List (String × Json)) :
    failure? (ofFields fields) = firstFault? (spots fields) := by
  have all : spots fields = .name (Entries.find? "name" fields) ::
      (kindSpots fields .regular ++ (kindSpots fields .development ++ kindSpots fields .peer)) := by
    simp [spots, DependencyType.all]
  rw [all, firstFault?_cons, firstFault?_append, firstFault?_append, ← failure?_readName,
    ← failure?_readKind, ← failure?_readKind, ← failure?_readKind]
  refine failure?_bind fun name _ => ?_
  refine failure?_bind fun regular _ => failure?_bind fun development _ => ?_
  exact (failure?_bind fun peer _ => show _ = none from rfl).trans Option.or_none

/-! ## Accepted objects -/

/-- A dependency field as it should be: it counts as no entries, or its entries are names of
packages with a text or `null` for each. -/
def IsDependencyField (value : Json) : Prop :=
  value.IsFalsy ∨ ∃ entries, value = .object entries ∧ ∀ e ∈ entries,
    (Ident.parse? e.1).isSome ∧ (e.2 = .null ∨ ∃ range, e.2 = .string range)

/-- An object that is a manifest. -/
structure IsAccepted (fields : List (String × Json)) : Prop where
  /-- A name that is a text is the name of a package. -/
  name : ∀ text, Entries.find? "name" fields = some (.string text) → (Ident.parse? text).isSome
  /-- Each dependency field that is there is as it should be. -/
  kinds : ∀ (kind : DependencyType) (value : Json), Entries.find? kind.field fields = some value →
    IsDependencyField value

theorem mem_all (kind : DependencyType) : kind ∈ DependencyType.all := by
  cases kind <;> decide

theorem fault?_ident_eq_none_iff (text : String) :
    (Spot.ident text).fault? = none ↔ (Ident.parse? text).isSome := by
  cases read : Ident.parse? text <;> simp [Spot.fault?, read]

theorem fault?_name_eq_none_iff (value : Option Json) : (Spot.name value).fault? = none ↔
    ∀ text, value = some (.string text) → (Ident.parse? text).isSome := by
  match value with
  | some (.string text) =>
      constructor
      · rintro faultless _ ⟨⟩
        exact (fault?_ident_eq_none_iff text).mp faultless
      · intro named
        exact (fault?_ident_eq_none_iff text).mpr (named text rfl)
  | none | some .null | some (.bool _) | some (.number _) | some (.array _) | some (.object _) =>
      exact iff_of_true rfl nofun

theorem fault?_range_eq_none_iff (kind : DependencyType) (entry : String) (value : Json) :
    (Spot.range kind entry value).fault? = none ↔
      value = .null ∨ ∃ range, value = .string range := by
  cases value <;> simp [Spot.fault?]

/-- Nothing is wrong with an entry if its name and its range are as they should be. -/
theorem entrySpots_faultless_iff (kind : DependencyType) (e : String × Json) :
    (∀ s ∈ entrySpots kind e, s.fault? = none) ↔
      (Ident.parse? e.1).isSome ∧ (e.2 = .null ∨ ∃ range, e.2 = .string range) := by
  rw [entrySpots, List.forall_mem_cons, List.forall_mem_singleton, fault?_range_eq_none_iff,
    fault?_ident_eq_none_iff, and_comm]

/-- Nothing is wrong at the spots of a field exactly if it is as it should be. -/
theorem kindSpots_faultless_iff (fields : List (String × Json)) (kind : DependencyType) :
    (∀ s ∈ kindSpots fields kind, s.fault? = none) ↔
      ∀ value, Entries.find? kind.field fields = some value → IsDependencyField value := by
  unfold kindSpots entriesOf
  cases found : Entries.find? kind.field fields with
  | none => exact iff_of_true nofun nofun
  | some value =>
      simp only [Option.toList_some, List.map_cons, List.map_nil, List.cons_append,
        List.nil_append, List.forall_mem_cons, Option.some.injEq, forall_eq']
      cases value with
      | object entries =>
          have entriesFaultless : (∀ s ∈ entries.flatMap (entrySpots kind), s.fault? = none) ↔
              ∀ e ∈ entries,
                (Ident.parse? e.1).isSome ∧ (e.2 = .null ∨ ∃ range, e.2 = .string range) := by
            rw [List.forall_mem_flatMap]
            simp only [entrySpots_faultless_iff]
          rw [entriesFaultless]
          constructor
          · rintro ⟨-, each⟩
            exact .inr ⟨entries, rfl, each⟩
          · rintro (falsy | ⟨_, same, each⟩)
            · cases falsy
              exact ⟨rfl, List.forall_mem_nil _⟩
            · cases same
              exact ⟨rfl, each⟩
      | null | bool | number | string | array =>
          simp [IsDependencyField, ← Json.isEmpty_iff, Spot.fault?]

theorem isAccepted_iff (fields : List (String × Json)) :
    (∃ manifest, ofFields fields = .ok manifest) ↔ IsAccepted fields := by
  rw [← failure?_eq_none_iff, failure?_ofFields, firstFault?, List.findSome?_eq_none_iff, spots,
    List.forall_mem_cons, fault?_name_eq_none_iff, List.forall_mem_flatMap]
  simp only [kindSpots_faultless_iff]
  constructor
  · rintro ⟨name, kinds⟩
    exact ⟨name, fun kind => kinds kind (mem_all kind)⟩
  · rintro ⟨name, kinds⟩
    exact ⟨name, fun kind _ => kinds kind⟩

/-! ## What is read -/

/-- The dependency that an entry of a dependency field stands for. -/
structure IsEntry (e : String × Json) (d : Dependency) : Prop where
  ident : Ident.parse? e.1 = some d.ident
  range : e.2 = d.range.elim .null .string

theorem parse?_of_readIdent {text : String} {ident : Ident} (read : readIdent text = .ok ident) :
    Ident.parse? text = some ident := by
  unfold readIdent at read
  split at read
  · cases read
    assumption
  · cases read

/-- Every entry makes one dependency, in document order. -/
theorem entries_of_readEntries {kind : DependencyType} : ∀ {entries : List (String × Json)}
    {found : List Dependency}, readEntries kind entries = .ok found →
      List.Forall₂ IsEntry entries found
  | [], found, read => by
      cases read
      exact .nil
  | (entry, value) :: rest, found, read => by
      have withRange : ∀ range : Option String, value = range.elim .null .string → (do
          let ident ← readIdent entry
          let others ← readEntries kind rest
          return ⟨ident, range⟩ :: others) = Except.ok found →
            List.Forall₂ IsEntry ((entry, value) :: rest) found := by
        intro range isRange read
        obtain ⟨ident, identRead, read⟩ := of_bind_eq_ok read
        obtain ⟨others, othersRead, read⟩ := of_bind_eq_ok read
        cases read
        exact .cons ⟨parse?_of_readIdent identRead, isRange⟩ (entries_of_readEntries othersRead)
      cases value with
      | null => exact withRange none rfl read
      | string text => exact withRange (some text) rfl read
      | bool | number | array | object => cases read

theorem entries_of_readKind {fields : List (String × Json)} {kind : DependencyType}
    {found : List Dependency} (read : readKind fields kind = .ok found) :
    List.Forall₂ IsEntry (entriesOf fields kind) found := by
  unfold readKind at read
  unfold entriesOf
  cases there : Entries.find? kind.field fields with
  | none =>
      rw [there] at read
      cases read
      exact .nil
  | some value =>
      rw [there] at read
      by_cases empty : value.isEmpty
      · simp only [empty, if_true] at read
        cases read
        cases Json.isEmpty_iff.mp empty <;> exact .nil
      · simp only [empty] at read
        cases value with
        | object entries => exact entries_of_readEntries read
        | null | bool | number | string | array => cases read

theorem entries_of_ofFields {fields : List (String × Json)} {manifest : Manifest}
    (made : ofFields fields = .ok manifest) (kind : DependencyType) :
    List.Forall₂ IsEntry (entriesOf fields kind) (manifest.dependencies kind) := by
  obtain ⟨name, -, made⟩ := of_bind_eq_ok made
  obtain ⟨regular, regularRead, made⟩ := of_bind_eq_ok made
  obtain ⟨development, developmentRead, made⟩ := of_bind_eq_ok made
  obtain ⟨peer, peerRead, made⟩ := of_bind_eq_ok made
  cases made
  cases kind with
  | regular => exact entries_of_readKind regularRead
  | development => exact entries_of_readKind developmentRead
  | peer => exact entries_of_readKind peerRead

/-- The keys that reading looks at. -/
def readKeys : List String := "name" :: "version" :: DependencyType.all.map DependencyType.field

/-- Objects that agree in the keys that are looked at differ in what was read from them alone. -/
theorem ofFields_of_agree {fields others : List (String × Json)}
    (agree : ∀ key ∈ readKeys, Entries.find? key others = Entries.find? key fields) :
    ofFields others = (ofFields fields).map fun m => { m with fields := others } := by
  have name : readName others = readName fields := by
    rw [readName, agree "name" (by decide), ← readName]
  have version : readVersion others = readVersion fields := by
    rw [readVersion, agree "version" (by decide), ← readVersion]
  have kinds : ∀ kind, readKind others kind = readKind fields kind := by
    intro kind
    rw [readKind, agree kind.field (by cases kind <;> decide), ← readKind]
  unfold ofFields
  rw [name, version, kinds, kinds, kinds]
  rcases readName fields with _ | _
  · rfl
  rcases readKind fields .regular with _ | _
  · rfl
  rcases readKind fields .development with _ | _
  · rfl
  rcases readKind fields .peer with _ | _ <;> rfl

/-- The object is kept with what was read from it. -/
theorem fields_of_ofFields {fields : List (String × Json)} {manifest : Manifest}
    (made : ofFields fields = .ok manifest) : manifest.fields = fields := by
  have again := @ofFields_of_agree fields fields fun _ _ => rfl
  rw [made] at again
  exact congrArg Manifest.fields (Except.ok.inj again)

/-- How an object is read as a manifest. -/
structure IsReadExactly (fields : List (String × Json)) : Prop where
  /-- The object is a manifest exactly if its name and its dependency fields are. -/
  accepted : (∃ manifest, ofFields fields = .ok manifest) ↔ IsAccepted fields
  /-- There is one dependency for each entry, in document order. -/
  dependencies : ∀ manifest, ofFields fields = .ok manifest → ∀ kind,
    List.Forall₂ IsEntry (entriesOf fields kind) (manifest.dependencies kind)
  /-- Everything else in the object is kept with the manifest and does not matter otherwise. -/
  unrelated : ∀ others, (∀ key ∈ readKeys, Entries.find? key others = Entries.find? key fields) →
    ofFields others = (ofFields fields).map fun m => { m with fields := others }
  /-- The fault is that of the first spot at which something is wrong. -/
  refused : ∀ fault, ofFields fields = .error fault ↔ ∃ before spot after,
    spots fields = before ++ spot :: after ∧ spot.fault? = some fault ∧
      ∀ s ∈ before, s.fault? = none

/-- **An object is read as a manifest exactly if it is one, and otherwise its first fault is
reported.** -/
theorem isReadExactly (fields : List (String × Json)) : IsReadExactly fields where
  accepted := isAccepted_iff fields
  dependencies _ made := entries_of_ofFields made
  unrelated _ agree := ofFields_of_agree agree
  refused fault := by
    rw [← failure?_eq_some_iff, failure?_ofFields, firstFault?, List.findSome?_eq_some_iff]

/-- The range of an entry is looked at before its name. -/
example : ofFields [("devDependencies", .object [("no name", .bool true)]),
    ("dependencies", .number (.int 0))] =
      .error (.invalidRange "no name" .development) := by
  rfl

end Manifest

end WorkspacePolicy
