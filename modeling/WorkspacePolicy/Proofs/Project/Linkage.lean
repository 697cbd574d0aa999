/-
# Proofs.Project.Linkage — every manifest field under the path of its keys

A *field* of an object is one of its members, or a field of an object that is the value of a
member; arrays are not entered (`Json.Holds`). Its address tells the number of the member at every
step on the way to it. The linkage has one fact for each field of a manifest, in the order of the
addresses, so that an object comes before its own fields (`Json.Lists`).

The path of a field is meant to be its keys with periods between them. It is, but empty keys at
the front leave no period behind: the path of the object around is empty then, as it is at the top.
So every field of a project stands under the path of its keys exactly if no manifest has members
inside an empty key at its top (`linksByKeyPath_iff`).
-/
import Mathlib.Algebra.Order.BigOperators.Group.List
import Mathlib.Algebra.Order.Group.Nat
import Mathlib.Data.List.Basic
import WorkspacePolicy.Proofs.Term.Decodable
import WorkspacePolicy.Project.Database

namespace WorkspacePolicy

set_option autoImplicit false

/-! ## The fields of an object -/

namespace Json

/-- A field of an object, at any depth. -/
structure Field where
  /-- The number of the member at each step from the top. -/
  address : List Nat
  /-- The key at each step. -/
  keys : List String
  value : Json

/-- The field, seen from the object around: it is inside member `i`, under the key. -/
def Field.below (i : Nat) (key : String) (f : Field) : Field :=
  ⟨i :: f.address, key :: f.keys, f.value⟩

/-- The members of an object hold a field. -/
inductive Holds : List (String × Json) → Field → Prop
  | member {members : List (String × Json)} {i : Nat} {key : String} {value : Json}
      (here : members[i]? = some (key, value)) : Holds members ⟨[i], [key], value⟩
  | inside {members inner : List (String × Json)} {i : Nat} {key : String} {f : Field}
      (here : members[i]? = some (key, .object inner)) (deeper : Holds inner f) :
      Holds members (f.below i key)

/-- The address of the first field is before that of the second one, as in a dictionary: an
object is before its own fields. -/
def Field.Precedes (f g : Field) : Prop := List.Lex (· < ·) f.address g.address

/-- These are the fields that the members of an object hold, each once and in document order. -/
structure Lists (members : List (String × Json)) (fields : List Field) : Prop where
  complete : ∀ f, f ∈ fields ↔ Holds members f
  ordered : fields.Pairwise Field.Precedes

theorem Field.not_precedes_self (f : Field) : ¬ f.Precedes f :=
  List.lex_irrefl Nat.lt_irrefl f.address

theorem Field.Precedes.asymm {f g : Field} (before : f.Precedes g) : ¬ g.Precedes f :=
  List.lex_asymm (fun less => Nat.lt_asymm less) before

/-- An object has one list of fields. -/
theorem Lists.unique {members : List (String × Json)} {fields others : List Field}
    (lists : Lists members fields) (lists' : Lists members others) : fields = others := by
  have distinct : ∀ {listed : List Field}, listed.Pairwise Field.Precedes → listed.Nodup := by
    intro listed ordered
    refine ordered.imp fun {f g} before => ?_
    rintro rfl
    exact f.not_precedes_self before
  have perm : fields.Perm others := by
    rw [List.perm_ext_iff_of_nodup (distinct lists.ordered) (distinct lists'.ordered)]
    intro f
    rw [lists.complete, lists'.complete]
  refine perm.eq_of_pairwise (fun f g _ _ before after => ?_) lists.ordered lists'.ordered
  exact absurd after before.asymm

mutual

/-- The fields inside a value. -/
def listingIn : Json → List Field
  | .object members => listingFrom 0 members
  | _ => []
termination_by structural value => value

/-- The fields of members of which the first has the number `i`. -/
def listingFrom (i : Nat) : List (String × Json) → List Field
  | [] => []
  | (key, value) :: members =>
    ⟨[i], [key], value⟩ :: (listingIn value).map (Field.below i key) ++ listingFrom (i + 1) members
termination_by structural members => members

end

theorem mem_listingFrom {i : Nat} {members : List (String × Json)} {f : Field} :
    f ∈ listingFrom i members ↔ ∃ j key value, members[j]? = some (key, value) ∧
      (f = ⟨[i + j], [key], value⟩ ∨ ∃ g ∈ listingIn value, f = g.below (i + j) key) := by
  induction members generalizing i with
  | nil => simp [listingFrom]
  | cons m members ih =>
      obtain ⟨key, value⟩ := m
      rw [listingFrom, List.cons_append, List.mem_cons, List.mem_append, List.mem_map, ih]
      constructor
      · rintro (rfl | ⟨g, member, rfl⟩ | ⟨j, k, v, here, found⟩)
        · exact ⟨0, key, value, rfl, .inl rfl⟩
        · exact ⟨0, key, value, rfl, .inr ⟨g, member, rfl⟩⟩
        · refine ⟨j + 1, k, v, here, ?_⟩
          rwa [← Nat.add_assoc, Nat.add_right_comm]
      · rintro ⟨j, k, v, here, found⟩
        cases j with
        | zero =>
            cases here
            rcases found with rfl | ⟨g, member, rfl⟩
            · exact .inl rfl
            · exact .inr (.inl ⟨g, member, rfl⟩)
        | succ j =>
            refine .inr (.inr ⟨j, k, v, here, ?_⟩)
            rwa [Nat.add_right_comm, Nat.add_assoc]

theorem mem_listing_of_holds {members : List (String × Json)} {f : Field}
    (holds : Holds members f) : f ∈ listingFrom 0 members := by
  induction holds with
  | @member _ i key value here =>
      exact mem_listingFrom.mpr ⟨i, key, value, here, .inl (by rw [Nat.zero_add])⟩
  | @inside _ inner i key f here _ ih =>
      exact mem_listingFrom.mpr ⟨i, key, _, here, .inr ⟨f, ih, by rw [Nat.zero_add]⟩⟩

/-- By induction on the address, which is one step shorter inside a member. -/
theorem holds_of_mem_listing : ∀ {address : List Nat} {keys : List String} {value : Json}
    {members : List (String × Json)}, ⟨address, keys, value⟩ ∈ listingFrom 0 members →
      Holds members ⟨address, keys, value⟩
  | address, _, _, _, member => by
      obtain ⟨i, key, outer, here, same | ⟨g, inside, same⟩⟩ := mem_listingFrom.mp member
      · rw [same, Nat.zero_add]
        exact .member here
      · rw [Nat.zero_add] at same
        cases outer with
        | object inner =>
            obtain ⟨rfl, rfl, rfl⟩ := Field.mk.inj same
            exact .inside here (holds_of_mem_listing inside)
        | _ => exact absurd inside List.not_mem_nil

mutual

theorem pairwise_listingIn : ∀ value : Json, (listingIn value).Pairwise Field.Precedes
  | .object members => pairwise_listingFrom 0 members
  | .null | .bool _ | .number _ | .string _ | .array _ => .nil
termination_by structural value => value

theorem pairwise_listingFrom (i : Nat) :
    ∀ members : List (String × Json), (listingFrom i members).Pairwise Field.Precedes
  | [] => .nil
  | (key, value) :: members => by
      -- The member and what is inside it have addresses that begin with `i`.
      have block : (⟨[i], [key], value⟩ :: (listingIn value).map (Field.below i key)).Pairwise
          Field.Precedes := by
        rw [List.pairwise_cons, List.pairwise_map]
        constructor
        · intro f member
          obtain ⟨g, inside, rfl⟩ := List.mem_map.mp member
          cases value with
          | object inner =>
              obtain ⟨_, _, _, _, rfl | ⟨_, _, rfl⟩⟩ := mem_listingFrom.mp inside <;>
                exact .cons .nil
          | _ => exact absurd inside List.not_mem_nil
        · exact (pairwise_listingIn value).imp .cons
      rw [listingFrom, List.pairwise_append]
      refine ⟨block, pairwise_listingFrom (i + 1) members, ?_⟩
      intro f inBlock g later
      have begins : ∃ rest, f.address = i :: rest := by
        rcases List.mem_cons.mp inBlock with rfl | inside
        · exact ⟨[], rfl⟩
        · obtain ⟨g, -, rfl⟩ := List.mem_map.mp inside
          exact ⟨g.address, rfl⟩
      obtain ⟨rest, begins⟩ := begins
      obtain ⟨j, _, _, _, rfl | ⟨_, _, rfl⟩⟩ := mem_listingFrom.mp later <;>
        · rw [Field.Precedes, begins]
          exact .rel (by omega)
termination_by structural members => members

end

theorem lists_listing (members : List (String × Json)) : Lists members (listingFrom 0 members) where
  complete _ := ⟨holds_of_mem_listing, mem_listing_of_holds⟩
  ordered := pairwise_listingFrom 0 members

end Json

namespace Project

open Json

/-! ## Paths -/

/-- The path of the field that is reached by some keys from the path above. -/
def pathFrom (above : String) (keys : List String) : String := keys.foldl fieldPath above

/-- The keys with periods between them. -/
def keyPath (keys : List String) : String := ".".intercalate keys

mutual

theorem fieldsIn_eq (above : String) : ∀ value : Json, fieldsIn above value =
    (listingIn value).map fun f => (pathFrom above f.keys, f.value)
  | .object members => memberFields_eq above 0 members
  | .null | .bool _ | .number _ | .string _ | .array _ => rfl
termination_by structural value => value

/-- The linkage goes through the fields in the order of their listing. -/
theorem memberFields_eq (above : String) (i : Nat) : ∀ members : List (String × Json),
    memberFields above members =
      (listingFrom i members).map fun f => (pathFrom above f.keys, f.value)
  | [] => rfl
  | (key, value) :: members => by
      rw [memberFields, listingFrom, List.cons_append, List.cons_append, List.map_cons,
        List.map_append, List.map_map, fieldsIn_eq, memberFields_eq above (i + 1) members]
      rfl
termination_by structural members => members

end

/-- Below a path that is not empty, every key adds a period and itself. -/
theorem pathFrom_of_nonempty {above : String} (nonempty : above ≠ "") (keys : List String) :
    pathFrom above keys = keyPath (above :: keys) := by
  induction keys generalizing above with
  | nil => simp [pathFrom, keyPath]
  | cons key keys ih =>
      have joined : fieldPath above key = above ++ "." ++ key := by
        simp [fieldPath, nonempty, toString]
      have stillNonempty : above ++ "." ++ key ≠ "" := by simp
      rw [pathFrom, List.foldl_cons, joined, ← pathFrom, ih stillNonempty]
      cases keys <;> simp [keyPath, String.append_assoc]

/-- The path that the linkage gives to a field: empty keys at the front leave no period. -/
def linkPath (keys : List String) : String := keyPath (keys.dropWhile (· == ""))

theorem linkPath_cons_empty (keys : List String) : linkPath ("" :: keys) = linkPath keys := rfl

theorem linkPath_cons_of_nonempty {key : String} (nonempty : key ≠ "") (keys : List String) :
    linkPath (key :: keys) = keyPath (key :: keys) := by
  rw [linkPath, List.dropWhile_cons_of_neg (by simpa using nonempty)]

theorem pathFrom_empty (keys : List String) : pathFrom "" keys = linkPath keys := by
  induction keys with
  | nil => rfl
  | cons key keys ih =>
      by_cases empty : key = ""
      · subst empty
        exact ih
      · rw [linkPath_cons_of_nonempty empty]
        exact pathFrom_of_nonempty empty keys

theorem keyPath_cons_empty (key : String) (keys : List String) :
    keyPath ("" :: key :: keys) = "." ++ keyPath (key :: keys) := by
  simp [keyPath]

/-! ## The text of the linkage -/

/-- The fact about a field that stands under a path. -/
def fieldTerm (place path : String) (value : Json) : Term :=
  .compound "workspace_field" [.atom place, .atom path, .ofField value]

/-- The fields of all workspaces, each with the place of its workspace. -/
def placed (project : Project) (fields : Workspace → List Field) : List (String × Field) :=
  project.workspaces.flatMap fun w => (fields w).map fun f => (w.place, f)

/-- The fact about a placed field, under the path that its keys have. -/
def placedTerm (path : List String → String) (p : String × Field) : Term :=
  fieldTerm p.1 (path p.2.keys) p.2.value

/-- The linkage has one fact for each field of a manifest, in document order and under the keys
that lead to the field, with periods between them. -/
def LinksByKeyPath (project : Project) : Prop :=
  ∃ fields : Workspace → List Field,
    (∀ w ∈ project.workspaces, Lists w.manifest.fields (fields w)) ∧
      project.linkage =
        String.join (((project.placed fields).map (placedTerm keyPath)).map Clause.text) ++
          Clause.never "workspace_field" 3

theorem fieldTerms_eq {w : Workspace} {fields : List Field}
    (lists : Lists w.manifest.fields fields) :
    fieldTerms w = (fields.map fun f => (w.place, f)).map (placedTerm linkPath) := by
  rw [lists.unique (lists_listing _), fieldTerms, memberFields_eq "" 0, List.map_map, List.map_map]
  simp only [pathFrom_empty]
  rfl

/-- What the linkage is, for every project. -/
theorem linkage_eq {project : Project} {fields : Workspace → List Field}
    (lists : ∀ w ∈ project.workspaces, Lists w.manifest.fields (fields w)) :
    project.linkage =
      String.join (((project.placed fields).map (placedTerm linkPath)).map Clause.text) ++
        Clause.never "workspace_field" 3 := by
  have facts : project.workspaces.flatMap fieldTerms =
      (project.placed fields).map (placedTerm linkPath) := by
    rw [placed, List.map_flatMap]
    exact List.flatMap_congr fun w member => fieldTerms_eq (lists w member)
  rw [linkage, facts]

/-! ## Where the paths differ -/

/-- A period before a name makes its text longer, also before the name that needs no quotes. -/
theorem length_chars_atom_lt (name : String) :
    (Term.atom name).chars.length < (Term.atom ("." ++ name)).chars.length := by
  have quoted : (Term.atom ("." ++ name)).chars = Term.quoteChars ('.' :: name.toList) := by
    have other : "." ++ name ≠ Term.nilName := by
      rw [ne_eq, ← String.toList_inj]
      simp [Term.nilName]
    simp [Term.atom, Term.chars, other]
  have period : Term.quoteChar '.' = ['.'] := by decide
  rw [quoted, Term.atom, Term.chars]
  split <;> simp [Term.quoteChars, period]

theorem length_chars_linkPath_le : ∀ keys : List String,
    (Term.atom (linkPath keys)).chars.length ≤ (Term.atom (keyPath keys)).chars.length
  | [] => Nat.le_refl _
  | key :: keys => by
      by_cases empty : key = ""
      · subst empty
        cases keys with
        | nil => exact Nat.le_refl _
        | cons next keys =>
            rw [linkPath_cons_empty, keyPath_cons_empty]
            have shorter := length_chars_atom_lt (keyPath (next :: keys))
            have rest := length_chars_linkPath_le (next :: keys)
            omega
      · exact Nat.le_of_eq (by rw [linkPath_cons_of_nonempty empty])

theorem length_chars_linkPath_lt (key : String) (keys : List String) :
    (Term.atom (linkPath ("" :: key :: keys))).chars.length <
      (Term.atom (keyPath ("" :: key :: keys))).chars.length := by
  rw [linkPath_cons_empty, keyPath_cons_empty]
  exact Nat.lt_of_le_of_lt (length_chars_linkPath_le (key :: keys)) (length_chars_atom_lt _)

/-- The path of a field stands by itself in the text of its fact. -/
theorem exists_frame (place : String) (value : Json) : ∃ front back, ∀ path,
    Clause.chars (fieldTerm place path value) = front ++ (Term.atom path).chars ++ back := by
  refine ⟨Term.functorChars "workspace_field" ++ '(' :: (Term.atom place).chars ++ [',', ' '],
    Term.argChars [.ofField value] ++ [')'] ++ ['.', '\n'], fun path => ?_⟩
  simp [Clause.chars, fieldTerm, Term.chars, Term.argChars]

theorem length_clause_le_iff {place path path' : String} {value : Json} :
    (Clause.chars (fieldTerm place path value)).length ≤
        (Clause.chars (fieldTerm place path' value)).length ↔
      (Term.atom path).chars.length ≤ (Term.atom path').chars.length := by
  obtain ⟨front, back, text⟩ := exists_frame place value
  rw [text, text]
  simp only [List.length_append]
  omega

/-- A field whose path lacks a period makes the text of the facts shorter than it should be. -/
theorem flatMap_chars_ne {fields : List (String × Field)} {p : String × Field} (member : p ∈ fields)
    {key : String} {keys : List String} (begins : p.2.keys = "" :: key :: keys) :
    fields.flatMap (fun p => Clause.chars (placedTerm linkPath p)) ≠
      fields.flatMap fun p => Clause.chars (placedTerm keyPath p) := by
  intro same
  have lengths := congrArg List.length same
  rw [List.length_flatMap, List.length_flatMap] at lengths
  refine absurd lengths (Nat.ne_of_lt (List.sum_lt_sum _ _ (fun q _ => ?_) ⟨p, member, ?_⟩))
  · exact length_clause_le_iff.mpr (length_chars_linkPath_le q.2.keys)
  · refine Nat.not_le.mp fun longer => ?_
    have path := length_chars_linkPath_lt key keys
    rw [← begins] at path
    exact absurd (length_clause_le_iff.mp longer) (Nat.not_le_of_lt path)

/-- The value of an empty key is an object that is not empty. -/
def NestsUnderEmptyKey (members : List (String × Json)) : Prop :=
  ∃ inner, ("", .object inner) ∈ members ∧ inner ≠ []

theorem linkPath_eq_of_holds {members : List (String × Json)} {f : Field} (holds : Holds members f)
    (regular : ¬ NestsUnderEmptyKey members) : linkPath f.keys = keyPath f.keys := by
  cases holds with
  | member here =>
      rename_i i key value
      by_cases empty : key = ""
      · rw [empty]
        rfl
      · exact linkPath_cons_of_nonempty empty []
  | inside here deeper =>
      rename_i inner i key g
      refine linkPath_cons_of_nonempty ?_ g.keys
      rintro rfl
      refine regular ⟨inner, List.mem_of_getElem? here, ?_⟩
      rintro rfl
      cases deeper with
      | member here | inside here => cases here

/-- Then there is a field whose path begins with a period that is left out. -/
theorem exists_holds_of_nests {members : List (String × Json)}
    (nests : NestsUnderEmptyKey members) :
    ∃ f, Holds members f ∧ ∃ key keys, f.keys = "" :: key :: keys := by
  obtain ⟨inner, member, nonempty⟩ := nests
  obtain ⟨i, here⟩ := List.getElem?_of_mem member
  obtain ⟨⟨key, value⟩, rest, rfl⟩ := List.exists_cons_of_ne_nil nonempty
  exact ⟨_, .inside here (@Holds.member _ 0 key value rfl), key, [], rfl⟩

/-- **Every field is linked under the path of its keys, exactly if no manifest has fields inside
an empty key at its top.** -/
theorem linksByKeyPath_iff (project : Project) : project.LinksByKeyPath ↔
    ∀ w ∈ project.workspaces, ¬ NestsUnderEmptyKey w.manifest.fields := by
  constructor
  · rintro ⟨fields, lists, text⟩ w member nests
    rw [linkage_eq lists] at text
    obtain ⟨f, holds, key, keys, begins⟩ := exists_holds_of_nests nests
    have isPlaced : (w.place, f) ∈ project.placed fields :=
      List.mem_flatMap.mpr ⟨w, member, List.mem_map.mpr ⟨f, ((lists w member).complete f).mpr holds,
        rfl⟩⟩
    have facts := congrArg String.toList ((String.append_left_inj _).mp text)
    rw [Clause.toList_join_text, Clause.toList_join_text, List.flatMap_map, List.flatMap_map]
      at facts
    exact flatMap_chars_ne isPlaced begins facts
  · intro regular
    refine ⟨fun w => listingFrom 0 w.manifest.fields, fun w _ => lists_listing _, ?_⟩
    have paths : ∀ p ∈ project.placed fun w => listingFrom 0 w.manifest.fields,
        placedTerm linkPath p = placedTerm keyPath p := by
      intro p member
      obtain ⟨w, listed, member⟩ := List.mem_flatMap.mp member
      obtain ⟨f, inListing, rfl⟩ := List.mem_map.mp member
      have same := linkPath_eq_of_holds (holds_of_mem_listing inListing) (regular w listed)
      rw [placedTerm, placedTerm, same]
    rw [linkage_eq fun w _ => lists_listing w.manifest.fields, List.map_congr_left paths]

/-- A field inside an empty key has the path of a field at the top. -/
example : memberFields "" [("", .object [("b", .null)]), ("b", .bool true)] =
    [("", .object [("b", .null)]), ("b", .null), ("b", .bool true)] := by
  rfl

end Project

end WorkspacePolicy
