/-
# Proofs.Project.Database — what the database tells about a project

The text of the database determines its facts, and the facts determine the workspaces one by one:
a workspace begins at its `workspace` fact, and the facts about its dependencies stand in one run
for each kind. So two projects have the same database exactly if their workspaces agree, pair by
pair, in everything that a fact holds (`database_eq_iff`).

A fact does not hold everything. A version or a range is written as an atom, and a missing one as
the empty list, which is the atom `[]`. So the text `[]` and a missing text are written alike
(`ofText?_eq_iff`), and a database does not tell them apart.
-/
import Mathlib.Data.List.Forall2
import WorkspacePolicy.Project.Database
import WorkspacePolicy.Proofs.Term.Decodable

namespace WorkspacePolicy

set_option autoImplicit false

theorem map_eq_map_iff_forall₂ {α β γ : Type} {f : α → γ} {g : β → γ} {as : List α} {bs : List β} :
    as.map f = bs.map g ↔ List.Forall₂ (fun a b => f a = g b) as bs := by
  rw [← List.forall₂_eq_eq_eq, List.forall₂_map_left_iff, List.forall₂_map_right_iff]

/-! ## Texts that may be missing -/

namespace Term

theorem ofText?_eq_atom (text : Option String) : ofText? text = atom (text.getD "[]") := by
  cases text <;> rfl

theorem atom_inj {name other : String} : atom name = atom other ↔ name = other := by
  simp [atom]

/-- A missing text is written like the text `[]`, and otherwise different texts are written
differently. -/
theorem ofText?_eq_iff (text other : Option String) :
    ofText? text = ofText? other ↔ text.getD "[]" = other.getD "[]" := by
  rw [ofText?_eq_atom, ofText?_eq_atom, atom_inj]

end Term

/-- What the facts about two dependencies agree in: the names, and the ranges up to a missing one
for the text `[]`. -/
structure Dependency.Alike (d e : Dependency) : Prop where
  ident : d.ident.text = e.ident.text
  range : d.range.getD "[]" = e.range.getD "[]"

/-- What the facts about two workspaces agree in. -/
structure Workspace.Alike (w v : Workspace) : Prop where
  place : w.place = v.place
  ident : w.ident.text = v.ident.text
  version : w.manifest.version.getD "[]" = v.manifest.version.getD "[]"
  dependencies : ∀ kind,
    List.Forall₂ Dependency.Alike (w.manifest.dependencies kind) (v.manifest.dependencies kind)

namespace Project

/-! ## The facts about a workspace -/

theorem dependencyTerm_eq_iff {place : String} {kind : DependencyType} {d e : Dependency} :
    dependencyTerm place kind d = dependencyTerm place kind e ↔ d.Alike e := by
  constructor
  · intro same
    simp only [dependencyTerm, Term.compound.injEq, List.cons.injEq, Term.atom_inj,
      Term.ofText?_eq_iff, true_and, and_true] at same
    exact ⟨same.1, same.2⟩
  · rintro ⟨ident, range⟩
    rw [dependencyTerm, dependencyTerm, ident, (Term.ofText?_eq_iff _ _).mpr range]

/-- The facts about the dependencies of one kind. -/
def kindTerms (w : Workspace) (kind : DependencyType) : List Term :=
  (w.manifest.dependencies kind).map (dependencyTerm w.place kind)

theorem kindTerms_eq_iff {w v : Workspace} (places : w.place = v.place) (kind : DependencyType) :
    kindTerms w kind = kindTerms v kind ↔
      List.Forall₂ Dependency.Alike (w.manifest.dependencies kind)
        (v.manifest.dependencies kind) := by
  rw [kindTerms, kindTerms, places, map_eq_map_iff_forall₂]
  simp only [dependencyTerm_eq_iff]

theorem dependencyTerms_eq (w : Workspace) : dependencyTerms w =
    kindTerms w .regular ++ (kindTerms w .development ++ kindTerms w .peer) := by
  simp [dependencyTerms, DependencyType.all, kindTerms]

/-- The fact is about a dependency of the kind. -/
def isOfKind (kind : DependencyType) : Term → Bool
  | .compound _ [_, _, _, .compound field _] => field == kind.field
  | _ => false

theorem isOfKind_dependencyTerm (place : String) (kind other : DependencyType) (d : Dependency) :
    isOfKind kind (dependencyTerm place other d) = (other == kind) := by
  have fields : (other.field == kind.field) = (other == kind) := by
    cases kind <;> cases other <;> decide
  exact fields

theorem filter_kindTerms (w : Workspace) (kind other : DependencyType) :
    (kindTerms w other).filter (isOfKind kind) =
      if other = kind then kindTerms w other else [] := by
  rw [kindTerms, List.filter_map]
  split
  · next same =>
      rw [List.filter_eq_self.mpr]
      intro d _
      simp [isOfKind_dependencyTerm, same]
  · next different =>
      rw [List.filter_eq_nil_iff.mpr]
      · rfl
      intro d _
      simp [isOfKind_dependencyTerm, different]

/-- The facts about the dependencies of one kind stand together, in their order. -/
theorem filter_dependencyTerms (w : Workspace) (kind : DependencyType) :
    (dependencyTerms w).filter (isOfKind kind) = kindTerms w kind := by
  rw [dependencyTerms_eq, List.filter_append, List.filter_append]
  simp only [filter_kindTerms]
  cases kind <;> simp

theorem dependencyTerms_eq_iff {w v : Workspace} :
    dependencyTerms w = dependencyTerms v ↔ ∀ kind, kindTerms w kind = kindTerms v kind := by
  constructor
  · intro same kind
    rw [← filter_dependencyTerms, ← filter_dependencyTerms, same]
  · intro same
    rw [dependencyTerms_eq, dependencyTerms_eq, same, same, same]

theorem workspaceTerms_eq_iff {w v : Workspace} :
    workspaceTerms w = workspaceTerms v ↔ w.Alike v := by
  constructor
  · intro same
    simp only [workspaceTerms, List.cons_append, List.nil_append, List.cons.injEq,
      Term.compound.injEq, Term.atom_inj, Term.ofText?_eq_iff, true_and, and_true] at same
    obtain ⟨place, ⟨-, ident⟩, ⟨-, version⟩, rows⟩ := same
    exact ⟨place, ident, version, fun kind =>
      (kindTerms_eq_iff place kind).mp (dependencyTerms_eq_iff.mp rows kind)⟩
  · rintro ⟨place, ident, version, rows⟩
    have sameRows : dependencyTerms w = dependencyTerms v :=
      dependencyTerms_eq_iff.mpr fun kind => (kindTerms_eq_iff place kind).mpr (rows kind)
    simp only [workspaceTerms, place, ident, (Term.ofText?_eq_iff _ _).mpr version, sameRows]

/-! ## The facts about all workspaces -/

/-- The fact goes on with the workspace before it. -/
def isContinued : Term → Bool
  | .compound _ [_] => false
  | _ => true

theorem workspaceTerms_eq_cons (w : Workspace) : ∃ rest,
    workspaceTerms w = .compound "workspace" [.atom w.place] :: rest ∧
      ∀ t ∈ rest, isContinued t := by
  refine ⟨_, rfl, ?_⟩
  have rows : ∀ t ∈ dependencyTerms w, isContinued t := by
    intro t member
    obtain ⟨kind, -, member⟩ := List.mem_flatMap.mp member
    obtain ⟨d, -, rfl⟩ := List.mem_map.mp member
    rfl
  exact List.forall_mem_cons.mpr ⟨rfl, List.forall_mem_cons.mpr ⟨rfl, rows⟩⟩

/-- The facts after those about a workspace begin with a workspace of their own. -/
theorem isContinued_head_flatMap (workspaces : List Workspace) :
    ∀ t ∈ (workspaces.flatMap workspaceTerms).head?, isContinued t = false := by
  cases workspaces with
  | nil => nofun
  | cons w workspaces =>
      rintro t ⟨⟩
      rfl

theorem flatMap_workspaceTerms_eq_iff {workspaces others : List Workspace} :
    workspaces.flatMap workspaceTerms = others.flatMap workspaceTerms ↔
      List.Forall₂ Workspace.Alike workspaces others := by
  constructor
  · intro same
    induction workspaces generalizing others with
    | nil =>
        cases others with
        | nil => exact .nil
        | cons v others => cases same
    | cons w workspaces ih =>
        cases others with
        | nil => cases same
        | cons v others =>
            obtain ⟨rest, begins, continued⟩ := workspaceTerms_eq_cons w
            obtain ⟨rest', begins', continued'⟩ := workspaceTerms_eq_cons v
            rw [List.flatMap_cons, List.flatMap_cons, begins, begins', List.cons_append,
              List.cons_append, List.cons.injEq] at same
            obtain ⟨facts, later⟩ := run_append_inj continued continued'
              (isContinued_head_flatMap workspaces) (isContinued_head_flatMap others) same.2
            exact .cons (workspaceTerms_eq_iff.mp (by rw [begins, begins', same.1, facts]))
              (ih later)
  · intro alike
    induction alike with
    | nil => rfl
    | cons first _ ih =>
        rw [List.flatMap_cons, List.flatMap_cons, workspaceTerms_eq_iff.mpr first, ih]

/-! ## The database -/

theorem isPlain_databaseTerms (project : Project) : ∀ t ∈ project.databaseTerms, t.isPlain := by
  have ofText : ∀ text, (Term.ofText? text).isPlain := fun text => by
    rw [Term.ofText?_eq_atom]
    rfl
  intro t member
  rcases List.mem_append.mp member with member | member
  · obtain ⟨kind, -, rfl⟩ := List.mem_map.mp member
    rfl
  · obtain ⟨w, -, member⟩ := List.mem_flatMap.mp member
    rcases List.mem_append.mp member with member | member
    · simp only [List.mem_cons, List.not_mem_nil, or_false] at member
      rcases member with rfl | rfl | rfl <;>
        simp [Term.isPlain, Term.arePlain, Term.atom, ofText]
    · obtain ⟨kind, -, member⟩ := List.mem_flatMap.mp member
      obtain ⟨d, -, rfl⟩ := List.mem_map.mp member
      simp [dependencyTerm, Term.isPlain, Term.arePlain, Term.atom, ofText]

theorem databaseTerms_eq_of_database {p q : Project} (same : p.database = q.database) :
    p.databaseTerms = q.databaseTerms := by
  have texts := congrArg String.toList same
  rw [database, database, String.toList_append, String.toList_append, Clause.toList_join_text,
    Clause.toList_join_text] at texts
  exact Clause.flatMap_chars_injective (isPlain_databaseTerms p) (isPlain_databaseTerms q)
    (List.append_cancel_right texts)

/-- **Two projects have the same database exactly if their workspaces are alike**, pair by pair
and in the same order. -/
theorem database_eq_iff (p q : Project) :
    p.database = q.database ↔ List.Forall₂ Workspace.Alike p.workspaces q.workspaces := by
  rw [← flatMap_workspaceTerms_eq_iff]
  constructor
  · intro same
    exact List.append_cancel_left (databaseTerms_eq_of_database same)
  · intro same
    rw [database, database, databaseTerms, databaseTerms, same]

/-- The version `[]` and a missing version have one database between them. -/
theorem database_eq_of_nilVersion : ∃ m n : Manifest,
    Manifest.ofFields [("name", .string "a"), ("version", .string "[]")] = .ok m ∧
      Manifest.ofFields [("name", .string "a")] = .ok n ∧ m.version ≠ n.version ∧
        ∀ root configuration,
          (Project.mk root configuration [.ofManifest "." m]).database =
            (Project.mk root configuration [.ofManifest "." n]).database := by
  refine ⟨_, _, rfl, rfl, by decide, fun root configuration => ?_⟩
  refine (database_eq_iff _ _).mpr (.cons ⟨rfl, rfl, rfl, fun kind => ?_⟩ .nil)
  cases kind <;> exact .nil

end Project

end WorkspacePolicy
