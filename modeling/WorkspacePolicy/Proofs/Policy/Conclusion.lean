/-
# Proofs.Policy.Conclusion — which answers become which conclusions

An answer becomes a conclusion exactly if it binds the variables, names a workspace and, for a
dependency, a package and a kind; the range and the value may be missing
(`EnforcedDependency.ofBindings_eq_ok_iff`, `EnforcedField.ofBindings_eq_ok_iff`). So every
conclusion is about a workspace of the project, and the names of its packages were read.

Conclusions about workspaces with names of their own are told apart by their sort keys
(`EnforcedDependency.eq_of_sortKey`, `EnforcedField.eq_of_sortKey`).
-/
import WorkspacePolicy.Proofs.Project.Loaded

namespace WorkspacePolicy

set_option autoImplicit false

namespace Bindings

variable {links : Bindings} {name : String} {term : Term} {value : Option String}

theorem text_of_linkText (bound : Entries.find? name links = some term)
    (linked : term.linkText = .ok value) : links.text name = .ok value := by
  simp only [text, Bindings.value, bound, ok_bind, linked]
  rfl

theorem json_of_linkJson (bound : Entries.find? name links = some term)
    (linked : term.linkJson = .ok value) : links.json name = .ok value := by
  simp only [json, Bindings.value, bound, ok_bind, linked]
  rfl

end Bindings

namespace Project

theorem workspaceOfRule_eq_ok_iff {project : Project} {path : String} {w : Workspace} :
    project.workspaceOfRule path = .ok w ↔ project.workspaceNamed? path = some w := by
  unfold workspaceOfRule
  cases project.workspaceNamed? path <;> simp

/-- No two workspaces have the same name. -/
def NamesApart (project : Project) : Prop :=
  ∀ v ∈ project.workspaces, ∀ w ∈ project.workspaces, v.ident.text = w.ident.text → v = w

end Project

/-- A missing value is told apart from every value by its mark. -/
theorem eq_of_presenceMark {value other : Option String}
    (mark : presenceMark value = presenceMark other) (text : value.getD "" = other.getD "") :
    value = other := by
  cases value with
  | none =>
      cases other with
      | none => rfl
      | some other => exact absurd mark (by simp [presenceMark])
  | some value =>
      cases other with
      | none => exact absurd mark (by simp [presenceMark])
      | some other => exact congrArg some text

namespace EnforcedDependency

theorem identOfRule_eq_ok_iff {text : String} {ident : Ident} :
    identOfRule text = .ok ident ↔ Ident.parse? text = some ident := by
  unfold identOfRule
  cases Ident.parse? text <;> simp

theorem kindOfRule_eq_ok_iff {name : Option String} {kind : DependencyType} :
    kindOfRule name = .ok kind ↔ name.bind DependencyType.ofField? = some kind := by
  unfold kindOfRule
  cases name.bind DependencyType.ofField? <;> simp

variable {project : Project} {links : Bindings}

/-- What an answer has to bind for a dependency. -/
theorem ofBindings_eq_ok_iff {d : EnforcedDependency} : ofBindings project links = .ok d ↔
    ∃ place ident kind, links.text "WorkspaceCwd" = .ok (some place) ∧
      links.text "DependencyIdent" = .ok (some ident) ∧
      links.text "DependencyRange" = .ok d.range ∧
      links.text "DependencyType" = .ok kind ∧
      project.workspaceNamed? place = some d.workspace ∧ Ident.parse? ident = some d.ident ∧
      kind.bind DependencyType.ofField? = some d.kind := by
  constructor
  · intro given
    unfold ofBindings at given
    obtain ⟨place, placeText, given⟩ := of_bind_eq_ok given
    obtain ⟨ident, identText, given⟩ := of_bind_eq_ok given
    obtain ⟨range, rangeText, given⟩ := of_bind_eq_ok given
    obtain ⟨kind, kindText, given⟩ := of_bind_eq_ok given
    match place, ident with
    | some place, some ident =>
        obtain ⟨workspace, named, given⟩ := of_bind_eq_ok given
        obtain ⟨parsed, identRead, given⟩ := of_bind_eq_ok given
        obtain ⟨type, kindRead, given⟩ := of_bind_eq_ok given
        obtain rfl := Except.ok.inj given
        exact ⟨place, ident, kind, placeText, identText, rangeText, kindText,
          Project.workspaceOfRule_eq_ok_iff.mp named, identOfRule_eq_ok_iff.mp identRead,
          kindOfRule_eq_ok_iff.mp kindRead⟩
    | none, _ => cases given
    | some _, none => cases given
  · rintro ⟨place, ident, kind, placeText, identText, rangeText, kindText, named, identRead,
      kindRead⟩
    have workspace := Project.workspaceOfRule_eq_ok_iff.mpr named
    have parsed := identOfRule_eq_ok_iff.mpr identRead
    have type := kindOfRule_eq_ok_iff.mpr kindRead
    simp only [ofBindings, placeText, identText, rangeText, kindText, ok_bind, workspace, parsed,
      type]
    rfl

/-- Before anything is looked up, the workspace and the package have to be there. -/
theorem ofBindings_of_missing {place ident range kind : Option String}
    (placeText : links.text "WorkspaceCwd" = .ok place)
    (identText : links.text "DependencyIdent" = .ok ident)
    (rangeText : links.text "DependencyRange" = .ok range)
    (kindText : links.text "DependencyType" = .ok kind) (absent : place = none ∨ ident = none) :
    ofBindings project links = .error (.invalidRule "missing workspace or dependency ident") := by
  simp only [ofBindings, placeText, identText, rangeText, kindText, ok_bind]
  rcases absent with rfl | rfl
  · rfl
  · cases place <;> rfl

theorem mem_of_ofBindings {d : EnforcedDependency} (given : ofBindings project links = .ok d) :
    d.workspace ∈ project.workspaces ∧ d.ident.IsParsed := by
  obtain ⟨place, ident, kind, -, -, -, -, named, identRead, -⟩ := ofBindings_eq_ok_iff.mp given
  exact ⟨Project.mem_of_workspaceNamed? named, ident, identRead⟩

theorem field_injective {kind other : DependencyType} (same : kind.field = other.field) :
    kind = other := by
  cases kind <;> cases other <;> first | rfl | exact absurd same (by decide)

theorem eq_of_sortKey (apart : project.NamesApart) {d e : EnforcedDependency}
    (member : d.workspace ∈ project.workspaces) (member' : e.workspace ∈ project.workspaces)
    (parsed : d.ident.IsParsed) (parsed' : e.ident.IsParsed) (same : d.sortKey = e.sortKey) :
    d = e := by
  simp only [sortKey, List.cons.injEq, and_true] at same
  obtain ⟨mark, workspace, ident, range, kind⟩ := same
  cases d
  cases e
  obtain rfl := apart _ member _ member' workspace
  obtain rfl := Ident.text_injective parsed parsed' ident
  obtain rfl := eq_of_presenceMark mark range
  obtain rfl := field_injective kind
  rfl

end EnforcedDependency

namespace EnforcedField

variable {project : Project} {links : Bindings}

/-- What an answer has to bind for a field. -/
theorem ofBindings_eq_ok_iff {f : EnforcedField} : ofBindings project links = .ok f ↔
    ∃ place, links.text "WorkspaceCwd" = .ok (some place) ∧
      links.text "FieldPath" = .ok (some f.path) ∧ links.json "FieldValue" = .ok f.value ∧
      project.workspaceNamed? place = some f.workspace := by
  constructor
  · intro given
    unfold ofBindings at given
    obtain ⟨place, placeText, given⟩ := of_bind_eq_ok given
    obtain ⟨path, pathText, given⟩ := of_bind_eq_ok given
    obtain ⟨value, valueText, given⟩ := of_bind_eq_ok given
    match place, path with
    | some place, some path =>
        obtain ⟨workspace, named, given⟩ := of_bind_eq_ok given
        obtain rfl := Except.ok.inj given
        exact ⟨place, placeText, pathText, valueText, Project.workspaceOfRule_eq_ok_iff.mp named⟩
    | none, _ => cases given
    | some _, none => cases given
  · rintro ⟨place, placeText, pathText, valueText, named⟩
    have workspace := Project.workspaceOfRule_eq_ok_iff.mpr named
    simp only [ofBindings, placeText, pathText, valueText, ok_bind, workspace]
    rfl

theorem mem_of_ofBindings {f : EnforcedField} (given : ofBindings project links = .ok f) :
    f.workspace ∈ project.workspaces := by
  obtain ⟨place, -, -, -, named⟩ := ofBindings_eq_ok_iff.mp given
  exact Project.mem_of_workspaceNamed? named

theorem eq_of_sortKey (apart : project.NamesApart) {f g : EnforcedField}
    (member : f.workspace ∈ project.workspaces) (member' : g.workspace ∈ project.workspaces)
    (same : f.sortKey = g.sortKey) : f = g := by
  simp only [sortKey, List.cons.injEq, and_true] at same
  obtain ⟨workspace, path, mark, value⟩ := same
  cases f
  cases g
  obtain rfl := apart _ member _ member' workspace
  obtain rfl := path
  obtain rfl := eq_of_presenceMark mark value
  rfl

end EnforcedField

end WorkspacePolicy
