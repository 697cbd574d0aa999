/-
# Proofs.Diagnosis.PositionList — a syntax error with a list of positions

A term *tells* one part of a place if it is `line/1`, `column/1` or `found/1` around what it
tells, inside any number of `throw/1` and `error/1` (`Term.told?`). The context of a syntax error
is a list of terms. Each part of the place is what the last term tells that tells this part, and
it is not known if no term does. Lists inside the list and all other terms have no influence, so
two lists with the same terms for each part, in the same order, make the same error
(`ofTerm_within_ofItems`).
-/
import Mathlib.Data.List.Forall2
import WorkspacePolicy.Proofs.Diagnosis.Wrapped
import WorkspacePolicy.Proofs.Term.Items

namespace WorkspacePolicy

set_option autoImplicit false

open Diagnosis Reading

namespace Term

/-- What the term tells for one part of the place. -/
def told? (key : PositionKey) : Term → Option Term
  | .compound name [arg] =>
    if name = "throw" ∨ name = "error" then told? key arg
    else if name = key.text then some arg
    else none
  | _ => none
termination_by structural t => t

/-- The term tells this part of the place. -/
def tells (key : PositionKey) (t : Term) : Bool := (t.told? key).isSome

/-- What the last term tells that tells this part. -/
def lastTold? (key : PositionKey) (terms : List Term) : Option Term :=
  (terms.filterMap (told? key)).getLast?

theorem told?_wrapper {name : String} (wraps : name = "throw" ∨ name = "error")
    (key : PositionKey) (arg : Term) : told? key (.compound name [arg]) = told? key arg := by
  rw [told?, if_pos wraps]

theorem told?_position (key other : PositionKey) (arg : Term) :
    told? key (.compound other.text [arg]) = if other = key then some arg else none := by
  cases key <;> cases other <;> rfl

theorem told?_passedOver {name : String} {args : List Term}
    (passed : ⟨name, args.length⟩ ∉ readThrough) (key : PositionKey) :
    told? key (.compound name args) = none := by
  match args with
  | [] | _ :: _ :: _ => rfl
  | [arg] =>
      have names := mt unary_iff.mpr passed
      simp only [not_or] at names
      obtain ⟨noThrow, noError, -, noLine, noColumn, noFound⟩ := names
      have noKey : name ≠ key.text := by cases key <;> assumption
      simp [told?, noThrow, noError, noKey]

end Term

namespace Reading

/-- What the reading tells for one part of the place. -/
def told? (key : PositionKey) : Reading → Option Reading
  | .position other value => if other = key then some value else none
  | _ => none

theorem told?_cons (key : PositionKey) (item rest : Reading) :
    (item.cons rest).told? key = none := by
  cases rest with
  | text rest => by_cases atEnd : rest = Term.nilName <;> simp [cons, atEnd, told?]
  | number | list | position | error => rfl

theorem readingOf_of_reads {t : Term} {r : Reading} (reads : Reads t r) : readingOf t = r := by
  rw [readingOf, ofTerm?_of_reads reads]
  rfl

/-- A term that tells a part of the place reads as a position for it, and no other term does. -/
theorem told?_of_reads {t : Term} {r : Reading} (reads : Reads t r) (key : PositionKey) :
    r.told? key = (t.told? key).map readingOf := by
  induction reads with
  | number | string | instantiation | located | explained | existence | indicator => rfl
  | wrapper wraps _ ih => rw [Term.told?_wrapper wraps, ih]
  | syntaxError => cases key <;> rfl
  | position other inside ih =>
      rw [Term.told?_position, told?]
      split
      · rw [Option.map_some, readingOf_of_reads inside]
      · rfl
  | cell => exact told?_cons key _ _
  | passedOver passed => rw [Term.told?_passedOver passed]; rfl

/-- What is told can be read. -/
theorem passes_of_told? {t x : Term} {key : PositionKey} (readable : Passes ofTerm? t)
    (told : t.told? key = some x) : Passes ofTerm? x := by
  obtain ⟨r, read⟩ := readable
  have reads := reads_iff.mpr read
  clear read
  induction reads with
  | number | string | instantiation | located | explained | existence | indicator | cell =>
      cases told
  | wrapper wraps _ ih =>
      rw [Term.told?_wrapper wraps] at told
      exact ih told
  | syntaxError => cases key <;> cases told
  | position other inside =>
      rw [Term.told?_position] at told
      split at told
      · cases told
        exact ⟨_, ofTerm?_of_reads inside⟩
      · cases told
  | passedOver passed =>
      rw [Term.told?_passedOver passed] at told
      cases told

/-! ## Lists -/

/-- A list that is not empty reads as the list of its readings. -/
theorem reads_ofItems : ∀ {terms : List Term}, terms ≠ [] → (∀ t ∈ terms, Passes ofTerm? t) →
    Reads (Term.ofItems terms) (.list (terms.map readingOf))
  | [t], _, readable => by
      have first := reads_readingOf (readable t List.mem_cons_self)
      have atEnd : Reads Term.nil (.text Term.nilName) := reads_iff.mpr rfl
      simpa [cons] using Reads.cell first atEnd
  | t :: u :: terms, _, readable => by
      obtain ⟨first, others⟩ := List.forall_mem_cons.mp readable
      exact .cell (reads_readingOf first) (reads_ofItems (List.cons_ne_nil u terms) others)

/-- The last position for a part decides, wherever it stands in the list. -/
theorem lastOf?_positions_list (key : PositionKey) (items : List Reading) :
    lastOf? key (positions (.list items)) = (items.filterMap (told? key)).getLast? := by
  rw [lastOf?_eq_getLast?, positions, List.filterMap_filterMap]
  congr 2
  funext item
  cases item <;> rfl

/-- What a list tells is what its last term for this part tells. -/
theorem lastOf?_positions_ofItems {terms : List Term} (readable : ∀ t ∈ terms, Passes ofTerm? t)
    (key : PositionKey) :
    lastOf? key (positions (readingOf (Term.ofItems terms))) =
      (Term.lastTold? key terms).map readingOf := by
  by_cases empty : terms = []
  · subst empty
    rfl
  · rw [readingOf_of_reads (reads_ofItems empty readable), lastOf?_positions_list,
      List.filterMap_map, Term.lastTold?, ← List.getLast?_map, List.map_filterMap]
    congr 1
    refine List.filterMap_congr fun t member => ?_
    exact told?_of_reads (reads_readingOf (readable t member)) key

end Reading

namespace LogicError

/-- A syntax error with a list of terms for its context. -/
def syntaxErrorAt (reason : Term) (terms : List Term) : Term :=
  .compound "error" [.compound "syntax_error" [reason], .ofItems terms]

/-- The error for a reason and a context that can be read. -/
theorem ofTerm_syntaxErrorAt {reason : Term} {terms : List Term}
    (readableReason : Passes ofTerm? reason) (readable : ∀ t ∈ terms, Passes ofTerm? t) :
    ofTerm (syntaxErrorAt reason terms) =
      located ((ofSummary .syntaxError s!"Syntax error: {shown reason}").merge
        (readingOf (.ofItems terms))) := by
  have context : Passes ofTerm? (.ofItems terms) := by
    by_cases empty : terms = []
    · subst empty
      exact ⟨_, rfl⟩
    · exact ⟨_, ofTerm?_of_reads (reads_ofItems empty readable)⟩
  have formal := Reads.syntaxError (reads_readingOf readableReason)
  exact ofTerm_of_ok_error (ofTerm?_of_reads (.located rfl formal (reads_readingOf context)))

theorem at?_syntaxErrorAt {reason : Term} {terms : List Term}
    (readableReason : Passes ofTerm? reason) (readable : ∀ t ∈ terms, Passes ofTerm? t)
    (key : PositionKey) :
    (ofTerm (syntaxErrorAt reason terms)).at? key =
      (Term.lastTold? key terms).map readingOf := by
  rw [ofTerm_syntaxErrorAt readableReason readable, at?_located, at?_merge,
    lastOf?_positions_ofItems readable]
  cases key <;> exact Option.or_none

theorem lastTold?_filter (key : PositionKey) (terms : List Term) :
    Term.lastTold? key (terms.filter (Term.tells key)) = Term.lastTold? key terms := by
  rw [Term.lastTold?, Term.lastTold?, List.filterMap_filter]
  congr 2
  funext t
  cases told : t.told? key <;> simp [Term.tells, told]

/-- A syntax error takes its place from the last terms of its list. -/
structure TakesLast (reason : Term) (terms : List Term) : Prop where
  kind : (ofTerm (syntaxErrorAt reason terms)).kind = .syntaxError
  /-- A part of the place is what the last term for it tells; it is not known if there is none. -/
  place : ∀ key, Option.Rel (fun told r => ofTerm? told = .ok r) (Term.lastTold? key terms)
    ((ofTerm (syntaxErrorAt reason terms)).at? key)
  /-- Two lists with the same terms for each part, in the same order, make the same error. -/
  rearranged : ∀ terms', (∀ t ∈ terms', Passes ofTerm? t) →
    (∀ key, terms'.filter (Term.tells key) = terms.filter (Term.tells key)) →
      ofTerm (syntaxErrorAt reason terms') = ofTerm (syntaxErrorAt reason terms)
  /-- A list that is not empty reads as the list of its readings, in order. -/
  list : terms ≠ [] → ∃ readings, ofTerm? (.ofItems terms) = .ok (.list readings) ∧
    List.Forall₂ (fun t r => ofTerm? t = .ok r) terms readings

/-- **The last position of each kind counts**, whatever else is in the list. -/
theorem syntaxErrorAt_takesLast {reason : Term} {terms : List Term}
    (readableReason : Passes ofTerm? reason) (readable : ∀ t ∈ terms, Passes ofTerm? t) :
    TakesLast reason terms where
  kind := by
    rw [ofTerm_syntaxErrorAt readableReason readable, kind_located, kind_merge]
    rfl
  place key := by
    rw [at?_syntaxErrorAt readableReason readable]
    cases last : Term.lastTold? key terms with
    | none => exact .none
    | some told =>
        obtain ⟨t, member, tells⟩ := List.mem_filterMap.mp (List.mem_of_getLast? last)
        obtain ⟨r, read⟩ := passes_of_told? (readable t member) tells
        exact .some (by rw [readingOf_of_reads (reads_iff.mpr read), read])
  rearranged terms' readable' same := by
    have place : ∀ key, Term.lastTold? key terms' = Term.lastTold? key terms := by
      intro key
      rw [← lastTold?_filter, same, lastTold?_filter]
    rw [ofTerm_syntaxErrorAt readableReason readable, ofTerm_syntaxErrorAt readableReason readable']
    congr 1
    refine eq_of_at? (fun key => ?_) ?_
    · rw [at?_merge, at?_merge, lastOf?_positions_ofItems readable,
        lastOf?_positions_ofItems readable', place]
    · rw [unplaced_merge, unplaced_merge]
  list nonempty := by
    refine ⟨_, ofTerm?_of_reads (reads_ofItems nonempty readable), ?_⟩
    rw [List.forall₂_map_right_iff, List.forall₂_same]
    exact fun t member => ofTerm?_of_reads (reads_readingOf (readable t member))

/-- Two lines, a list with a line of its own, a name and a column between them. -/
def crowdedPositions : List Term :=
  [.compound "line" [.number (.int 1)], .atom "stream",
    .compound "throw" [.compound "error" [.compound "line" [.number (.int 2)]]],
    .compound "column" [.number (.int 7)], .ofItems [.compound "line" [.number (.int 9)]]]

/-- The list inside the list is passed over, and the wrapped line is the last one. -/
theorem syntaxErrorAt_takesLast_crowded :
    Passes ofTerm? (.atom "operator_expected") ∧ (∀ t ∈ crowdedPositions, Passes ofTerm? t) ∧
      (ofTerm (syntaxErrorAt (.atom "operator_expected") crowdedPositions)).line =
        some (.number (.int 2)) ∧
      ofTerm (syntaxErrorAt (.atom "operator_expected") crowdedPositions) =
        ofTerm (syntaxErrorAt (.atom "operator_expected") (crowdedPositions.take 4)) := by
  have reason : Passes ofTerm? (.atom "operator_expected") := ⟨_, rfl⟩
  have readable : ∀ t ∈ crowdedPositions, Passes ofTerm? t := by
    simp only [crowdedPositions, List.mem_cons, List.not_mem_nil, or_false, forall_eq_or_imp,
      forall_eq]
    exact ⟨⟨_, rfl⟩, ⟨_, rfl⟩, ⟨_, rfl⟩, ⟨_, rfl⟩, ⟨_, rfl⟩⟩
  have result := syntaxErrorAt_takesLast reason readable
  have fewer := result.rearranged (crowdedPositions.take 4)
    (fun t member => readable t (List.mem_of_mem_take member)) (by rintro (_ | _ | _) <;> rfl)
  have last : Term.lastTold? .line crowdedPositions = some (.number (.int 2)) := rfl
  have line := result.place .line
  rw [last] at line
  refine ⟨reason, readable, ?_, fewer.symm⟩
  show (ofTerm (syntaxErrorAt (.atom "operator_expected") crowdedPositions)).at? .line = _
  generalize (ofTerm (syntaxErrorAt (.atom "operator_expected") crowdedPositions)).at? .line =
    told at line ⊢
  cases line with
  | some read =>
      cases read
      rfl

end LogicError

end WorkspacePolicy
