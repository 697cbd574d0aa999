/-
# Proofs.Diagnosis.Readable — which terms have a reading, and which are unknown errors

Reading a term *visits* it, and the arguments of every visited compound that is read by its
arguments (`Term.Visits`); the arguments of any other compound are passed over. A term has a
reading exactly if no visited node is a variable and every visited `error/2` stands around an
error (`isClassified`). What an error is can be told without reading anything: under its wrappers
there is `syntax_error/1`, `existence_error/2` or `instantiation_error/0`
(`Term.isErrorDescription`).

So a term is an unknown error exactly if it has no reading or is no error, and what stands below
a compound that is passed over does not matter for that (`Term.Alike`). Everything is shown by the
rules of reading (`Reading.Reads`), one for each kind of node.
-/
import WorkspacePolicy.Proofs.Diagnosis.Position
import WorkspacePolicy.Proofs.Except

namespace WorkspacePolicy

set_option autoImplicit false

namespace Term

/-- What holds of a compound if it holds of its arguments holds of every term. -/
theorem inductionOn {motive : Term → Prop} (t : Term) (number : ∀ value, motive (.number value))
    (string : ∀ text, motive (.string text)) (unbound : ∀ name, motive (.variable name))
    (compound : ∀ name args, (∀ arg ∈ args, motive arg) → motive (.compound name args)) :
    motive t := by
  refine @Term.rec motive (fun args => ∀ arg ∈ args, motive arg) number string unbound compound
    ?_ ?_ t
  · exact fun _ member => absurd member List.not_mem_nil
  · exact fun _ _ first others => List.forall_mem_cons.mpr ⟨first, others⟩

/-! ## Visited nodes -/

/-- The compounds that are read by their arguments. -/
def readThrough : List Indicator :=
  [⟨"throw", 1⟩, ⟨"error", 1⟩, ⟨"error", 2⟩, ⟨"syntax_error", 1⟩, ⟨"existence_error", 2⟩,
    ⟨"line", 1⟩, ⟨"column", 1⟩, ⟨"found", 1⟩, ⟨cellName, 2⟩, ⟨"/", 2⟩]

theorem unary_iff {name : String} : ⟨name, 1⟩ ∈ readThrough ↔
    name = "throw" ∨ name = "error" ∨ name = "syntax_error" ∨ name = "line" ∨ name = "column" ∨
      name = "found" := by
  simp [readThrough]

theorem binary_iff {name : String} : ⟨name, 2⟩ ∈ readThrough ↔
    name = "error" ∨ name = "existence_error" ∨ name = cellName ∨ name = "/" := by
  simp [readThrough]

/-- Reading the term `t` visits a node. -/
inductive Visits (t : Term) : Term → Prop
  | root : Visits t t
  | argument {name : String} {args : List Term} {arg : Term}
      (visited : Visits t (.compound name args)) (through : ⟨name, args.length⟩ ∈ readThrough)
      (member : arg ∈ args) : Visits t arg

/-- Under `throw/1`, `error/1` and `error/2` there is `syntax_error/1`, `existence_error/2` or
`instantiation_error/0`. -/
def isErrorDescription : Term → Bool
  | .compound name [] => name == "instantiation_error"
  | .compound name [arg] =>
    name == "syntax_error" || ((name == "throw" || name == "error") && isErrorDescription arg)
  | .compound name [formal, _] =>
    name == "existence_error" || (name == "error" && isErrorDescription formal)
  | _ => false
termination_by structural t => t

/-- The node is no variable and no `error/2` around something else than an error. -/
def isReadableNode : Term → Bool
  | .variable _ => false
  | .compound name [formal, _] => name != "error" || isErrorDescription formal
  | _ => true

/-- Every visited node is fit for reading. -/
def Sound (t : Term) : Prop := ∀ node, Visits t node → isReadableNode node

variable {name : String} {args : List Term} {t : Term}

/-- A term is unsound if a variable is visited, or an `error/2` around something else. -/
theorem not_sound_iff : ¬ Sound t ↔ (∃ name, Visits t (.variable name)) ∨
    ∃ formal context, Visits t (.compound "error" [formal, context]) ∧
      ¬ formal.isErrorDescription := by
  constructor
  · intro unsound
    simp only [Sound, Classical.not_forall, Bool.not_eq_true] at unsound
    obtain ⟨node, visited, unfit⟩ := unsound
    match node with
    | .variable name => exact .inl ⟨name, visited⟩
    | .compound name [formal, context] =>
        simp only [isReadableNode, Bool.or_eq_false_iff, bne_eq_false_iff_eq] at unfit
        obtain ⟨rfl, noError⟩ := unfit
        exact .inr ⟨formal, context, visited, by simp [noError]⟩
    | .number _ | .string _ | .compound _ [] | .compound _ [_] | .compound _ (_ :: _ :: _ :: _) =>
        cases unfit
  · rintro (⟨name, visited⟩ | ⟨formal, context, visited, noError⟩) sound
    · cases sound _ visited
    · have fit := sound _ visited
      simp only [isReadableNode] at fit
      exact noError (by simpa using fit)

theorem Visits.deeper {arg node : Term} (through : ⟨name, args.length⟩ ∈ readThrough)
    (member : arg ∈ args) (visited : Visits arg node) : Visits (.compound name args) node := by
  induction visited with
  | root => exact .argument .root through member
  | argument _ throughInner memberInner ih => exact .argument ih throughInner memberInner

theorem visits_cases {node : Term} (visited : Visits t node) :
    node = t ∨ ∃ name args, t = .compound name args ∧ ⟨name, args.length⟩ ∈ readThrough ∧
      ∃ arg ∈ args, Visits arg node := by
  induction visited with
  | root => exact .inl rfl
  | argument _ through member ih =>
      rcases ih with rfl | ⟨name, args, rfl, throughOuter, arg, memberOuter, visited⟩
      · exact .inr ⟨_, _, rfl, through, _, member, .root⟩
      · exact .inr ⟨name, args, rfl, throughOuter, arg, memberOuter,
          .argument visited through member⟩

theorem sound_of_leaf (leaf : ∀ name args, t ≠ .compound name args) :
    Sound t ↔ isReadableNode t := by
  constructor
  · intro sound
    exact sound t .root
  · intro fit node visited
    rcases visits_cases visited with rfl | ⟨name, args, same, -⟩
    · exact fit
    · exact absurd same (leaf name args)

/-- A compound that is read by its arguments is as sound as they are. -/
theorem sound_through (through : ⟨name, args.length⟩ ∈ readThrough) :
    Sound (.compound name args) ↔
      isReadableNode (.compound name args) ∧ ∀ arg ∈ args, Sound arg := by
  constructor
  · intro sound
    exact ⟨sound _ .root, fun arg member node visited => sound node (visited.deeper through member)⟩
  · rintro ⟨fit, each⟩ node visited
    rcases visits_cases visited with rfl | ⟨_, _, same, -, arg, member, visited⟩
    · exact fit
    · cases same
      exact each arg member node visited

theorem sound_unary {arg : Term} (through : ⟨name, 1⟩ ∈ readThrough) :
    Sound (.compound name [arg]) ↔ Sound arg := by
  rw [sound_through through]
  simp [isReadableNode]

theorem sound_binary {first second : Term} (through : ⟨name, 2⟩ ∈ readThrough) :
    Sound (.compound name [first, second]) ↔
      isReadableNode (.compound name [first, second]) ∧ Sound first ∧ Sound second := by
  rw [sound_through through]
  simp

/-- A compound that is passed over is sound, whatever its arguments are. -/
theorem sound_passedOver (passed : ⟨name, args.length⟩ ∉ readThrough) :
    Sound (.compound name args) := by
  intro node visited
  rcases visits_cases visited with rfl | ⟨_, _, same, through, -⟩
  · match args with
    | [] | [_] | _ :: _ :: _ :: _ => rfl
    | [formal, context] =>
        have other : name ≠ "error" := fun same => passed (binary_iff.mpr (.inl same))
        simp [isReadableNode, other]
  · cases same
    exact absurd through passed

end Term

/-! ## The rules of reading -/

namespace Reading

open Diagnosis Term

/-- A term reads as a reading, by rules of one kind of node each. -/
inductive Reads : Term → Reading → Prop
  | number (value : Number) : Reads (.number value) (.number value)
  | string (s : String) : Reads (.string s) (.text s)
  | wrapper {name : String} {arg : Term} {r : Reading} (wraps : name = "throw" ∨ name = "error")
      (inside : Reads arg r) : Reads (.compound name [arg]) r
  | syntaxError {reason : Term} {r : Reading} (inside : Reads reason r) :
      Reads (.compound "syntax_error" [reason])
        (.error (ofSummary .syntaxError s!"Syntax error: {r.display}"))
  | position (key : PositionKey) {arg : Term} {r : Reading} (inside : Reads arg r) :
      Reads (.compound key.text [arg]) (.position key r)
  | located {formal context : Term} {d : LogicError} {r : Reading} (direct : isSyntaxError formal)
      (error : Reads formal (.error d)) (around : Reads context r) :
      Reads (.compound "error" [formal, context]) (.error (d.merge r))
  | explained {formal context : Term} {d : LogicError} {r : Reading}
      (other : isSyntaxError formal = false) (error : Reads formal (.error d))
      (around : Reads context r) :
      Reads (.compound "error" [formal, context]) (.error (d.addNote s!" (in {r.display})"))
  | existence {kind missing : Term} {r s : Reading} (first : Reads kind r)
      (second : Reads missing s) :
      Reads (.compound "existence_error" [kind, missing])
        (.error (ofSummary .existence s!"Existence error: {r.display} {s.display} not found"))
  | cell {item rest : Term} {r s : Reading} (first : Reads item r) (second : Reads rest s) :
      Reads (.cell item rest) (r.cons s)
  | indicator {left right : Term} {r s : Reading} (first : Reads left r)
      (second : Reads right s) :
      Reads (.compound "/" [left, right]) (.text s!"{r.display}/{s.display}")
  | instantiation :
      Reads (.atom "instantiation_error") (.error (ofSummary .instantiation instantiationSummary))
  | passedOver {name : String} {args : List Term} (passed : ⟨name, args.length⟩ ∉ readThrough)
      (other : Term.compound name args ≠ .atom "instantiation_error") :
      Reads (.compound name args) (.text name)

variable {t : Term} {r : Reading}

/-- The reading is an error. -/
def isError : Reading → Bool
  | .error _ => true
  | _ => false

theorem isError_iff : r.isError ↔ ∃ d, r = .error d := by
  cases r <;> simp [isError]

theorem name_of_notInstantiation {name : String}
    (other : Term.compound name [] ≠ .atom "instantiation_error") :
    name ≠ "instantiation_error" := by
  rintro rfl
  exact other rfl

/-- A term that is passed over reads as its name. -/
theorem ofTerm?_passedOver {name : String} {args : List Term}
    (passed : ⟨name, args.length⟩ ∉ readThrough)
    (other : Term.compound name args ≠ .atom "instantiation_error") :
    ofTerm? (.compound name args) = .ok (.text name) := by
  match args with
  | [] => simp [ofTerm?, name_of_notInstantiation other]
  | [arg] =>
      have names := mt unary_iff.mpr passed
      simp_all [ofTerm?]
  | [first, second] =>
      have names := mt binary_iff.mpr passed
      simp_all [ofTerm?]
  | _ :: _ :: _ :: _ => rfl

/-- The rules are followed. -/
theorem ofTerm?_of_reads (reads : Reads t r) : ofTerm? t = .ok r := by
  induction reads with
  | number | string | instantiation => rfl
  | wrapper wraps _ ih => simp [ofTerm?, wraps, ih]
  | syntaxError _ ih => simp [ofTerm?, ih, pure, Except.pure]
  | position key _ ih => cases key <;> simp [PositionKey.text, ofTerm?, ih, pure, Except.pure]
  | located direct _ _ ih ih' =>
      simp [ofTerm?, ih, ih', expectError, direct, pure, Except.pure]
  | explained other _ _ ih ih' =>
      simp [ofTerm?, ih, ih', expectError, other, pure, Except.pure]
  | existence _ _ ih ih' => simp [ofTerm?, ih, ih', pure, Except.pure]
  | cell _ _ ih ih' => simp [Term.cell, ofTerm?, cellName, ih, ih', pure, Except.pure]
  | indicator _ _ ih ih' => simp [ofTerm?, cellName, ih, ih', pure, Except.pure]
  | passedOver passed other => exact ofTerm?_passedOver passed other

theorem isError_cons (r r' : Reading) : (r.cons r').isError = false := by
  cases r' with
  | text rest =>
      by_cases atEnd : rest = nilName <;> simp [cons, atEnd, isError]
  | number | list | position | error => rfl

theorem isErrorDescription_passedOver {name : String} {args : List Term}
    (passed : ⟨name, args.length⟩ ∉ readThrough)
    (other : Term.compound name args ≠ .atom "instantiation_error") :
    (Term.compound name args).isErrorDescription = false := by
  match args with
  | [] => simp [isErrorDescription, name_of_notInstantiation other]
  | [arg] =>
      have names := mt unary_iff.mpr passed
      simp_all [isErrorDescription]
  | [first, second] =>
      have names := mt binary_iff.mpr passed
      simp_all [isErrorDescription]
  | _ :: _ :: _ :: _ => rfl

/-- What reads as an error can be told from the term. -/
theorem isError_of_reads (reads : Reads t r) : r.isError = t.isErrorDescription := by
  induction reads with
  | number | string | instantiation | syntaxError | existence | indicator => rfl
  | position key => cases key <;> rfl
  | wrapper wraps _ ih => rcases wraps with rfl | rfl <;> simpa [isErrorDescription] using ih
  | located _ _ _ ih | explained _ _ _ ih => simpa [isErrorDescription, isError] using ih
  | cell => exact isError_cons _ _
  | passedOver passed other => exact (isErrorDescription_passedOver passed other).symm

/-- A term that reads is sound. -/
theorem sound_of_reads (reads : Reads t r) : Sound t := by
  induction reads with
  | number | string => exact (sound_of_leaf (by simp)).mpr rfl
  | instantiation => exact sound_passedOver (by decide)
  | passedOver passed => exact sound_passedOver passed
  | wrapper wraps _ ih => rcases wraps with rfl | rfl <;> exact (sound_unary (by decide)).mpr ih
  | syntaxError _ ih => exact (sound_unary (by decide)).mpr ih
  | position key _ ih => cases key <;> exact (sound_unary (by decide)).mpr ih
  | located _ error _ ih ih' | explained _ error _ ih ih' =>
      have description := isError_of_reads error
      exact (sound_binary (by decide)).mpr
        ⟨by simp [isReadableNode, ← description, isError], ih, ih'⟩
  | existence _ _ ih ih' | cell _ _ ih ih' | indicator _ _ ih ih' =>
      exact (sound_binary (by decide)).mpr ⟨rfl, ih, ih'⟩

/-- A term is not sound and has no reading. -/
def Fails (t : Term) : Prop := ¬ Sound t ∧ ∃ e, ofTerm? t = .error e

/-- An argument without a reading leaves the term without one. -/
theorem Fails.unary {name : String} {arg : Term} (through : ⟨name, 1⟩ ∈ readThrough)
    (fails : Fails arg) : Fails (.compound name [arg]) := by
  obtain ⟨unsound, e, failure⟩ := fails
  refine ⟨fun sound => unsound ((sound_unary through).mp sound), e, ?_⟩
  rcases unary_iff.mp through with rfl | rfl | rfl | rfl | rfl | rfl <;>
    simp [ofTerm?, failure, bind, Except.bind]

theorem Fails.binary {name : String} {first second : Term} (through : ⟨name, 2⟩ ∈ readThrough)
    (fails : Fails first ∨ Fails second) : Fails (.compound name [first, second]) := by
  constructor
  · intro sound
    obtain ⟨-, soundFirst, soundSecond⟩ := (sound_binary through).mp sound
    exact fails.elim (fun fails => fails.1 soundFirst) (fun fails => fails.1 soundSecond)
  · -- The rest of a list is read before its item, everything else from left to right.
    cases left : ofTerm? first with
    | error e =>
        cases right : ofTerm? second <;> rcases binary_iff.mp through with rfl | rfl | rfl | rfl <;>
          simp [ofTerm?, cellName, left, right, bind, Except.bind]
    | ok r =>
        have firstReads : ¬ Fails first := fun ⟨_, _, failure⟩ => by simp [left] at failure
        obtain ⟨-, e, failure⟩ := fails.resolve_left firstReads
        rcases binary_iff.mp through with rfl | rfl | rfl | rfl <;>
          cases r <;> simp [ofTerm?, cellName, left, failure, expectError, bind, Except.bind]

theorem Reads.unary {name : String} {arg : Term} (through : ⟨name, 1⟩ ∈ readThrough)
    (reads : Reads arg r) : ∃ r', Reads (.compound name [arg]) r' := by
  rcases unary_iff.mp through with rfl | rfl | rfl | rfl | rfl | rfl
  · exact ⟨_, .wrapper (.inl rfl) reads⟩
  · exact ⟨_, .wrapper (.inr rfl) reads⟩
  · exact ⟨_, .syntaxError reads⟩
  · exact ⟨_, .position .line reads⟩
  · exact ⟨_, .position .column reads⟩
  · exact ⟨_, .position .found reads⟩

/-- A compound with two arguments that read is read, unless it is `error/2` around no error. -/
theorem Reads.binary {name : String} {first second : Term} {r' : Reading}
    (through : ⟨name, 2⟩ ∈ readThrough) (reads : Reads first r) (reads' : Reads second r') :
    (∃ whole, Reads (.compound name [first, second]) whole) ∨
      Fails (.compound name [first, second]) := by
  rcases binary_iff.mp through with rfl | rfl | rfl | rfl
  · have description := isError_of_reads reads
    by_cases isAnError : r.isError
    · obtain ⟨d, rfl⟩ := isError_iff.mp isAnError
      by_cases direct : isSyntaxError first
      · exact .inl ⟨_, .located direct reads reads'⟩
      · exact .inl ⟨_, .explained (by simpa using direct) reads reads'⟩
    · rw [Bool.not_eq_true] at isAnError
      rw [isAnError] at description
      right
      constructor
      · intro sound
        have fit := ((sound_binary through).mp sound).1
        simp [isReadableNode, ← description] at fit
      · have noError : expectError first r = .error (.notAnError first) := by
          cases r <;> first | rfl | simp [isError] at isAnError
        exact ⟨_, by simp [ofTerm?, ofTerm?_of_reads reads, noError, bind, Except.bind]; rfl⟩
  · exact .inl ⟨_, .existence reads reads'⟩
  · exact .inl ⟨_, .cell reads reads'⟩
  · exact .inl ⟨_, .indicator reads reads'⟩

/-- A term reads, or it is not sound and has no reading. -/
theorem reads_or_fails (t : Term) : (∃ r, Reads t r) ∨ Fails t := by
  induction t using Term.inductionOn with
  | number value => exact .inl ⟨_, .number value⟩
  | string s => exact .inl ⟨_, .string s⟩
  | unbound name =>
      have unsound : ¬ Sound (.variable name) := fun sound => by
        have fit := sound _ .root
        simp [isReadableNode] at fit
      exact .inr ⟨unsound, _, rfl⟩
  | compound name args ih =>
      by_cases through : ⟨name, args.length⟩ ∈ readThrough
      · match args with
        | [] | _ :: _ :: _ :: _ => simp [readThrough] at through
        | [arg] =>
            rcases ih arg (by simp) with ⟨r, reads⟩ | fails
            · exact .inl (reads.unary through)
            · exact .inr (fails.unary through)
        | [first, second] =>
            rcases ih first (by simp) with ⟨r, reads⟩ | fails
            · rcases ih second (by simp) with ⟨r', reads'⟩ | fails
              · exact reads.binary through reads'
              · exact .inr (.binary through (.inr fails))
            · exact .inr (.binary through (.inl fails))
      · by_cases instantiation : Term.compound name args = .atom "instantiation_error"
        · rw [instantiation]
          exact .inl ⟨_, .instantiation⟩
        · exact .inl ⟨_, .passedOver through instantiation⟩

/-- A term has a reading exactly if it is sound. -/
theorem sound_iff : Sound t ↔ ∃ r, ofTerm? t = .ok r := by
  rcases reads_or_fails t with ⟨r, reads⟩ | ⟨unsound, e, failure⟩
  · exact iff_of_true (sound_of_reads reads) ⟨r, ofTerm?_of_reads reads⟩
  · exact iff_of_false unsound (by simp [failure])

theorem reads_iff : Reads t r ↔ ofTerm? t = .ok r := by
  constructor
  · exact ofTerm?_of_reads
  · intro read
    obtain ⟨r', reads⟩ := (reads_or_fails t).resolve_right fun fails =>
      fails.1 (sound_iff.mpr ⟨r, read⟩)
    rw [ofTerm?_of_reads reads] at read
    cases read
    exact reads

end Reading

/-! ## What is passed over -/

/-- Two terms differ at most below compounds that are passed over. -/
inductive Term.Alike : Term → Term → Prop
  | same (t : Term) : Alike t t
  | passedOver {name : String} {first first' : Term} {args args' : List Term}
      (passed : ⟨name, (first :: args).length⟩ ∉ readThrough)
      (passed' : ⟨name, (first' :: args').length⟩ ∉ readThrough) :
      Alike (.compound name (first :: args)) (.compound name (first' :: args'))
  | unary {name : String} {arg arg' : Term} (through : ⟨name, 1⟩ ∈ readThrough)
      (inside : Alike arg arg') : Alike (.compound name [arg]) (.compound name [arg'])
  | binary {name : String} {first first' second second' : Term}
      (through : ⟨name, 2⟩ ∈ readThrough) (left : Alike first first')
      (right : Alike second second') :
      Alike (.compound name [first, second]) (.compound name [first', second'])

namespace Reading

open Diagnosis Term

theorem toOption_bind {ε α β : Type} (given : Except ε α) (next : α → Except ε β) :
    (given >>= next).toOption = given.toOption.bind fun a => (next a).toOption := by
  cases given <;> rfl

theorem toOption_map {ε α β : Type} (given : Except ε α) (make : α → β) :
    (make <$> given).toOption = given.toOption.map make := by
  cases given <;> rfl

theorem toOption_expectError (source source' : Term) (r : Reading) :
    (expectError source r).toOption = (expectError source' r).toOption := by
  cases r <;> rfl

theorem isSyntaxError_of_alike {t t' : Term} (alike : Alike t t') :
    isSyntaxError t = isSyntaxError t' := by
  have named : ∀ name args, isSyntaxError (.compound name args) →
      ⟨name, args.length⟩ ∈ readThrough := by
    intro name args
    match args with
    | [] | _ :: _ :: _ => simp [isSyntaxError]
    | [arg] => simp +contextual [isSyntaxError, readThrough]
  cases alike with
  | same => rfl
  | passedOver passed passed' =>
      rw [Bool.eq_false_iff.mpr (mt (named _ _) passed),
        Bool.eq_false_iff.mpr (mt (named _ _) passed')]
  | unary | binary => rfl

/-- Where nothing but what is passed over differs, the reading is the same. -/
theorem toOption_of_alike {t t' : Term} (alike : Alike t t') :
    (ofTerm? t).toOption = (ofTerm? t').toOption := by
  induction alike with
  | same => rfl
  | passedOver passed passed' =>
      rw [ofTerm?_passedOver passed (by simp [atom]), ofTerm?_passedOver passed' (by simp [atom])]
  | unary through _ ih =>
      rcases unary_iff.mp through with rfl | rfl | rfl | rfl | rfl | rfl <;>
        simp [ofTerm?, toOption_map, ih]
  | @binary _ first first' _ _ through left _ ih ih' =>
      rcases binary_iff.mp through with rfl | rfl | rfl | rfl
      · simp [ofTerm?, toOption_bind, ih, ih', toOption_expectError first first',
          isSyntaxError_of_alike left, apply_ite Except.toOption]
      all_goals simp [ofTerm?, cellName, toOption_bind, toOption_map, ih, ih']

end Reading

/-! ## Unknown errors -/

namespace LogicError

open Diagnosis Reading Term

theorem kind_located (d : LogicError) : (located d).kind = d.kind := by
  unfold located
  split <;> rfl

/-- What reads as an error has a kind of its own. -/
theorem kind_ne_unknown {t : Term} {d : LogicError} (reads : Reads t (.error d)) :
    d.kind ≠ .unknown := by
  generalize whole : Reading.error d = r at reads
  induction reads generalizing d with
  | number | string | position | indicator | passedOver => cases whole
  | @cell _ _ r r' =>
      have noError := isError_cons r r'
      rw [← whole] at noError
      cases noError
  | wrapper _ _ ih => exact ih whole
  | syntaxError | existence | instantiation =>
      obtain rfl := Reading.error.inj whole
      simp [ofSummary]
  | located _ _ _ ih =>
      obtain rfl := Reading.error.inj whole
      rw [kind_merge]
      exact ih rfl
  | explained _ _ _ ih =>
      obtain rfl := Reading.error.inj whole
      have known := ih rfl
      exact known

theorem ofTerm_of_ok_error {t : Term} {d : LogicError} (read : ofTerm? t = .ok (.error d)) :
    ofTerm t = located d := by
  unfold ofTerm
  rw [read]
  rfl

theorem kind_ofTerm_of_noError {t : Term} (noError : ∀ d, ofTerm? t ≠ .ok (.error d)) :
    (ofTerm t).kind = .unknown := by
  unfold ofTerm
  cases read : ofTerm? t with
  | error e => rfl
  | ok r =>
      cases r with
      | error d => exact absurd read (noError d)
      | number | text | list | position => rfl

theorem kind_ofTerm_eq_unknown_iff (t : Term) :
    (ofTerm t).kind = .unknown ↔ (∃ e, ofTerm? t = .error e) ∨ ¬ t.isErrorDescription := by
  cases read : ofTerm? t with
  | error e => exact iff_of_true (kind_ofTerm_of_noError (by simp [read])) (.inl ⟨e, rfl⟩)
  | ok r =>
      have reads := reads_iff.mpr read
      rw [← isError_of_reads reads]
      cases r with
      | error d =>
          rw [ofTerm_of_ok_error read, kind_located]
          simp [isError, kind_ne_unknown reads]
      | number | text | list | position =>
          exact iff_of_true (kind_ofTerm_of_noError (by simp [read])) (by simp [isError])

theorem ofTerm_of_toOption {t t' : Term} (same : (ofTerm? t).toOption = (ofTerm? t').toOption) :
    ofTerm t' = ofTerm t ∨ (ofTerm t).kind = .unknown ∧ (ofTerm t').kind = .unknown := by
  have ok_iff : ∀ r, ofTerm? t = .ok r ↔ ofTerm? t' = .ok r := by
    intro r
    cases read : ofTerm? t <;> cases read' : ofTerm? t' <;>
      simp_all [Except.toOption]
  by_cases known : ∃ d, ofTerm? t = .ok (.error d)
  · obtain ⟨d, read⟩ := known
    exact .inl ((ofTerm_of_ok_error ((ok_iff _).mp read)).trans (ofTerm_of_ok_error read).symm)
  · simp only [not_exists] at known
    exact .inr ⟨kind_ofTerm_of_noError known,
      kind_ofTerm_of_noError fun d read => known d ((ok_iff _).mpr read)⟩

/-- Which terms have a reading, which are unknown errors, and what does not matter for either. -/
structure IsClassified (t : Term) : Prop where
  /-- Reading fails exactly if a visited node is a variable or an `error/2` around no error. -/
  unreadable_iff : (∃ e, ofTerm? t = .error e) ↔
    (∃ name, Visits t (.variable name)) ∨
      ∃ formal context, Visits t (.compound "error" [formal, context]) ∧
        ¬ formal.isErrorDescription
  /-- The error is unknown exactly if there is no reading or the term describes no error. -/
  unknown_iff : (ofTerm t).kind = .unknown ↔
    (∃ e, ofTerm? t = .error e) ∨ ¬ t.isErrorDescription
  /-- What stands below a compound that is passed over does not matter: the reading is the same,
  and so is the error, up to the text of an unknown one. -/
  passedOver : ∀ t', Alike t t' →
    (ofTerm? t').toOption = (ofTerm? t).toOption ∧
      (ofTerm t' = ofTerm t ∨ (ofTerm t).kind = .unknown ∧ (ofTerm t').kind = .unknown)

/-- **Terms without a reading and unknown errors are exactly the described ones.** -/
theorem isClassified (t : Term) : IsClassified t where
  unreadable_iff := by
    have unsound : (∃ e, ofTerm? t = .error e) ↔ ¬ Sound t := by
      rw [sound_iff]
      cases ofTerm? t <;> simp
    rw [unsound, not_sound_iff]
  unknown_iff := kind_ofTerm_eq_unknown_iff t
  passedOver t' alike := by
    have same := toOption_of_alike alike
    exact ⟨same.symm, ofTerm_of_toOption same⟩

end LogicError

end WorkspacePolicy
