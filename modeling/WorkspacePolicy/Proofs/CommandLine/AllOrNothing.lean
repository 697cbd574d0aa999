/-
# Proofs.CommandLine.AllOrNothing — results in JSON are printed as a whole or not at all

A call that asks for results in JSON prints what the same question gives to a caller of the
policy: a line for each row of a query once all rows are there, or the conclusions, and nothing if
a failure ends the query after any number of rows or the evaluation of the rules (`agreesInJson`).
This holds with any engine in any state, and however the arguments of the call are laid out
(`Invokes`); every query can be asked, also one that begins with a hyphen (`invokes_query`).
-/
import WorkspacePolicy.Engine.Scripted
import WorkspacePolicy.Proofs.CommandLine.JsonText
import WorkspacePolicy.Proofs.Project.Loaded

namespace WorkspacePolicy.CommandLine

set_option autoImplicit false

variable {σ : Type} {place : Place σ} {args : List String} {root : Path} {engine : Option String}

/-! ## Calls of a command -/

/-- The arguments call a command in the project at `root` with the name of an engine, if they give
one. -/
def Invokes (place : Place σ) (args : List String) (root : Path) (engine : Option String)
    (command : Command) : Prop :=
  ∃ call name rest, Call.parse args = some call ∧ call.root place = .ok root ∧
    call.engine = engine ∧ call.rest = name :: rest ∧ commandNames.contains name ∧
      Command.parse name rest = some (.ok command)

theorem Invokes.run_eq {command : Command} (invokes : Invokes place args root engine command)
    (w : World σ) : (run place args).run w =
      (((runCommand place root engine command).run w).1.captured,
        ((runCommand place root engine command).run w).2) := by
  obtain ⟨call, name, rest, parsed, located, rfl, follows, known, asks⟩ := invokes
  simp only [run, parsed, located, runCall, follows, known, asks, if_true]
  rfl

/-- Every query can be asked, after two hyphens if need be. -/
theorem invokes_query (place : Place σ) (text : String) :
    Invokes place ["query", "--json", "--", text] place.directory none (.query text true) :=
  ⟨⟨none, none, none, ["query", "--json", "--", text]⟩, "query", ["--json", "--", text], by rfl,
    rfl, rfl, rfl, by decide, by rfl⟩

theorem invokes_enforced (place : Place σ) :
    Invokes place ["enforced", "--json"] place.directory none (.enforced true) :=
  ⟨⟨none, none, none, ["enforced", "--json"]⟩, "enforced", ["--json"], by decide, rfl, rfl, rfl,
    by decide, by decide⟩

/-! ## The report on a result -/

/-- A failure prints nothing but a message. -/
theorem captured_failure (failure : Failure) :
    (Report.failure failure).captured.exitCode = 1 ∧
      (Report.failure failure).captured.out = "" := by
  have trouble : ∀ t, (Report.trouble "" t).captured.exitCode = 1 ∧
      (Report.trouble "" t).captured.out = "" := by
    intro t
    unfold Report.trouble
    split <;> exact ⟨rfl, rfl⟩
  unfold Report.failure
  split
  · split
    · exact ⟨rfl, rfl⟩
    · exact trouble _
  · exact trouble _

/-- The report on a query is that on the rows that draining it gives. -/
theorem run_query {policy : Policy σ} (loads : loadPolicy place root engine = .ok policy)
    {text : String} {json : Bool} (invokes : Invokes place args root engine (.query text json))
    (w : World σ) : ((run place args).run w).1 = (reportRows json
      ((RowSequence.ofQuery policy text [] none).drain.run w).1.1).captured := by
  rw [invokes.run_eq, runCommand, loads]
  rfl

theorem run_enforced {policy : Policy σ} (loads : loadPolicy place root engine = .ok policy)
    {json : Bool} (invokes : Invokes place args root engine (.enforced json)) (w : World σ) :
    ((run place args).run w).1 =
      (reportConclusions json policy.project (policy.evaluate.result w).1).captured := by
  rw [invokes.run_eq, runCommand, loads]
  rfl

/-! ## Agreement -/

/-- What a call in JSON prints agrees with what a policy gives, and is all of it or nothing. -/
structure AgreesInJson (place : Place σ) (root : Path) (engine : Option String)
    (policy : Policy σ) : Prop where
  /-- All rows of a query are printed, one line each. -/
  rows : ∀ (args : List String) (text : String) (w : World σ) (rows : List Row),
    Invokes place args root engine (.query text true) →
      ((RowSequence.ofQuery policy text [] none).drain.run w).1.1 = ⟨rows, none⟩ →
        ((run place args).run w).1.exitCode = 0 ∧ ((run place args).run w).1.raised = none ∧
          AreLinesOf ((run place args).run w).1.out rows
  /-- No row is printed of a query that a failure ends. -/
  broken : ∀ (args : List String) (text : String) (w : World σ) (rows : List Row)
      (failure : Failure),
    Invokes place args root engine (.query text true) →
      ((RowSequence.ofQuery policy text [] none).drain.run w).1.1 = ⟨rows, some failure⟩ →
        ((run place args).run w).1.exitCode = 1 ∧ ((run place args).run w).1.out = ""
  /-- All conclusions are printed. -/
  concluded : ∀ (args : List String) (w : World σ) (conclusions : Conclusions),
    Invokes place args root engine (.enforced true) →
      (policy.evaluate.result w).1 = .ok conclusions →
        ((run place args).run w).1.exitCode = 0 ∧ ((run place args).run w).1.raised = none ∧
          IsTextOf ((run place args).run w).1.out conclusions
  /-- No conclusion is printed of an evaluation that fails. -/
  unconcluded : ∀ (args : List String) (w : World σ) (failure : Failure),
    Invokes place args root engine (.enforced true) →
      (policy.evaluate.result w).1 = .error failure →
        ((run place args).run w).1.exitCode = 1 ∧ ((run place args).run w).1.out = ""

/-- **Results in JSON agree with the policy and are printed as a whole or not at all.** -/
theorem agreesInJson {policy : Policy σ} (loads : loadPolicy place root engine = .ok policy) :
    AgreesInJson place root engine policy where
  rows args text w rows invokes drained := by
    rw [run_query loads invokes, drained]
    have lines := areLinesOf_rowLines rows
    refine ⟨rfl, rfl, ?_⟩
    rwa [← lines.output_eq] at lines
  broken args text w rows failure invokes drained := by
    rw [run_query loads invokes, drained]
    exact captured_failure failure
  concluded args w conclusions invokes evaluated := by
    rw [run_enforced loads invokes, evaluated]
    have text := isTextOf_conclusionsText conclusions
    refine ⟨rfl, rfl, ?_⟩
    rwa [← text.output_eq] at text
  unconcluded args w failure invokes failed := by
    rw [run_enforced loads invokes, failed]
    exact captured_failure failure

/-- A query that is answered, one that is thrown out of after an answer, and rules that are not
taken. -/
def choir : Script where
  queries := [(EnforcedDependency.query, { first := .refused (.atom "oops") })]
  answers := [
    ("p(X).", [
      { first := some (.bindings [("X", .atom "𝄞 \"\n"), ("_", .atom "a")]) },
      { first := some (.bindings [("X", .atom "null")]) }]),
    ("q(X).", [
      { first := some (.bindings [("X", .atom "a")]) },
      { first := some (.thrown (.atom "oops")) }])]

/-- A project with an engine that plays the script. -/
def choirPlace : Place Scripted.State :=
  ⟨Project.twinsTree, ["project"], .ofBuiltIn (Scripted.engine choir)⟩

/-- The policy there. -/
def choirPolicy : Policy Scripted.State :=
  ⟨Project.twins, "", .ok (Scripted.engine choir)⟩

theorem loadPolicy_choir : loadPolicy choirPlace ["project"] none = .ok choirPolicy := by
  have loaded : Project.load choirPlace.tree ["project"] = .ok Project.twins := Project.load_twins
  simp only [loadPolicy, loaded]
  rfl

theorem drain_choir :
    ((RowSequence.ofQuery choirPolicy "p(X)" [] none).drain.run (.initial .initial)).1.1 =
      ⟨[[("X", some "𝄞 \"\n")], [("X", none)]], none⟩ ∧
    ((RowSequence.ofQuery choirPolicy "q(X)" [] none).drain.run (.initial .initial)).1.1 =
      ⟨[[("X", some "a")]], some (.logic (LogicError.ofTerm (.atom "oops")))⟩ := by
  have first : QueryText.text "p(X)" [] = "p(X)." := by cbv
  have second : QueryText.text "q(X)" [] = "q(X)." := by cbv
  rw [RowSequence.ofQuery, RowSequence.ofQuery, first, second]
  exact ⟨rfl, rfl⟩

set_option maxRecDepth 4000 in
theorem evaluate_choir : (choirPolicy.evaluate.result (.initial .initial)).1 =
    .error (.logic (LogicError.ofTerm (.atom "oops"))) := rfl

/-- The report on the arguments in the project, with engines that have done nothing yet. -/
def choirReport (args : List String) : Report :=
  ((run choirPlace args).run (.initial .initial)).1

theorem agreesInJson_choir :
    ((choirReport ["query", "--json", "--", "p(X)"]).exitCode = 0 ∧
      (choirReport ["query", "--json", "--", "p(X)"]).raised = none ∧
        AreLinesOf (choirReport ["query", "--json", "--", "p(X)"]).out
          [[("X", some "𝄞 \"\n")], [("X", none)]]) ∧
    ((choirReport ["query", "--json", "--", "q(X)"]).exitCode = 1 ∧
      (choirReport ["query", "--json", "--", "q(X)"]).out = "") ∧
    (choirReport ["enforced", "--json"]).exitCode = 1 ∧
      (choirReport ["enforced", "--json"]).out = "" := by
  have agrees := agreesInJson loadPolicy_choir
  have rows := agrees.rows _ _ (.initial .initial) _ (invokes_query choirPlace "p(X)") drain_choir.1
  have broken := agrees.broken _ _ (.initial .initial) _ _ (invokes_query choirPlace "q(X)")
    drain_choir.2
  have unconcluded := agrees.unconcluded _ (.initial .initial) _ (invokes_enforced choirPlace)
    evaluate_choir
  unfold choirReport
  exact ⟨rows, broken, unconcluded⟩

end WorkspacePolicy.CommandLine
