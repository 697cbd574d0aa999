/-
# Proofs.Except — judging the items of a list

A judgement turns an item into a value or fails. Judging a list gives the values in the order
of the items, or the failure of the first item that does not pass (`mapM_of_bad`). Where every
item passes, the values of a rearranged list are the same ones rearranged (`mapM_perm`).

Which failures of one sort a computation has is told from its parts (`FailsWith`): those of a
sequence come from the first part or, once this gives a value, from what follows.
-/

namespace WorkspacePolicy

set_option autoImplicit false

variable {ε α β : Type}

@[simp] theorem ok_bind (a : α) (next : α → Except ε β) : (Except.ok a >>= next) = next a := rfl

theorem of_bind_eq_ok {first : Except ε α} {next : α → Except ε β} {value : β}
    (given : (first >>= next) = .ok value) : ∃ a, first = .ok a ∧ next a = .ok value := by
  cases first with
  | error failure => cases given
  | ok a => exact ⟨a, rfl, given⟩

theorem map_eq_ok_iff {given : Except ε α} {f : α → β} {value : β} :
    given.map f = .ok value ↔ ∃ a, given = .ok a ∧ f a = value := by
  cases given <;> simp [Except.map]

theorem mapError_eq_ok_iff {ε' : Type} {given : Except ε α} {f : ε → ε'} {value : α} :
    given.mapError f = .ok value ↔ given = .ok value := by
  cases given with
  | error failure => exact iff_of_false nofun nofun
  | ok other =>
      show Except.ok other = .ok value ↔ Except.ok other = .ok value
      rw [Except.ok.injEq, Except.ok.injEq]

/-- Whether a computation fails in a certain way can be decided, whatever its values are. -/
instance decidableEqError [DecidableEq ε] (given : Except ε α) (failure : ε) :
    Decidable (given = .error failure) :=
  match given with
  | .ok _ => .isFalse nofun
  | .error other => decidable_of_iff (other = failure) ⟨congrArg _, Except.error.inj⟩

/-- The judgement lets the item pass. -/
def Passes (judge : α → Except ε β) (item : α) : Prop := ∃ value, judge item = .ok value

section

variable {judge : α → Except ε β} {items : List α} {values : List β}

theorem mapM_cons_eq_ok {item : α} (given : (item :: items).mapM judge = .ok values) :
    ∃ first rest, judge item = .ok first ∧ items.mapM judge = .ok rest ∧
      values = first :: rest := by
  rw [List.mapM_cons] at given
  obtain ⟨first, judged, given⟩ := of_bind_eq_ok given
  obtain ⟨rest, others, given⟩ := of_bind_eq_ok given
  exact ⟨first, rest, judged, others, (Except.ok.inj given).symm⟩

theorem mapM_of_bad {good later : List α} {bad : α} {failure : ε}
    (pass : ∀ a ∈ good, Passes judge a) (fails : judge bad = .error failure) :
    (good ++ bad :: later).mapM judge = .error failure := by
  induction good with
  | nil =>
      rw [List.nil_append, List.mapM_cons, fails]
      rfl
  | cons item rest ih =>
      obtain ⟨⟨value, passes⟩, others⟩ := List.forall_mem_cons.mp pass
      rw [List.cons_append, List.mapM_cons, passes, ih others]
      rfl

/-- Items that fail all alike make the list fail in this way, whichever comes first. -/
theorem mapM_of_some_bad {failure : ε}
    (alike : ∀ a ∈ items, Passes judge a ∨ judge a = .error failure)
    (bad : ∃ a ∈ items, judge a = .error failure) : items.mapM judge = .error failure := by
  induction items with
  | nil =>
      obtain ⟨a, member, -⟩ := bad
      exact absurd member List.not_mem_nil
  | cons item rest ih =>
      obtain ⟨⟨value, passes⟩ | fails, others⟩ := List.forall_mem_cons.mp alike
      · have later : ∃ a ∈ rest, judge a = .error failure := by
          obtain ⟨a, member, fails⟩ := bad
          rcases List.mem_cons.mp member with rfl | member
          · rw [passes] at fails
            cases fails
          · exact ⟨a, member, fails⟩
        rw [List.mapM_cons, passes, ih others later]
        rfl
      · rw [List.mapM_cons, fails]
        rfl

theorem exists_mapM_of_passes (pass : ∀ a ∈ items, Passes judge a) :
    ∃ values, items.mapM judge = .ok values := by
  induction items with
  | nil => exact ⟨[], rfl⟩
  | cons item rest ih =>
      obtain ⟨⟨value, passes⟩, others⟩ := List.forall_mem_cons.mp pass
      obtain ⟨values, given⟩ := ih others
      refine ⟨value :: values, ?_⟩
      rw [List.mapM_cons, passes, given]
      rfl

theorem passes_of_mapM (given : items.mapM judge = .ok values) : ∀ a ∈ items, Passes judge a := by
  induction items generalizing values with
  | nil => exact fun _ member => absurd member List.not_mem_nil
  | cons item rest ih =>
      obtain ⟨first, others, judged, more, rfl⟩ := mapM_cons_eq_ok given
      exact List.forall_mem_cons.mpr ⟨⟨first, judged⟩, ih more⟩

/-- A list has values exactly if each of its items has one. -/
theorem passes_mapM_iff : Passes (List.mapM judge) items ↔ ∀ a ∈ items, Passes judge a :=
  ⟨fun ⟨_, given⟩ => passes_of_mapM given, exists_mapM_of_passes⟩

theorem mem_of_mapM (given : items.mapM judge = .ok values) :
    ∀ v ∈ values, ∃ a ∈ items, judge a = .ok v := by
  induction items generalizing values with
  | nil =>
      obtain rfl := Except.ok.inj given
      exact fun v member => absurd member List.not_mem_nil
  | cons item rest ih =>
      obtain ⟨first, others, judged, more, rfl⟩ := mapM_cons_eq_ok given
      intro v member
      rcases List.mem_cons.mp member with rfl | member
      · exact ⟨item, List.mem_cons_self, judged⟩
      · obtain ⟨a, listed, judged⟩ := ih more v member
        exact ⟨a, List.mem_cons_of_mem _ listed, judged⟩

/-- What is in the values is in that of one of the items. -/
theorem mem_flatten_of_mapM {γ : Type} {judge : α → Except ε (List γ)} {values : List (List γ)}
    (given : items.mapM judge = .ok values) (c : γ) :
    c ∈ values.flatten ↔ ∃ a ∈ items, ∃ value, judge a = .ok value ∧ c ∈ value := by
  induction items generalizing values with
  | nil =>
      obtain rfl := Except.ok.inj given
      simp
  | cons item rest ih =>
      obtain ⟨first, others, judged, more, rfl⟩ := mapM_cons_eq_ok given
      rw [List.flatten_cons, List.mem_append, ih more]
      constructor
      · rintro (member | ⟨a, listed, found⟩)
        · exact ⟨item, List.mem_cons_self, first, judged, member⟩
        · exact ⟨a, List.mem_cons_of_mem _ listed, found⟩
      · rintro ⟨a, listed, value, found, member⟩
        rcases List.mem_cons.mp listed with rfl | listed
        · obtain rfl := Except.ok.inj (judged.symm.trans found)
          exact .inl member
        · exact .inr ⟨a, listed, value, found, member⟩

theorem eq_filterMap_of_mapM (given : items.mapM judge = .ok values) :
    values = items.filterMap fun a => (judge a).toOption := by
  induction items generalizing values with
  | nil => exact (Except.ok.inj given).symm
  | cons item rest ih =>
      obtain ⟨first, others, judged, more, rfl⟩ := mapM_cons_eq_ok given
      rw [List.filterMap_cons, judged, ih more]
      rfl

theorem mem_mapM_iff (given : items.mapM judge = .ok values) (v : β) :
    v ∈ values ↔ ∃ a ∈ items, judge a = .ok v := by
  refine ⟨mem_of_mapM given v, ?_⟩
  rintro ⟨a, member, judged⟩
  rw [eq_filterMap_of_mapM given, List.mem_filterMap]
  exact ⟨a, member, by rw [judged]; rfl⟩

theorem mapM_map {γ : Type} {f : γ → α} {g : γ → β} {listed : List γ}
    (judged : ∀ c ∈ listed, judge (f c) = .ok (g c)) :
    (listed.map f).mapM judge = .ok (listed.map g) := by
  induction listed with
  | nil => rfl
  | cons c rest ih =>
      obtain ⟨first, others⟩ := List.forall_mem_cons.mp judged
      rw [List.map_cons, List.mapM_cons, first, ih others]
      rfl

/-- **Rearranged items have rearranged values.** -/
theorem mapM_perm {others : List α} (perm : items.Perm others)
    (given : items.mapM judge = .ok values) :
    ∃ rearranged, others.mapM judge = .ok rearranged ∧ values.Perm rearranged := by
  obtain ⟨rearranged, given'⟩ := exists_mapM_of_passes fun a member =>
    passes_of_mapM given a (perm.mem_iff.mpr member)
  refine ⟨rearranged, given', ?_⟩
  rw [eq_filterMap_of_mapM given, eq_filterMap_of_mapM given']
  exact perm.filterMap _

end

/-! ## The failure -/

/-- The failure of a computation, if it has one. -/
def failure? : Except ε α → Option ε
  | .ok _ => none
  | .error failure => some failure

theorem failure?_eq_some_iff {given : Except ε α} {failure : ε} :
    failure? given = some failure ↔ given = .error failure := by
  cases given <;> simp [failure?]

theorem failure?_eq_none_iff {given : Except ε α} :
    failure? given = none ↔ ∃ value, given = .ok value := by
  cases given <;> simp [failure?]

theorem failure?_map {given : Except ε α} {f : α → β} :
    failure? (given.map f) = failure? given := by
  cases given <;> rfl

/-- A sequence fails as its first part or, if this gives a value, as what follows. -/
theorem failure?_bind {first : Except ε α} {next : α → Except ε β} {later : Option ε}
    (follows : ∀ value, first = .ok value → failure? (next value) = later) :
    failure? (first >>= next) = (failure? first).or later := by
  cases first with
  | error failure => rfl
  | ok value => exact follows value rfl

/-! ## Failures of one sort -/

/-- There is a failure, and it is of this sort. -/
def FailsWith (sort : ε → Prop) (given : Except ε α) : Prop :=
  ∃ failure, given = .error failure ∧ sort failure

section

variable {sort : ε → Prop}

@[simp] theorem failsWith_error {failure : ε} :
    FailsWith sort (.error failure : Except ε α) ↔ sort failure := by
  constructor
  · rintro ⟨other, same, ofSort⟩
    exact Except.error.inj same ▸ ofSort
  · exact fun ofSort => ⟨failure, rfl, ofSort⟩

@[simp] theorem not_failsWith_ok {value : α} : ¬ FailsWith sort (.ok value) := by
  rintro ⟨failure, same, -⟩
  cases same

theorem failsWith_bind {first : Except ε α} {next : α → Except ε β} :
    FailsWith sort (first >>= next) ↔
      FailsWith sort first ∨ ∃ value, first = .ok value ∧ FailsWith sort (next value) := by
  cases first with
  | error failure =>
      rw [failsWith_error]
      exact ⟨fun fails => .inl (failsWith_error.mp fails),
        fun fails => failsWith_error.mpr (fails.resolve_right nofun)⟩
  | ok value => simp

theorem failsWith_map {given : Except ε α} {f : α → β} :
    FailsWith sort (given.map f) ↔ FailsWith sort given := by
  cases given with
  | error failure => exact failsWith_error.trans failsWith_error.symm
  | ok value => exact iff_of_false not_failsWith_ok not_failsWith_ok

theorem failsWith_mapError {ε' : Type} {given : Except ε' α} {f : ε' → ε} :
    FailsWith sort (given.mapError f) ↔ FailsWith (fun failure => sort (f failure)) given := by
  cases given with
  | error failure =>
      rw [failsWith_error]
      exact failsWith_error
  | ok value => exact iff_of_false not_failsWith_ok not_failsWith_ok

/-- A list fails as the first of its items that does not pass. -/
theorem failsWith_mapM {judge : α → Except ε β} {items : List α} :
    FailsWith sort (items.mapM judge) ↔ ∃ before item after, items = before ++ item :: after ∧
      (∀ a ∈ before, Passes judge a) ∧ FailsWith sort (judge item) := by
  constructor
  · intro fails
    induction items with
    | nil => exact absurd fails not_failsWith_ok
    | cons item rest ih =>
        rw [List.mapM_cons, failsWith_bind] at fails
        rcases fails with first | ⟨value, passes, later⟩
        · exact ⟨[], item, rest, rfl, nofun, first⟩
        · rw [failsWith_bind] at later
          have later := later.resolve_right fun ⟨_, _, never⟩ => not_failsWith_ok never
          obtain ⟨before, bad, after, rfl, pass, fails⟩ := ih later
          exact ⟨item :: before, bad, after, rfl,
            List.forall_mem_cons.mpr ⟨⟨value, passes⟩, pass⟩, fails⟩
  · rintro ⟨before, item, after, rfl, pass, failure, fails, ofSort⟩
    exact ⟨failure, mapM_of_bad pass fails, ofSort⟩

end

end WorkspacePolicy
