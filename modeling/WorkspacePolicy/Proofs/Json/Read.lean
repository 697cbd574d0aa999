/-
# Proofs.Json.Read — what is true of every value that was read

The members of an object are read one by one, and a key that comes again only changes the value
at its place. So every object inside a value that was read holds each of its keys once
(`hasDistinctKeys_of_read`). The digits of a whole number are counted before they are read, so
every number inside has a text (`isWritableNumber_of_read`).

Both are conditions on the values without parts and on the objects that the reader builds
(`HoldsOfParts`). Such a condition holds everywhere inside what is read; the induction is on the
steps of the reader, over values, items and members together (`ReadsOnly`).
-/
import WorkspacePolicy.Proofs.Json.ReadBack

namespace WorkspacePolicy.Json

set_option autoImplicit false

/-! ## Values without parts -/

/-- A value without parts is a truth value, `null` or a number. -/
theorem cases_of_readAtom {options : ReaderOptions} {text rest : List Char} {v : Json}
    (given : readAtom options text = .ok (v, rest)) : v = .null ∨ (∃ b, v = .bool b) ∨
      (∃ x, v = .number (.float x)) ∨ ∃ n, v = .number n ∧ readNumber text = .ok (n, rest) := by
  rw [readAtom] at given
  split at given
  · next found =>
      obtain ⟨rfl, -⟩ := Prod.mk.inj (Except.ok.inj given)
      simp only [matchWord?] at found
      split at found
      · next entry =>
          obtain ⟨-, rfl, -⟩ := by simpa using found
          have listed := List.mem_of_find?_eq_some entry
          simp only [words, List.mem_cons, List.not_mem_nil, or_false, Prod.mk.injEq] at listed
          rcases listed with ⟨-, rfl⟩ | ⟨-, rfl⟩ | ⟨-, rfl⟩
          · exact .inl rfl
          · exact .inr (.inl ⟨true, rfl⟩)
          · exact .inr (.inl ⟨false, rfl⟩)
      · cases found
  · split at given
    · next x _ _ =>
        split at given
        · cases given
        · obtain ⟨rfl, -⟩ := Prod.mk.inj (Except.ok.inj given)
          exact .inr (.inr (.inl ⟨_, rfl⟩))
    · obtain ⟨⟨n, after⟩, read, given⟩ := of_bind_eq_ok given
      obtain ⟨rfl, rfl⟩ := Prod.mk.inj (Except.ok.inj given)
      exact .inr (.inr (.inr ⟨n, rfl, read⟩))

/-- A condition that holds of all that the reader builds without looking into its parts. -/
structure HoldsOfParts (p : Json → Bool) : Prop where
  null : p .null
  bool : ∀ b, p (.bool b)
  float : ∀ x, p (.number (.float x))
  number : ∀ {text rest n}, readNumber text = .ok (n, rest) → p (.number n)
  string : ∀ text, p (.string text)
  array : ∀ items, p (.array items)
  object : ∀ members, p (.object (Entries.ofList members))

variable {p : Json → Bool}

theorem HoldsOfParts.of_readAtom (holds : HoldsOfParts p) {options : ReaderOptions}
    {text rest : List Char} {v : Json} (given : readAtom options text = .ok (v, rest)) :
    v.everywhere p := by
  rcases cases_of_readAtom given with rfl | ⟨b, rfl⟩ | ⟨x, rfl⟩ | ⟨n, rfl, read⟩
  · exact holds.null
  · exact holds.bool b
  · exact holds.float x
  · exact holds.number read

/-! ## Collections -/

/-- The condition holds of what the three readers give within a number of steps. -/
structure ReadsOnly (p : Json → Bool) (options : ReaderOptions) (fuel : Nat) : Prop where
  value : ∀ {text rest v}, readValue options fuel text = .ok (v, rest) → v.everywhere p
  items : ∀ {text rest items}, readItems options fuel text = .ok (items, rest) →
    ∀ t ∈ items, t.everywhere p
  members : ∀ {text rest members}, readMembers options fuel text = .ok (members, rest) →
    ∀ m ∈ members, m.2.everywhere p

section

variable {options : ReaderOptions} {fuel : Nat}

theorem ReadsOnly.next_value (holds : HoldsOfParts p) (before : ReadsOnly p options fuel)
    {text rest : List Char} {v : Json} (given : readValue options (fuel + 1) text = .ok (v, rest)) :
    v.everywhere p := by
  rw [readValue.eq_def] at given
  dsimp only at given
  split at given
  · obtain ⟨⟨s, after⟩, -, given⟩ := of_bind_eq_ok given
    obtain ⟨rfl, -⟩ := Prod.mk.inj (Except.ok.inj given)
    exact holds.string s
  · split at given
    · obtain ⟨rfl, -⟩ := Prod.mk.inj (Except.ok.inj given)
      exact everywhere_array (holds.array []) (List.forall_mem_nil _)
    · obtain ⟨⟨items, after⟩, read, given⟩ := of_bind_eq_ok given
      obtain ⟨rfl, -⟩ := Prod.mk.inj (Except.ok.inj given)
      exact everywhere_array (holds.array items) (before.items read)
  · split at given
    · obtain ⟨rfl, -⟩ := Prod.mk.inj (Except.ok.inj given)
      exact everywhere_object (holds.object []) (List.forall_mem_nil _)
    · obtain ⟨⟨members, after⟩, read, given⟩ := of_bind_eq_ok given
      obtain ⟨rfl, -⟩ := Prod.mk.inj (Except.ok.inj given)
      refine everywhere_object (holds.object members) fun m member => ?_
      exact before.members read m (Entries.mem_of_mem_ofList member)
  · exact holds.of_readAtom given

theorem ReadsOnly.next_items (before : ReadsOnly p options fuel) {text rest : List Char}
    {items : List Json} (given : readItems options (fuel + 1) text = .ok (items, rest)) :
    ∀ t ∈ items, t.everywhere p := by
  rw [readItems] at given
  obtain ⟨⟨item, after⟩, first, given⟩ := of_bind_eq_ok given
  have here := before.value first
  dsimp only at given
  split at given
  · obtain ⟨rfl, -⟩ := Prod.mk.inj (Except.ok.inj given)
    exact List.forall_mem_singleton.mpr here
  · obtain ⟨⟨others, last⟩, read, given⟩ := of_bind_eq_ok given
    obtain ⟨rfl, -⟩ := Prod.mk.inj (Except.ok.inj given)
    exact List.forall_mem_cons.mpr ⟨here, before.items read⟩
  · cases given

theorem ReadsOnly.next_members (before : ReadsOnly p options fuel) {text rest : List Char}
    {members : List (String × Json)}
    (given : readMembers options (fuel + 1) text = .ok (members, rest)) :
    ∀ m ∈ members, m.2.everywhere p := by
  rw [readMembers.eq_def] at given
  dsimp only at given
  split at given
  · obtain ⟨⟨key, afterKey⟩, -, given⟩ := of_bind_eq_ok given
    dsimp only at given
    split at given
    · obtain ⟨⟨value, afterValue⟩, first, given⟩ := of_bind_eq_ok given
      have here := before.value first
      dsimp only at given
      split at given
      · obtain ⟨rfl, -⟩ := Prod.mk.inj (Except.ok.inj given)
        exact List.forall_mem_singleton.mpr here
      · obtain ⟨⟨others, last⟩, read, given⟩ := of_bind_eq_ok given
        obtain ⟨rfl, -⟩ := Prod.mk.inj (Except.ok.inj given)
        exact List.forall_mem_cons.mpr ⟨here, before.members read⟩
      · cases given
    · cases given
  · cases given

end

theorem HoldsOfParts.readsOnly (holds : HoldsOfParts p) (options : ReaderOptions) (fuel : Nat) :
    ReadsOnly p options fuel := by
  induction fuel with
  | zero => constructor <;> intro _ _ _ given <;> cases given
  | succ fuel ih => exact ⟨ih.next_value holds, ih.next_items, ih.next_members⟩

theorem HoldsOfParts.of_read (holds : HoldsOfParts p) {strict : Bool} {text : String} {v : Json}
    (given : read strict text = .ok v) : v.everywhere p := by
  simp only [read] at given
  split at given
  · next checked =>
      obtain rfl := Except.ok.inj given
      rw [readChecked.eq_def] at checked
      split at checked
      · cases checked
      · obtain ⟨⟨value, rest⟩, read, checked⟩ := of_bind_eq_ok checked
        dsimp only at checked
        split at checked
        · obtain rfl := Except.ok.inj checked
          exact (holds.readsOnly ⟨strict⟩ _).value read
        · cases checked
  all_goals cases given

/-! ## Keys and numbers -/

/-- **A value that was read holds every key once.** -/
theorem hasDistinctKeys_of_read {strict : Bool} {text : String} {v : Json}
    (given : read strict text = .ok v) : v.everywhere hasDistinctKeys := by
  refine HoldsOfParts.of_read ⟨rfl, fun _ => rfl, fun _ => rfl, fun _ => rfl, fun _ => rfl,
    fun _ => rfl, fun members => ?_⟩ given
  exact decide_eq_true (Entries.nodup_ofList members)

theorem value_lt {digits : List Char} (areDigits : ∀ c ∈ digits, Decimal.isDigit c) :
    Decimal.value digits < 10 ^ digits.length := by
  induction digits using List.reverseRecOn with
  | nil => exact Nat.one_pos
  | append_singleton digits c ih =>
      obtain ⟨before, last⟩ := List.forall_mem_append.mp areDigits
      have below := ih before
      have isDigit := last c List.mem_cons_self
      simp only [Decimal.isDigit, Bool.and_eq_true, decide_eq_true_eq] at isDigit
      have most : c.toNat ≤ '9'.toNat := isDigit.2
      have worth : Decimal.value [c] ≤ 9 := by
        have single : Decimal.value [c] = c.toNat - '0'.toNat := by simp [Decimal.value]
        rw [single]
        exact Nat.sub_le_of_le_add most
      rw [Decimal.value_append, List.length_append, List.length_singleton, Nat.pow_succ]
      omega

theorem value_lt_of_length_le {digits : List Char} {limit : Nat}
    (areDigits : ∀ c ∈ digits, Decimal.isDigit c) (short : digits.length ≤ limit) :
    Decimal.value digits < Nat.pow 10 limit :=
  (value_lt areDigits).trans_le (Nat.pow_le_pow_right (by decide) short)

theorem whole_scanAfterWhole (whole rest : List Char) :
    (Decimal.scanAfterWhole whole rest).1.whole = whole := by
  simp only [Decimal.scanAfterWhole]
  split <;> rfl

theorem isWritable_of_numberOf {negative : Bool} {numeral : Decimal.Numeral} {n : Number}
    (areDigits : ∀ c ∈ numeral.whole, Decimal.isDigit c)
    (given : numberOf negative numeral = .ok n) : n.isWritable := by
  rw [numberOf] at given
  split at given
  · split at given
    · cases given
    · next short =>
        obtain rfl := Except.ok.inj given
        have below := value_lt_of_length_le areDigits (Nat.not_lt.mp short)
        simp only [Number.isWritable, decide_eq_true_eq]
        cases negative <;> simpa only [Bool.false_eq_true, ↓reduceIte, Int.natAbs_neg,
          Int.natAbs_natCast] using below
  · obtain rfl := Except.ok.inj given
    rfl

theorem isWritable_of_readNumber {text rest : List Char} {n : Number}
    (given : readNumber text = .ok (n, rest)) : n.isWritable := by
  have scanned {negative : Bool} {whole more : List Char}
      (areDigits : ∀ c ∈ whole, Decimal.isDigit c) (given : (do
        return (← numberOf negative (Decimal.scanAfterWhole whole more).1,
          (Decimal.scanAfterWhole whole more).2)) = (Except.ok (n, rest) : Except Fault _)) :
      n.isWritable := by
    obtain ⟨number, read, given⟩ := of_bind_eq_ok given
    obtain ⟨rfl, -⟩ := Prod.mk.inj (Except.ok.inj given)
    refine isWritable_of_numberOf ?_ read
    rwa [whole_scanAfterWhole]
  simp only [readNumber] at given
  split at given
  · exact scanned (List.forall_mem_singleton.mpr rfl) given
  · split at given
    · cases given
    · next spanned =>
        refine scanned ?_ given
        obtain rfl := (Prod.mk.inj spanned).1
        exact List.all_eq_true.mp List.all_takeWhile

/-- **Every number in a value that was read has a text.** -/
theorem isWritableNumber_of_read {strict : Bool} {text : String} {v : Json}
    (given : read strict text = .ok v) : v.everywhere isWritableNumber :=
  HoldsOfParts.of_read ⟨rfl, fun _ => rfl, fun _ => rfl, isWritable_of_readNumber, fun _ => rfl,
    fun _ => rfl, fun _ => rfl⟩ given

end WorkspacePolicy.Json
