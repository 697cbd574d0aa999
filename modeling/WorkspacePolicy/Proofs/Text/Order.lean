/-
# Proofs.Text.Order — the orders of texts are linear

`Text.le` and `Text.leNames` compare two lists at the first place where they differ. So both
are the dictionary order of a comparison of their letters (`dictionary`), and the dictionary
order is linear where that comparison is (`Linear.dictionary`). Letters are compared by code
point, which tells all characters apart although lone surrogates are kept as other characters
(`codePoint_injective`).

As relations they are the lexicographic order of code points, a text being at most itself
(`le_iff`), and the lexicographic order of texts (`leNames_iff`).

Sorting by a linear order forgets the order in which things come; where only a key is compared
it does so for things that their keys tell apart (`mergeSort_eq_of_perm`). Things that share a
key stay in the order in which they come (`filter_mergeSort`).
-/
import WorkspacePolicy.Text.Order

namespace WorkspacePolicy.Text

set_option autoImplicit false

/-! ## Code points -/

theorem toNat_not_surrogate (c : Char) : isSurrogateCode c.toNat = false := by
  have valid := c.valid
  unfold isSurrogateCode
  rcases valid with below | ⟨above, _⟩
  · simp only [Bool.and_eq_false_imp, decide_eq_true_eq, decide_eq_false_iff_not]
    have : c.toNat < 0xd800 := below
    omega
  · simp only [Bool.and_eq_false_imp, decide_eq_true_eq, decide_eq_false_iff_not]
    have : 0xdfff < c.toNat := above
    omega

theorem codePoint_of_surrogate {c : Char} (lone : isLoneSurrogate c) :
    isSurrogateCode (codePoint c) = true := by
  simp only [codePoint, lone, if_true]
  exact lone

theorem codePoint_of_character {c : Char} (plain : isLoneSurrogate c = false) :
    codePoint c = c.toNat := by
  simp [codePoint, plain]

/-- No two characters stand for the same code point. -/
theorem codePoint_injective {c d : Char} (same : codePoint c = codePoint d) : c = d := by
  cases lone : isLoneSurrogate c <;> cases lone' : isLoneSurrogate d
  · rw [codePoint_of_character lone, codePoint_of_character lone'] at same
    exact Char.toNat_inj.mp same
  · have code := codePoint_of_surrogate lone'
    rw [← same, codePoint_of_character lone, toNat_not_surrogate] at code
    exact absurd code (by decide)
  · have code := codePoint_of_surrogate lone
    rw [same, codePoint_of_character lone', toNat_not_surrogate] at code
    exact absurd code (by decide)
  · simp only [codePoint, lone, lone', if_true] at same
    simp only [isLoneSurrogate, isSurrogateCode, Bool.and_eq_true, decide_eq_true_eq] at lone lone'
    exact Char.toNat_inj.mp (by unfold surrogateShift at *; omega)

/-! ## Dictionary orders -/

variable {α : Type}

/-- A comparison that puts different things into one line. It may, but need not, put a thing
before itself. -/
structure Linear (before : α → α → Bool) : Prop where
  total : ∀ a b, a ≠ b → before a b ∨ before b a
  antisymm : ∀ a b, before a b → before b a → a = b
  trans : ∀ a b c, before a b → before b c → before a c

/-- The first difference decides, and a list comes before every longer list that it begins. -/
def dictionary [DecidableEq α] (before : α → α → Bool) : List α → List α → Bool
  | [], _ => true
  | _ :: _, [] => false
  | a :: as, b :: bs => if a = b then dictionary before as bs else before a b

section

variable [DecidableEq α] {before : α → α → Bool}

theorem dictionary_refl : ∀ as : List α, dictionary before as as
  | [] => rfl
  | a :: as => by
      rw [dictionary, if_pos rfl]
      exact dictionary_refl as

theorem dictionary_total (linear : Linear before) : ∀ as bs : List α,
    dictionary before as bs ∨ dictionary before bs as
  | [], _ => .inl rfl
  | _ :: _, [] => .inr rfl
  | a :: as, b :: bs => by
      by_cases same : a = b
      · subst same
        simpa [dictionary] using dictionary_total linear as bs
      · simpa [dictionary, same, Ne.symm same] using linear.total a b same

theorem dictionary_antisymm (linear : Linear before) : ∀ as bs : List α,
    dictionary before as bs → dictionary before bs as → as = bs
  | [], [], _, _ => rfl
  | [], _ :: _, _, second => absurd second (by simp [dictionary])
  | _ :: _, [], first, _ => absurd first (by simp [dictionary])
  | a :: as, b :: bs, first, second => by
      by_cases same : a = b
      · subst same
        simp only [dictionary, if_true] at first second
        rw [dictionary_antisymm linear as bs first second]
      · simp only [dictionary, same, Ne.symm same, if_false] at first second
        exact absurd (linear.antisymm a b first second) same

theorem dictionary_trans (linear : Linear before) : ∀ as bs cs : List α,
    dictionary before as bs → dictionary before bs cs → dictionary before as cs
  | [], _, _, _, _ => rfl
  | _ :: _, [], _, first, _ => absurd first (by simp [dictionary])
  | _ :: _, _ :: _, [], _, second => absurd second (by simp [dictionary])
  | a :: as, b :: bs, c :: cs, first, second => by
      by_cases left : a = b
      · subst left
        by_cases right : a = c
        · subst right
          simp only [dictionary, if_true] at first second ⊢
          exact dictionary_trans linear as bs cs first second
        · simpa only [dictionary, right, if_false] using second
      · by_cases right : b = c
        · subst right
          simpa only [dictionary, left, if_false] using first
        · simp only [dictionary, left, right, if_false] at first second
          -- Going there and back would make `a` and `b` the same.
          have apart : a ≠ c := by
            rintro rfl
            exact left (linear.antisymm a b first second)
          simpa only [dictionary, apart, if_false] using linear.trans a b c first second

theorem Linear.dictionary (linear : Linear before) : Linear (Text.dictionary before) where
  total as bs _ := dictionary_total linear as bs
  antisymm := dictionary_antisymm linear
  trans := dictionary_trans linear

end

/-! ## Texts and lists of texts -/

theorem leChars_eq_dictionary : ∀ as bs : List Char,
    leChars as bs = dictionary (fun a b => codePoint a < codePoint b) as bs
  | [], _ => rfl
  | _ :: _, [] => rfl
  | a :: as, b :: bs => by
      simp only [leChars, dictionary, leChars_eq_dictionary as bs]

theorem leNames_eq_dictionary : ∀ as bs : List String, leNames as bs = dictionary le as bs
  | [], _ => rfl
  | _ :: _, [] => rfl
  | a :: as, b :: bs => by
      simp only [leNames, dictionary, leNames_eq_dictionary as bs]

theorem linear_codePoint : Linear fun a b : Char => decide (codePoint a < codePoint b) where
  total a b apart := by
    have : codePoint a ≠ codePoint b := fun same => apart (codePoint_injective same)
    simp only [decide_eq_true_eq]
    omega
  antisymm a b first second := by
    simp only [decide_eq_true_eq] at first second
    omega
  trans a b c first second := by
    simp only [decide_eq_true_eq] at first second ⊢
    omega

theorem linear_le : Linear le where
  total a b _ := by
    simp only [le, leChars_eq_dictionary]
    exact dictionary_total linear_codePoint a.toList b.toList
  antisymm a b first second := by
    simp only [le, leChars_eq_dictionary] at first second
    exact String.toList_inj.mp (dictionary_antisymm linear_codePoint _ _ first second)
  trans a b c first second := by
    simp only [le, leChars_eq_dictionary] at first second ⊢
    exact dictionary_trans linear_codePoint _ _ _ first second

theorem leNames_total (as bs : List String) : leNames as bs ∨ leNames bs as := by
  rw [leNames_eq_dictionary, leNames_eq_dictionary]
  exact dictionary_total linear_le as bs

theorem leNames_or (as bs : List String) : (leNames as bs || leNames bs as) = true := by
  simpa only [Bool.or_eq_true] using leNames_total as bs

theorem leNames_antisymm {as bs : List String} (first : leNames as bs) (second : leNames bs as) :
    as = bs := by
  rw [leNames_eq_dictionary] at first second
  exact dictionary_antisymm linear_le as bs first second

theorem leNames_trans {as bs cs : List String} (first : leNames as bs) (second : leNames bs cs) :
    leNames as cs := by
  rw [leNames_eq_dictionary] at first second ⊢
  exact dictionary_trans linear_le as bs cs first second

/-! ## The orders as relations -/

/-- One text comes before another: at the first difference its code point is smaller, or it
ends there. -/
def Precedes (a b : String) : Prop :=
  List.Lex (fun c d => codePoint c < codePoint d) a.toList b.toList

theorem not_precedes_self (a : String) : ¬ Precedes a a := by
  apply List.lex_irrefl
  intro c
  exact Nat.lt_irrefl (codePoint c)

/-- A dictionary order is the lexicographic order of the relation between different letters. -/
theorem dictionary_iff [DecidableEq α] {before : α → α → Bool} {precedes : α → α → Prop}
    (decides : ∀ a b, a ≠ b → (before a b ↔ precedes a b)) (irrefl : ∀ a, ¬ precedes a a) :
    ∀ as bs : List α, dictionary before as bs ↔ as = bs ∨ List.Lex precedes as bs
  | [], [] => by simp [dictionary]
  | [], _ :: _ => by simp [dictionary]
  | _ :: _, [] => by simp [dictionary]
  | a :: as, b :: bs => by
      rw [List.cons_lex_cons_iff]
      by_cases same : a = b
      · subst same
        simp [dictionary, irrefl, dictionary_iff decides irrefl as bs]
      · simp [dictionary, same, decides a b same]

theorem le_iff {a b : String} : le a b ↔ a = b ∨ Precedes a b := by
  have decides : ∀ c d : Char, c ≠ d →
      (decide (codePoint c < codePoint d) ↔ codePoint c < codePoint d) :=
    fun _ _ _ => decide_eq_true_iff
  rw [le, leChars_eq_dictionary, dictionary_iff decides (fun _ => Nat.lt_irrefl _),
    String.toList_inj]
  rfl

theorem leNames_iff {as bs : List String} :
    leNames as bs ↔ as = bs ∨ List.Lex Precedes as bs := by
  have decides : ∀ a b : String, a ≠ b → (le a b ↔ Precedes a b) := by
    intro a b apart
    rw [le_iff, or_iff_right apart]
  rw [leNames_eq_dictionary, dictionary_iff decides not_precedes_self]

/-- The first parts decide unless they agree. -/
theorem leNames_append {rest others : List String} : ∀ {as bs : List String},
    leNames (as ++ rest) (bs ++ others) → as.length = bs.length →
      List.Lex Precedes as bs ∨ as = bs ∧ leNames rest others
  | [], [], ordered, _ => .inr ⟨rfl, ordered⟩
  | a :: as, b :: bs, ordered, alike => by
      by_cases same : a = b
      · subst same
        simp only [List.cons_append, leNames, if_true] at ordered
        rcases leNames_append ordered (Nat.succ.inj alike) with first | ⟨same, later⟩
        · exact .inl (.cons first)
        · exact .inr ⟨congrArg (a :: ·) same, later⟩
      · simp only [List.cons_append, leNames, same, if_false] at ordered
        exact .inl (.rel ((le_iff.mp ordered).resolve_left same))

/-! ## Sorting by a key -/

section

variable {key : α → List String}

theorem pairwise_mergeSort (things : List α) :
    (things.mergeSort fun a b => leNames (key a) (key b)).Pairwise
      (fun a b => leNames (key a) (key b)) := by
  apply List.pairwise_mergeSort
  · exact fun _ _ _ => leNames_trans
  · exact fun a b => leNames_or (key a) (key b)

/-- Things that share a key are sorted into the order in which they come. -/
theorem filter_mergeSort (things : List α) (shared : List String) :
    (things.mergeSort fun a b => leNames (key a) (key b)).filter (fun a => key a = shared) =
      things.filter fun a => key a = shared := by
  -- They are in order as they come, so sorting keeps them as a sublist; and none is added.
  have inOrder : (things.filter fun a => key a = shared).Pairwise
      (fun a b => leNames (key a) (key b)) := by
    refine List.pairwise_of_forall_mem_list ?_
    intro a member b member'
    have ofA : key a = shared := by simpa using (List.mem_filter.mp member).2
    have ofB : key b = shared := by simpa using (List.mem_filter.mp member').2
    rw [ofA, ofB, leNames_iff]
    exact .inl rfl
  have kept : (things.filter fun a => key a = shared).Sublist
      (things.mergeSort fun a b => leNames (key a) (key b)) := by
    refine List.sublist_mergeSort ?_ ?_ inOrder List.filter_sublist
    · exact fun _ _ _ => leNames_trans
    · exact fun a b => leNames_or (key a) (key b)
  have kept := kept.filter fun a => key a = shared
  simp only [List.filter_filter, Bool.and_self] at kept
  exact (kept.eq_of_length ((List.mergeSort_perm things _).filter _).length_eq.symm).symm

/-- A list in order, with the things of another. Those that share a key stand as they do in
that list. -/
structure IsArranged (key : α → List String) (inOrder : α → α → Prop)
    (things arranged : List α) : Prop where
  perm : arranged.Perm things
  ordered : arranged.Pairwise inOrder
  stable : ∀ shared, (arranged.filter fun a => key a = shared) =
    things.filter fun a => key a = shared

theorem isArranged_mergeSort {inOrder : α → α → Prop}
    (reads : ∀ a b, leNames (key a) (key b) → inOrder a b) (things : List α) :
    IsArranged key inOrder things (things.mergeSort fun a b => leNames (key a) (key b)) where
  perm := List.mergeSort_perm things _
  ordered := (pairwise_mergeSort things).imp fun {a b} => reads a b
  stable := filter_mergeSort things

/-- Sorting by keys does not see the order of things that their keys tell apart. -/
theorem mergeSort_eq_of_perm {things others : List α}
    (apart : ∀ a ∈ things, ∀ b ∈ things, key a = key b → a = b) (perm : things.Perm others) :
    things.mergeSort (fun a b => leNames (key a) (key b)) =
      others.mergeSort (fun a b => leNames (key a) (key b)) := by
  refine List.Perm.eq_of_pairwise ?_ (pairwise_mergeSort things) (pairwise_mergeSort others)
    ((List.mergeSort_perm things _).trans (perm.trans (List.mergeSort_perm others _).symm))
  intro a b member member' first second
  rw [List.mem_mergeSort] at member member'
  exact apart a member b (perm.mem_iff.mpr member') (leNames_antisymm first second)

end

end WorkspacePolicy.Text
