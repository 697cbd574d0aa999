/-
# Proofs.Term.Decodable — terms and clauses are told apart by their text

The text of a term is a prefix code: two texts that go on with a comma, a closing bracket or
parenthesis, or a period are equal only if the terms are equal and what follows is equal
(`chars_append_inj`). The first character tells numbers, strings, lists and named terms
apart, and a name ends at its closing quote or before a parenthesis.

The induction is on the size of a term, because the items of a list stand deeper in it than
its arguments. Variables are left out, since they are written by their bare name, and so are
doubles.

`clauses_injective` is the consequence for program text: a sequence of clauses determines
its facts, one by one and in their order.
-/
import Mathlib.Tactic.SplitIfs
import WorkspacePolicy.Clause
import WorkspacePolicy.Proofs.Term.Items
import WorkspacePolicy.Proofs.Term.Lexeme

namespace WorkspacePolicy

set_option autoImplicit false

namespace Term

/-! ## Terms -/

mutual

/-- The term is built from names, strings and whole numbers. -/
def isPlain : Term → Bool
  | .number (.int _) => true
  | .number (.float _) => false
  | .string _ => true
  | .variable _ => false
  | .compound _ args => arePlain args
termination_by structural t => t

/-- The terms are built from names, strings and whole numbers. -/
def arePlain : List Term → Bool
  | [] => true
  | t :: rest => isPlain t && arePlain rest
termination_by structural terms => terms

end

theorem arePlain_iff (terms : List Term) : arePlain terms ↔ ∀ t ∈ terms, isPlain t := by
  induction terms with
  | nil => simp [arePlain]
  | cons t terms ih => simp [arePlain, ih]

theorem isPlain_ofItems (items : List Term) : isPlain (ofItems items) ↔ ∀ t ∈ items, isPlain t := by
  induction items with
  | nil => simp [nil, atom, isPlain, arePlain]
  | cons item items ih => simp [cell, isPlain, arePlain, ih]

/-- What the first character of a term tells about it. -/
inductive Lead where
  | number
  | string
  | list
  | name
  deriving DecidableEq

namespace Lead

def ofChar? (c : Char) : Option Lead :=
  if c = '"' then some .string
  else if c = '[' then some .list
  else if c = '-' ∨ c.isDigit then some .number
  else if c = '\'' ∨ ('a' ≤ c ∧ c ≤ 'z') then some .name
  else none

end Lead

/-- The kind of text that a term has. -/
def lead : Term → Lead
  | .number _ => .number
  | .string _ => .string
  | .variable _ => .name
  | .compound name args => if (items? (.compound name args)).isSome then .list else .name

theorem lead_ofItems (items : List Term) : (ofItems items).lead = .list := by
  cases items with
  | nil => rfl
  | cons item items =>
      have isList : (items? (cell item (ofItems items))).isSome := by simp
      simp only [cell] at isList
      simp [cell, lead, isList]

theorem lead_compound {name : String} {args : List Term}
    (noList : items? (.compound name args) = none) : lead (.compound name args) = .name := by
  simp [lead, noList]

theorem head_intChars (i : Int) : ∃ c more, Number.intChars i = c :: more ∧
    Lead.ofChar? c = some .number := by
  have digits : ∀ n, ∃ c more, Nat.toDigits 10 n = c :: more ∧ Lead.ofChar? c = some .number := by
    intro n
    cases text : Nat.toDigits 10 n with
    | nil => exact absurd text Nat.toDigits_ne_nil
    | cons c more =>
        have isDigit := Number.isDigit_of_mem_toDigits (n := n) (c := c) (by simp [text])
        have noQuote : c ≠ '"' := by rintro rfl; exact absurd isDigit (by decide)
        have noBracket : c ≠ '[' := by rintro rfl; exact absurd isDigit (by decide)
        exact ⟨c, more, rfl, by simp [Lead.ofChar?, noQuote, noBracket, isDigit]⟩
  match i with
  | .ofNat n => exact digits n
  | .negSucc n => exact ⟨'-', _, rfl, by decide⟩

theorem head_functorChars (name : String) : ∃ c more, functorChars name = c :: more ∧
    Lead.ofChar? c = some .name := by
  unfold functorChars
  split_ifs with bare
  · obtain ⟨c, more, text, lower, upper⟩ := exists_head_of_isBareName bare
    have outside : ∀ d : Char, d < 'a' → c ≠ d := by
      rintro d below rfl
      exact absurd lower (by simpa using below)
    refine ⟨c, more, text, ?_⟩
    have noDigit : c.isDigit = false := by
      simp only [Char.isDigit, Bool.and_eq_false_imp, decide_eq_true_eq, decide_eq_false_iff_not]
      intro _ small
      have := UInt32.le_iff_toNat_le.mp lower
      have := UInt32.le_iff_toNat_le.mp small
      simp at *
      omega
    simp [Lead.ofChar?, outside '"' (by decide), outside '[' (by decide), outside '-' (by decide),
      noDigit, lower, upper]
  · exact ⟨'\'', _, rfl, by decide⟩

/-- The first character of a term tells its kind. -/
theorem head_chars {t : Term} (plain : t.isPlain) : ∃ c more, t.chars = c :: more ∧
    Lead.ofChar? c = some t.lead := by
  cases Layout.of t with
  | number value =>
      cases value with
      | int i => exact head_intChars i
      | float => exact absurd plain (by simp [isPlain])
  | string text => exact ⟨'"', _, rfl, rfl⟩
  | unbound => exact absurd plain (by simp [isPlain])
  | list items =>
      rw [chars_ofItems, lead_ofItems]
      exact ⟨'[', _, rfl, by decide⟩
  | compound name args noList =>
      rw [lead_compound noList]
      cases args with
      | nil =>
          rw [chars_atom noList]
          exact ⟨'\'', _, rfl, by decide⟩
      | cons arg args =>
          obtain ⟨c, more, text, isName⟩ := head_functorChars name
          rw [chars_compound noList, text]
          exact ⟨c, _, rfl, isName⟩

/-- What may follow a term: a comma, a closing mark, a period or nothing. -/
def Follows (rest : List Char) : Prop := ∀ c ∈ rest.head?, c ∈ [',', ')', ']', '.']

theorem follows_cons {c : Char} (rest : List Char) (follows : c ∈ [',', ')', ']', '.']) :
    Follows (c :: rest) := by
  rintro d same
  rw [List.head?_cons, Option.mem_some] at same
  exact same ▸ follows

theorem Follows.head_ne {rest : List Char} (follows : Follows rest) {c : Char} (more : List Char)
    (other : c ∉ [',', ')', ']', '.']) : rest ≠ c :: more := by
  rintro rfl
  exact other (follows c rfl)

theorem Follows.no_digit {rest : List Char} (follows : Follows rest) :
    ∀ c ∈ rest.head?, c.isDigit = false := by
  intro c member
  have := follows c member
  simp only [List.mem_cons, List.not_mem_nil, or_false] at this
  rcases this with rfl | rfl | rfl | rfl <;> decide

/-- The text of the term can be cancelled in front of anything that may follow it. -/
def Decodes (t : Term) : Prop :=
  ∀ (u : Term) (rest rest' : List Char), u.isPlain → Follows rest → Follows rest' →
    t.chars ++ rest = u.chars ++ rest' → t = u ∧ rest = rest'

theorem lead_eq {t u : Term} (plain : t.isPlain) (plain' : u.isPlain) {rest rest' : List Char}
    (same : t.chars ++ rest = u.chars ++ rest') : t.lead = u.lead := by
  obtain ⟨c, more, text, lead⟩ := head_chars plain
  obtain ⟨d, more', text', lead'⟩ := head_chars plain'
  rw [text, text'] at same
  obtain ⟨rfl, -⟩ := List.cons.inj same
  exact Option.some.inj (lead.symm.trans lead')

/-- A term does not begin like the end of the list or of the arguments that it stands in. -/
theorem chars_ne_close {t : Term} (plain : t.isPlain) {stop : Char}
    (close : stop = ')' ∨ stop = ']') (rest rest' : List Char) :
    t.chars ++ rest ≠ stop :: rest' := by
  obtain ⟨c, more, text, lead⟩ := head_chars plain
  rw [text]
  intro same
  obtain ⟨rfl, -⟩ := List.cons.inj same
  rcases close with rfl | rfl <;> exact absurd lead (by simp [Lead.ofChar?])

theorem follows_argChars {stop : Char} (close : stop = ')' ∨ stop = ']') (terms : List Term)
    (rest : List Char) : Follows (argChars terms ++ stop :: rest) := by
  cases terms with
  | nil => exact follows_cons rest (by rcases close with rfl | rfl <;> decide)
  | cons t terms => exact follows_cons _ (by decide)

theorem argChars_append_inj {stop : Char} (close : stop = ')' ∨ stop = ']') :
    ∀ {terms others : List Term} {rest rest' : List Char}, (∀ t ∈ terms, Decodes t) →
      (∀ u ∈ others, u.isPlain) →
      argChars terms ++ stop :: rest = argChars others ++ stop :: rest' →
      terms = others ∧ rest = rest'
  | [], [], _, _, _, _, same => ⟨rfl, (List.cons.inj same).2⟩
  -- The shorter list ends with its closing mark where the longer one goes on with a comma.
  | [], u :: others, _, _, _, _, same => by
      have comma := (List.cons.inj same).1
      rcases close with rfl | rfl <;> exact absurd comma (by decide)
  | t :: terms, [], _, _, _, _, same => by
      have comma := (List.cons.inj same).1
      rcases close with rfl | rfl <;> exact absurd comma (by decide)
  | t :: terms, u :: others, rest, rest', decodes, plain, same => by
      simp only [argChars, List.cons_append, List.append_assoc, List.cons.injEq, true_and] at same
      obtain ⟨decodesFirst, decodesLater⟩ := List.forall_mem_cons.mp decodes
      obtain ⟨plainFirst, plainLater⟩ := List.forall_mem_cons.mp plain
      obtain ⟨rfl, tails⟩ := decodesFirst u _ _ plainFirst (follows_argChars close _ _)
        (follows_argChars close _ _) same
      obtain ⟨rfl, rests⟩ := argChars_append_inj close decodesLater plainLater tails
      exact ⟨rfl, rests⟩

theorem itemChars_append_inj {stop : Char} (close : stop = ')' ∨ stop = ']')
    {terms others : List Term} {rest rest' : List Char} (decodes : ∀ t ∈ terms, Decodes t)
    (plain : ∀ t ∈ terms, t.isPlain) (plain' : ∀ u ∈ others, u.isPlain)
    (same : itemChars terms ++ stop :: rest = itemChars others ++ stop :: rest') :
    terms = others ∧ rest = rest' := by
  match terms, others with
  | [], [] => exact ⟨rfl, (List.cons.inj same).2⟩
  | [], u :: others =>
      simp only [itemChars, List.nil_append, List.append_assoc] at same
      exact absurd same.symm (chars_ne_close (plain' u List.mem_cons_self) close _ _)
  | t :: terms, [] =>
      simp only [itemChars, List.nil_append, List.append_assoc] at same
      exact absurd same (chars_ne_close (plain t List.mem_cons_self) close _ _)
  | t :: terms, u :: others =>
      simp only [itemChars, List.append_assoc] at same
      obtain ⟨decodesFirst, decodesLater⟩ := List.forall_mem_cons.mp decodes
      obtain ⟨plainFirst, plainLater⟩ := List.forall_mem_cons.mp plain'
      obtain ⟨rfl, tails⟩ := decodesFirst u _ _ plainFirst (follows_argChars close _ _)
        (follows_argChars close _ _) same
      obtain ⟨rfl, rests⟩ := argChars_append_inj close decodesLater plainLater tails
      exact ⟨rfl, rests⟩

/-! ## One case for each layout -/

theorem decodes_int (i : Int) : Decodes (.number (.int i)) := by
  intro u rest rest' plain follows follows' same
  have leads := lead_eq (t := .number (.int i)) rfl plain same
  match u, plain with
  | .number (.int j), _ =>
      obtain ⟨rfl, rests⟩ := Number.intChars_append_inj follows.no_digit follows'.no_digit same
      exact ⟨rfl, rests⟩
  | .string _, _ => exact absurd leads (by simp [lead])
  | .compound _ _, _ =>
      simp only [lead] at leads
      split at leads <;> exact absurd leads (by simp)

theorem decodes_string (text : String) : Decodes (.string text) := by
  intro u rest rest' plain follows follows' same
  have leads := lead_eq (t := .string text) rfl plain same
  match u, plain with
  | .string other, _ =>
      have bodies : text.toList.flatMap stringChar ++ '"' :: rest =
          other.toList.flatMap stringChar ++ '"' :: rest' := by
        simpa [chars, stringChars] using same
      obtain ⟨texts, rests⟩ := stringBody_append_inj bodies
      exact ⟨by rw [String.toList_inj.mp texts], rests⟩
  | .number (.int _), _ => exact absurd leads (by simp [lead])
  | .compound _ _, _ =>
      simp only [lead] at leads
      split at leads <;> exact absurd leads (by simp)

theorem decodes_ofItems {items : List Term} (decodes : ∀ t ∈ items, Decodes t)
    (plain : ∀ t ∈ items, t.isPlain) : Decodes (ofItems items) := by
  intro u rest rest' plain' follows follows' same
  have leads := lead_eq ((isPlain_ofItems items).mpr plain) plain' same
  rw [lead_ofItems] at leads
  cases Layout.of u with
  | number => exact absurd leads (by simp [lead])
  | string => exact absurd leads (by simp [lead])
  | unbound => exact absurd plain' (by simp [isPlain])
  | compound name args noList => exact absurd leads (by simp [lead_compound noList])
  | list others =>
      simp only [chars_ofItems, List.cons_append, List.append_assoc, List.nil_append,
        List.cons.injEq, true_and] at same
      obtain ⟨rfl, rests⟩ := itemChars_append_inj (.inr rfl) decodes plain
        ((isPlain_ofItems others).mp plain') same
      exact ⟨rfl, rests⟩

theorem decodes_compound {name : String} {args : List Term}
    (noList : items? (.compound name args) = none) (decodes : ∀ t ∈ args, Decodes t)
    (plain : ∀ t ∈ args, t.isPlain) : Decodes (.compound name args) := by
  intro u rest rest' plain' follows follows' same
  have leads := lead_eq (t := .compound name args) ((arePlain_iff args).mpr plain) plain' same
  rw [lead_compound noList] at leads
  cases Layout.of u with
  | number => exact absurd leads (by simp [lead])
  | string => exact absurd leads (by simp [lead])
  | unbound => exact absurd plain' (by simp [isPlain])
  | list others => exact absurd leads (by simp [lead_ofItems])
  | compound other others noList' =>
      have othersPlain := (arePlain_iff others).mp plain'
      have noParenthesis : '(' ∉ [',', ')', ']', '.'] := by decide
      -- Without arguments a name is always quoted, and no parenthesis may follow it.
      cases args with
      | nil =>
          rw [chars_atom noList] at same
          cases others with
          | nil =>
              rw [chars_atom noList'] at same
              obtain ⟨names, rests⟩ := quoteChars_append_inj same
              exact ⟨by rw [String.toList_inj.mp names], rests⟩
          | cons arg others =>
              simp only [chars_compound noList', List.append_assoc, List.cons_append] at same
              exact absurd (rest_of_quoteChars_eq_functorChars same)
                (follows.head_ne _ noParenthesis)
      | cons arg args =>
          simp only [chars_compound noList, List.append_assoc, List.cons_append,
            List.nil_append] at same
          cases others with
          | nil =>
              rw [chars_atom noList'] at same
              exact absurd (rest_of_quoteChars_eq_functorChars same.symm)
                (follows'.head_ne _ noParenthesis)
          | cons arg' others =>
              simp only [chars_compound noList', List.append_assoc, List.cons_append,
                List.nil_append] at same
              obtain ⟨rfl, arguments⟩ := functorChars_append_inj same
              obtain ⟨sameArgs, rests⟩ := itemChars_append_inj (.inl rfl) decodes plain
                othersPlain arguments
              exact ⟨by rw [sameArgs], rests⟩

theorem decodes_of_isPlain (t : Term) (plain : t.isPlain) : Decodes t := by
  -- An item of a list stands deeper in its term than an argument does, so the size decreases.
  induction size : sizeOf t using Nat.strongRecOn generalizing t with
  | ind n ih =>
      subst size
      cases Layout.of t with
      | number value =>
          cases value with
          | int i => exact decodes_int i
          | float => exact absurd plain (by simp [isPlain])
      | string text => exact decodes_string text
      | unbound => exact absurd plain (by simp [isPlain])
      | list items =>
          have itemsPlain := (isPlain_ofItems items).mp plain
          exact decodes_ofItems (fun item member =>
            ih _ (sizeOf_lt_of_mem_items member) item (itemsPlain item member) rfl) itemsPlain
      | compound name args noList =>
          have argsPlain := (arePlain_iff args).mp plain
          exact decodes_compound noList (fun arg member =>
            ih _ (sizeOf_lt_of_mem_args member) arg (argsPlain arg member) rfl) argsPlain

/-- **The text of a term is a prefix code.** -/
theorem chars_append_inj {t u : Term} {rest rest' : List Char} (plain : t.isPlain)
    (plain' : u.isPlain) (follows : Follows rest) (follows' : Follows rest')
    (same : t.chars ++ rest = u.chars ++ rest') : t = u ∧ rest = rest' :=
  decodes_of_isPlain t plain u rest rest' plain' follows follows' same

end Term

/-! ## Clauses -/

namespace Clause

theorem chars_append_inj {t u : Term} {rest rest' : List Char} (plain : t.isPlain)
    (plain' : u.isPlain) (same : chars t ++ rest = chars u ++ rest') : t = u ∧ rest = rest' := by
  simp only [chars, List.append_assoc, List.cons_append, List.nil_append] at same
  obtain ⟨rfl, periods⟩ := Term.chars_append_inj plain plain'
    (Term.follows_cons _ (by decide)) (Term.follows_cons _ (by decide)) same
  exact ⟨rfl, (List.cons.inj (List.cons.inj periods).2).2⟩

theorem chars_append_ne_nil (t : Term) (rest : List Char) : chars t ++ rest ≠ [] := by
  simp [chars]

theorem flatMap_chars_injective : ∀ {heads others : List Term}, (∀ t ∈ heads, t.isPlain) →
    (∀ u ∈ others, u.isPlain) → heads.flatMap chars = others.flatMap chars → heads = others
  | [], [], _, _, _ => rfl
  | [], u :: others, _, _, same => absurd same.symm (chars_append_ne_nil u _)
  | t :: heads, [], _, _, same => absurd same (chars_append_ne_nil t _)
  | t :: heads, u :: others, plain, plain', same => by
      obtain ⟨plainFirst, plainLater⟩ := List.forall_mem_cons.mp plain
      obtain ⟨plainFirst', plainLater'⟩ := List.forall_mem_cons.mp plain'
      rw [List.flatMap_cons, List.flatMap_cons] at same
      obtain ⟨rfl, tails⟩ := chars_append_inj plainFirst plainFirst' same
      rw [flatMap_chars_injective plainLater plainLater' tails]

theorem toList_join_text (heads : List Term) :
    (String.join (heads.map text)).toList = heads.flatMap chars := by
  induction heads with
  | nil => rfl
  | cons t heads ih => simp [String.join_cons, text, ih]

/-- **Program text is uniquely decodable.** No content of a name or a string ends a quotation
early, merges two clauses or makes two facts look alike. -/
theorem clauses_injective {heads others : List Term} (plain : ∀ t ∈ heads, t.isPlain)
    (plain' : ∀ u ∈ others, u.isPlain)
    (same : String.join (heads.map text) = String.join (others.map text)) : heads = others := by
  have bodies := congrArg String.toList same
  rw [toList_join_text, toList_join_text] at bodies
  exact flatMap_chars_injective plain plain' bodies

theorem clauses_injective_list :
    [Term.ofItems [.atom "it's", .string "\"."]] =
      [.cell (.atom "it's") (.cell (.string "\".") .nil)] :=
  clauses_injective (by decide) (by decide) rfl

end Clause

end WorkspacePolicy
