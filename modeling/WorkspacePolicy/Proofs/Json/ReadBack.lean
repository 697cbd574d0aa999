/-
# Proofs.Json.ReadBack — a value is read back from its text

A value whose numbers have a text, and whose objects hold every key once, is read back from its
text in any style that separates, with the members of its objects in their order, as long as its
numbers are finite (`read_of_isFiniteNumber`). In the ASCII styles its texts have to be joined as
well. The text of any other value is refused by a strict reader, for the first word in it that
stands for an infinite double or for no number (`read_of_constant?`).

The induction is on the value. What it carries is that the reader stops exactly at the end of a
value, whatever follows it, or at that first word, and that the number of its steps is bounded by
the length of the text (`ReadsBack`).
-/
import WorkspacePolicy.Proofs.Entries
import WorkspacePolicy.Proofs.Json.Everywhere

namespace WorkspacePolicy.Json

set_option autoImplicit false

/-! ## Readers that refuse a word -/

/-- What reading gives where the first word of this kind is `word`: strict readers refuse it. -/
def reading {α : Type} (options : ReaderOptions) (word : Option String) (value : α) :
    Except Fault α :=
  match word with
  | none => .ok value
  | some word => if options.strict then .error (.constantRefused word) else .ok value

section

variable {α β : Type} {options : ReaderOptions} {word : Option String} {value : α}

theorem reading_of_not_strict (lenient : options.strict = false) :
    reading options word value = .ok value := by
  cases word with
  | none => rfl
  | some word => simp [reading, lenient]

theorem reading_some_of_strict (strict : options.strict) (word : String) :
    reading options (some word) value = .error (.constantRefused word) := by
  simp [reading, strict]

/-- Of two parts that are read one after the other, the first one that is refused decides. -/
theorem reading_bind {next : α → Except Fault β} {result : β} {later : Option String}
    (continues : next value = reading options later result) :
    (reading options word value >>= next) = reading options (word.or later) result := by
  cases word with
  | none => exact continues
  | some word =>
      by_cases strict : options.strict
      · rw [Option.some_or, reading_some_of_strict strict, reading_some_of_strict strict]
        rfl
      -- a reader that is not strict reads the word as the number it stands for
      · have lenient := Bool.eq_false_iff.mpr strict
        rw [reading_of_not_strict lenient] at continues ⊢
        rw [reading_of_not_strict lenient, ok_bind, continues]

theorem reading_bind_ok {next : α → Except Fault β} {result : β}
    (continues : next value = .ok result) :
    (reading options word value >>= next) = reading options word result := by
  have decided : next value = reading options none result := continues
  rw [reading_bind decided, Option.or_none]

end

/-! ## What follows a value -/

/-- What may follow a value: white space, a comma, a closing mark or nothing. -/
def EndsValue (rest : List Char) : Prop :=
  ∀ c ∈ rest.head?, c ∈ [' ', '\t', '\n', '\r', ',', ']', '\x7d']

theorem endsValue_cons {c : Char} (rest : List Char)
    (ends : c ∈ [' ', '\t', '\n', '\r', ',', ']', '\x7d']) : EndsValue (c :: rest) := by
  rintro d same
  rw [List.head?_cons, Option.mem_some] at same
  exact same ▸ ends

theorem EndsValue.endsWhole {rest : List Char} (ends : EndsValue rest) :
    Decimal.EndsWhole rest := by
  intro c first
  have listed := ends c first
  simp only [List.mem_cons, List.not_mem_nil, or_false] at listed
  rcases listed with rfl | rfl | rfl | rfl | rfl | rfl | rfl <;> decide

/-! ## White space of a style -/

/-- White space, of which the reader takes no notice between tokens. -/
def IsBlank (blanks : List Char) : Prop := ∀ c ∈ blanks, isSpace c

theorem skipSpace_append {blanks : List Char} (blank : IsBlank blanks) (rest : List Char) :
    skipSpace (blanks ++ rest) = skipSpace rest :=
  List.dropWhile_append_of_pos blank

theorem IsBlank.endsValue_append {blanks : List Char} (blank : IsBlank blanks) {c : Char}
    (rest : List Char) (ends : c ∈ [' ', '\t', '\n', '\r', ',', ']', '\x7d']) :
    EndsValue (blanks ++ c :: rest) := by
  cases blanks with
  | nil => exact endsValue_cons rest ends
  | cons d blanks =>
      have space := blank d List.mem_cons_self
      simp only [isSpace, Bool.or_eq_true, beq_iff_eq] at space
      exact endsValue_cons _ (by rcases space with ((rfl | rfl) | rfl) | rfl <;> decide)

namespace Style

/-- Items are separated by a comma and a key from its value by a colon, with white space after
them at most. -/
structure Separates (style : Style) : Prop where
  comma : style.itemSeparator = ',' :: style.itemSeparator.tail
  colon : style.keySeparator = ':' :: style.keySeparator.tail
  blankItems : IsBlank style.itemSeparator.tail
  blankKeys : IsBlank style.keySeparator.tail

theorem separates_compact : compact.Separates :=
  ⟨rfl, rfl, by rintro c ⟨⟩, by rintro c ⟨⟩⟩

theorem separates_line : line.Separates :=
  ⟨rfl, rfl, List.forall_mem_singleton.mpr rfl, List.forall_mem_singleton.mpr rfl⟩

theorem separates_indented : indented.Separates :=
  ⟨rfl, rfl, by rintro c ⟨⟩, List.forall_mem_singleton.mpr rfl⟩

/-- The white space before an item at the given depth. -/
def gap (style : Style) (depth : Nat) : List Char :=
  style.itemSeparator.tail ++ style.lineBreak depth

theorem isBlank_lineBreak (style : Style) (depth : Nat) : IsBlank (style.lineBreak depth) := by
  unfold lineBreak
  split
  · rintro c ⟨⟩
  · refine List.forall_mem_cons.mpr ⟨rfl, fun c member => ?_⟩
    exact List.eq_of_mem_replicate member ▸ rfl

theorem Separates.isBlank_gap {style : Style} (separates : style.Separates) (depth : Nat) :
    IsBlank (style.gap depth) :=
  List.forall_mem_append.mpr ⟨separates.blankItems, style.isBlank_lineBreak depth⟩

end Style

/-! ## How a value begins -/

/-- The characters with which the text of a value begins. -/
def beginsValue (c : Char) : Bool :=
  c.isDigit || ['-', '"', '[', '\x7b', 'n', 't', 'f', 'N', 'I'].contains c

theorem ne_of_beginsValue {c d : Char} (begins : beginsValue c) (other : beginsValue d = false) :
    c ≠ d := by
  rintro rfl
  rw [begins] at other
  cases other

theorem skipSpace_of_beginsValue {c : Char} (begins : beginsValue c) (more : List Char) :
    skipSpace (c :: more) = c :: more := by
  have noSpace : isSpace c = false := by
    have other : ∀ d, beginsValue d = false → c ≠ d := fun _ => ne_of_beginsValue begins
    simp [isSpace, other ' ' rfl, other '\t' rfl, other '\n' rfl, other '\r' rfl]
  simp [skipSpace, noSpace]

/-! ## Values without parts -/

/-- A text that begins with a digit, or with a minus sign before one, begins with no word. -/
theorem matchWord?_of_digit {c : Char} (isDigit : c.isDigit) (more : List Char) :
    matchWord? words (c :: more) = none ∧ matchWord? constants (c :: more) = none ∧
      matchWord? words ('-' :: c :: more) = none ∧
        matchWord? constants ('-' :: c :: more) = none := by
  have other : ∀ d : Char, d.isDigit = false → d ≠ c := by
    rintro d noDigit rfl
    exact absurd isDigit (by simp [noDigit])
  simp [matchWord?, words, constants, List.isPrefixOf, other 'n' rfl, other 't' rfl,
    other 'f' rfl, other 'N' rfl, other 'I' rfl, other '-' rfl]

theorem readAtom_of_isFinite (options : ReaderOptions) {n : Number} (short : n.isWritable)
    (finite : n.isFinite) {rest : List Char} (ends : EndsValue rest) :
    readAtom options (n.charsWith .json ++ rest) = .ok (.number n, rest) := by
  have read := readNumber_charsWith short finite ends.endsWhole
  obtain ⟨c, more, isDigit, text | text⟩ := n.head_charsWith finite
  · obtain ⟨noWord, noConstant, -, -⟩ := matchWord?_of_digit isDigit (more ++ rest)
    simp only [text, List.cons_append] at read ⊢
    simp only [readAtom, noWord, noConstant, read]
    rfl
  · obtain ⟨-, -, noWord, noConstant⟩ := matchWord?_of_digit isDigit (more ++ rest)
    simp only [text, List.cons_append] at read ⊢
    simp only [readAtom, noWord, noConstant, read]
    rfl

theorem cases_of_not_isFinite {x : Binary64} (notFinite : x.isFinite = false) :
    x = .nan ∨ x = .infinite false ∨ x = .infinite true := by
  cases x with
  | nan => exact .inl rfl
  | signed negative rank =>
      have infinite : rank = Fin.last _ := by
        have above := of_decide_eq_false notFinite
        have below := rank.isLt
        rw [Fin.ext_iff, Fin.val_last]
        omega
      subst infinite
      cases negative with
      | false => exact .inr (.inl rfl)
      | true => exact .inr (.inr rfl)

/-- The three words that stand for a double are read as it, or refused. -/
theorem readAtom_of_not_isFinite (options : ReaderOptions) {x : Binary64}
    (notFinite : x.isFinite = false) (rest : List Char) :
    readAtom options (FloatLayout.json.chars x ++ rest) =
      reading options (some (String.ofList (FloatLayout.json.chars x)))
        (.number (.float x), rest) := by
  rcases cases_of_not_isFinite notFinite with rfl | rfl | rfl <;> rfl

theorem readAtom_number (options : ReaderOptions) {n : Number} (short : n.isWritable)
    {rest : List Char} (ends : EndsValue rest) :
    readAtom options (n.charsWith .json ++ rest) =
      reading options (constant? (.number n)) (.number n, rest) := by
  by_cases finite : n.isFinite
  · simp only [constant?, finite, ↓reduceIte]
    exact readAtom_of_isFinite options short finite ends
  · cases n with
    | int i => exact absurd rfl finite
    | float x =>
        simp only [constant?, finite]
        exact readAtom_of_not_isFinite options (Bool.eq_false_iff.mpr finite) rest

/-- A text that begins like neither a text nor a collection is an atom. -/
theorem readValue_eq_readAtom (options : ReaderOptions) (fuel : Nat) {c : Char}
    (noText : c ≠ '"') (noArray : c ≠ '[') (noObject : c ≠ '\x7b') (more : List Char) :
    readValue options (fuel + 1) (c :: more) = readAtom options (c :: more) := by
  simp [readValue, noText, noArray, noObject]

/-- The characters with which the text of a number begins. -/
def beginsNumber (c : Char) : Bool :=
  c.isDigit || ['-', 'N', 'I'].contains c

theorem beginsValue_of_beginsNumber {c : Char} (begins : beginsNumber c) : beginsValue c := by
  simp only [beginsNumber, beginsValue, Bool.or_eq_true, List.contains_iff_mem] at begins ⊢
  refine begins.imp_right fun listed => ?_
  simp only [List.mem_cons, List.not_mem_nil, or_false] at listed
  rcases listed with rfl | rfl | rfl <;> decide

theorem exists_head_charsWith (n : Number) :
    ∃ c more, n.charsWith .json = c :: more ∧ beginsNumber c := by
  by_cases finite : n.isFinite
  · obtain ⟨c, more, isDigit, text | text⟩ := n.head_charsWith finite
    · exact ⟨c, more, text, by simp [beginsNumber, isDigit]⟩
    · exact ⟨'-', c :: more, text, rfl⟩
  · cases n with
    | int i => exact absurd rfl finite
    | float x =>
        rcases cases_of_not_isFinite (Bool.eq_false_iff.mpr finite) with rfl | rfl | rfl
        · exact ⟨'N', _, rfl, rfl⟩
        · exact ⟨'I', _, rfl, rfl⟩
        · exact ⟨'-', _, rfl, rfl⟩

theorem readValue_number (options : ReaderOptions) (fuel : Nat) {n : Number}
    (short : n.isWritable) {rest : List Char} (ends : EndsValue rest) :
    readValue options (fuel + 1) (n.charsWith .json ++ rest) =
      reading options (constant? (.number n)) (.number n, rest) := by
  have read := readAtom_number options short ends
  obtain ⟨c, more, text, begins⟩ := exists_head_charsWith n
  have other : ∀ d : Char, beginsNumber d = false → c ≠ d := by
    rintro d others rfl
    exact absurd begins (by simp [others])
  rw [text, List.cons_append] at read ⊢
  rw [readValue_eq_readAtom options fuel (other '"' rfl) (other '[' rfl) (other '\x7b' rfl), read]

theorem readValue_stringChars (options : ReaderOptions) (fuel : Nat) (ascii : Bool)
    {text : String} (joined : ascii → isJoined text.toList) (rest : List Char) :
    readValue options (fuel + 1) (stringChars ascii text ++ rest) = .ok (.string text, rest) := by
  have read := readString_body ascii joined rest
  simp only [stringChars, List.cons_append, List.append_assoc, List.nil_append, readValue, read]
  rfl

/-! ## Collections -/

variable {style : Style}

/-- The value is read back from its text in a style, and nothing after it, as far as the reader
takes the words in it. -/
structure ReadsBack (style : Style) (v : Json) : Prop where
  begins : ∀ depth, ∃ c more, charsAt style depth v = c :: more ∧ beginsValue c
  reads : ∀ (options : ReaderOptions) (depth fuel : Nat) (rest : List Char),
    (charsAt style depth v).length ≤ fuel → EndsValue rest →
      readValue options fuel (charsAt style depth v ++ rest) =
        reading options v.constant? (v, rest)

theorem ReadsBack.skipSpace_append {v : Json} (readsBack : ReadsBack style v) (depth : Nat)
    {blanks : List Char} (blank : IsBlank blanks) (rest : List Char) :
    skipSpace (blanks ++ (charsAt style depth v ++ rest)) = charsAt style depth v ++ rest := by
  obtain ⟨c, more, text, begins⟩ := readsBack.begins depth
  rw [Json.skipSpace_append blank, text, List.cons_append, skipSpace_of_beginsValue begins]

theorem ReadsBack.length_pos {v : Json} (readsBack : ReadsBack style v) (depth : Nat) :
    0 < (charsAt style depth v).length := by
  obtain ⟨c, more, text, -⟩ := readsBack.begins depth
  rw [text]
  exact Nat.succ_pos _

namespace Style.Separates

variable (separates : style.Separates)

include separates

theorem itemChars_cons (depth : Nat) (item : Json) (items : List Json) :
    itemChars style depth (item :: items) =
      ',' :: (style.gap depth ++ (charsAt style depth item ++ itemChars style depth items)) := by
  rw [itemChars, separates.comma]
  simp [gap]

theorem memberChars_cons (depth : Nat) (key : String) (value : Json)
    (members : List (String × Json)) :
    memberChars style depth ((key, value) :: members) =
      ',' :: (style.gap depth ++ (stringChars style.asciiOnly key ++ ':' ::
        (style.keySeparator.tail ++ (charsAt style depth value ++
          memberChars style depth members)))) := by
  rw [memberChars, separates.comma, separates.colon]
  simp [gap]

theorem charsAt_object (depth : Nat) (key : String) (value : Json)
    (members : List (String × Json)) :
    charsAt style depth (.object ((key, value) :: members)) =
      '\x7b' :: (style.lineBreak (depth + 1) ++ (stringChars style.asciiOnly key ++ ':' ::
        (style.keySeparator.tail ++ (charsAt style (depth + 1) value ++
          (memberChars style (depth + 1) members ++ (style.lineBreak depth ++ ['\x7d'])))))) := by
  rw [charsAt, separates.colon]
  simp

theorem endsValue_itemChars (depth : Nat) (items : List Json) {blanks : List Char}
    (blank : IsBlank blanks) (rest : List Char) :
    EndsValue (itemChars style depth items ++ (blanks ++ ']' :: rest)) := by
  cases items with
  | nil => exact blank.endsValue_append rest (by decide)
  | cons item items =>
      rw [separates.itemChars_cons]
      exact endsValue_cons _ (by decide)

theorem endsValue_memberChars (depth : Nat) (members : List (String × Json)) {blanks : List Char}
    (blank : IsBlank blanks) (rest : List Char) :
    EndsValue (memberChars style depth members ++ (blanks ++ '\x7d' :: rest)) := by
  cases members with
  | nil => exact blank.endsValue_append rest (by decide)
  | cons member members =>
      rw [separates.memberChars_cons]
      exact endsValue_cons _ (by decide)

theorem readItems_itemChars (options : ReaderOptions) (depth fuel : Nat) {item : Json}
    {items : List Json} (each : ∀ t ∈ item :: items, ReadsBack style t)
    (enough : (charsAt style depth item ++ itemChars style depth items).length < fuel)
    {blanks : List Char} (blank : IsBlank blanks) (rest : List Char) :
    readItems options fuel (charsAt style depth item ++
        (itemChars style depth items ++ (blanks ++ ']' :: rest))) =
      reading options (itemsConstant? (item :: items)) (item :: items, rest) := by
  induction items generalizing item fuel with
  | nil =>
      obtain ⟨first, -⟩ := List.forall_mem_cons.mp each
      obtain ⟨fuel, rfl⟩ : ∃ steps, fuel = steps + 1 := ⟨fuel - 1, by omega⟩
      rw [List.length_append] at enough
      have read := first.reads options depth fuel (blanks ++ ']' :: rest) (by omega)
        (blank.endsValue_append rest (by decide))
      rw [itemChars, List.nil_append, readItems, read]
      refine reading_bind ?_
      simp only [Json.skipSpace_append blank]
      rfl
  | cons next items ih =>
      obtain ⟨first, others⟩ := List.forall_mem_cons.mp each
      obtain ⟨following, -⟩ := List.forall_mem_cons.mp others
      obtain ⟨fuel, rfl⟩ : ∃ steps, fuel = steps + 1 := ⟨fuel - 1, by omega⟩
      have positive := first.length_pos depth
      have ends := separates.endsValue_itemChars depth (next :: items) blank rest
      rw [separates.itemChars_cons] at enough ends ⊢
      simp only [List.length_append, List.length_cons] at enough
      have read := first.reads options depth fuel _ (by omega) ends
      have later := ih fuel others (by rw [List.length_append]; omega)
      have comma (more : List Char) : skipSpace (',' :: more) = ',' :: more := rfl
      rw [readItems, read]
      refine reading_bind ?_
      simp only [List.cons_append, List.append_assoc, comma,
        following.skipSpace_append depth (separates.isBlank_gap depth), later]
      exact reading_bind_ok rfl

end Style.Separates

section

variable (options : ReaderOptions) {fuel : Nat} (ascii : Bool) {key : String}
  (joined : ascii → isJoined key.toList) {value : Json} {more after next rest : List Char}
  {members : List (String × Json)} {word later : Option String}

include joined

theorem readMembers_last
    (read : readValue options fuel (skipSpace more) = reading options word (value, after))
    (closes : skipSpace after = '\x7d' :: rest) :
    readMembers options (fuel + 1) (stringChars ascii key ++ ':' :: more) =
      reading options word ([(key, value)], rest) := by
  have colon : skipSpace (':' :: more) = ':' :: more := rfl
  simp only [stringChars, List.cons_append, List.append_assoc, List.nil_append, readMembers,
    readString_body ascii joined, ok_bind, colon, read]
  refine reading_bind_ok ?_
  simp only [closes]
  rfl

theorem readMembers_next
    (read : readValue options fuel (skipSpace more) = reading options word (value, ',' :: next))
    (following : readMembers options fuel (skipSpace next) =
      reading options later (members, rest)) :
    readMembers options (fuel + 1) (stringChars ascii key ++ ':' :: more) =
      reading options (word.or later) ((key, value) :: members, rest) := by
  have colon : skipSpace (':' :: more) = ':' :: more := rfl
  have comma : skipSpace (',' :: next) = ',' :: next := rfl
  simp only [stringChars, List.cons_append, List.append_assoc, List.nil_append, readMembers,
    readString_body ascii joined, ok_bind, colon, read]
  refine reading_bind ?_
  simp only [comma, following]
  exact reading_bind_ok rfl

end

theorem skipSpace_stringChars {blanks : List Char} (blank : IsBlank blanks) (ascii : Bool)
    (text : String) (rest : List Char) :
    skipSpace (blanks ++ (stringChars ascii text ++ rest)) = stringChars ascii text ++ rest := by
  rw [skipSpace_append blank]
  rfl

/-- The members of an object are read back, with joined keys where the style asks for them. -/
theorem Style.Separates.readMembers_memberChars (separates : style.Separates)
    (options : ReaderOptions) (depth fuel : Nat) {key : String} {value : Json}
    {members : List (String × Json)} (first : ReadsBack style value)
    (others : ∀ m ∈ members, ReadsBack style m.2)
    (joined : style.asciiOnly → isJoined key.toList ∧ ∀ m ∈ members, isJoined m.1.toList)
    (enough : (stringChars style.asciiOnly key ++ ':' :: (style.keySeparator.tail ++
      (charsAt style depth value ++ memberChars style depth members))).length < fuel)
    {blanks : List Char} (blank : IsBlank blanks) (rest : List Char) :
    readMembers options fuel (stringChars style.asciiOnly key ++ ':' ::
        (style.keySeparator.tail ++ (charsAt style depth value ++
          (memberChars style depth members ++ (blanks ++ '\x7d' :: rest))))) =
      reading options (membersConstant? ((key, value) :: members))
        ((key, value) :: members, rest) := by
  induction members generalizing key value fuel with
  | nil =>
      obtain ⟨fuel, rfl⟩ : ∃ steps, fuel = steps + 1 := ⟨fuel - 1, by omega⟩
      simp only [List.length_append, List.length_cons] at enough
      have read := first.reads options depth fuel (blanks ++ '\x7d' :: rest) (by omega)
        (blank.endsValue_append rest (by decide))
      rw [← first.skipSpace_append depth separates.blankKeys] at read
      rw [membersConstant?, membersConstant?, Option.or_none]
      refine readMembers_last options style.asciiOnly (fun asked => (joined asked).1) read ?_
      rw [skipSpace_append blank]
      rfl
  | cons member members ih =>
      obtain ⟨nextKey, nextValue⟩ := member
      obtain ⟨following, others⟩ := List.forall_mem_cons.mp others
      obtain ⟨fuel, rfl⟩ : ∃ steps, fuel = steps + 1 := ⟨fuel - 1, by omega⟩
      have ends := separates.endsValue_memberChars depth ((nextKey, nextValue) :: members) blank
        rest
      rw [separates.memberChars_cons] at enough ends ⊢
      simp only [List.length_append, List.length_cons] at enough
      simp only [List.cons_append, List.append_assoc] at ends ⊢
      have read := first.reads options depth fuel _ (by omega) ends
      rw [← first.skipSpace_append depth separates.blankKeys] at read
      refine readMembers_next options style.asciiOnly (fun asked => (joined asked).1) read ?_
      rw [skipSpace_stringChars (separates.isBlank_gap depth)]
      exact ih fuel following others (fun asked => List.forall_mem_cons.mp (joined asked).2)
        (by simp only [List.length_append, List.length_cons]; omega)

theorem readValue_array (options : ReaderOptions) {fuel : Nat} {c : Char}
    {text more rest : List Char} {items : List Json} (start : skipSpace text = c :: more)
    {word : Option String} (begins : beginsValue c)
    (read : readItems options fuel (c :: more) = reading options word (items, rest)) :
    readValue options (fuel + 1) ('[' :: text) = reading options word (.array items, rest) := by
  have noEnd : c ≠ ']' := ne_of_beginsValue begins rfl
  simp only [readValue, start, List.cons.injEq, noEnd, false_and, imp_self, implies_true, read]
  exact reading_bind_ok rfl

theorem readValue_object (options : ReaderOptions) {fuel : Nat} {text more rest : List Char}
    {members : List (String × Json)} {word : Option String} (start : skipSpace text = '"' :: more)
    (read : readMembers options fuel ('"' :: more) = reading options word (members, rest)) :
    readValue options (fuel + 1) ('\x7b' :: text) =
      reading options word (.object (Entries.ofList members), rest) := by
  simp only [readValue, start, List.cons.injEq, Char.reduceEq, false_and, imp_self, implies_true,
    read]
  exact reading_bind_ok rfl

theorem charsAt_array (depth : Nat) (item : Json) (items : List Json) :
    charsAt style depth (.array (item :: items)) =
      '[' :: (style.lineBreak (depth + 1) ++ (charsAt style (depth + 1) item ++
        (itemChars style (depth + 1) items ++ (style.lineBreak depth ++ [']'])))) := by
  simp [charsAt]

theorem readsBack_array (separates : style.Separates) {items : List Json}
    (each : ∀ t ∈ items, ReadsBack style t) : ReadsBack style (.array items) where
  begins depth := by cases items <;> exact ⟨'[', _, rfl, rfl⟩
  reads options depth fuel rest enough ends := by
    cases items with
    | nil =>
        obtain ⟨fuel, rfl⟩ : ∃ steps, fuel = steps + 1 :=
          ⟨fuel - 1, by simp [charsAt] at enough; omega⟩
        rfl
    | cons item items =>
        rw [charsAt_array] at enough ⊢
        simp only [List.length_append, List.length_cons, List.length_nil] at enough
        obtain ⟨fuel, rfl⟩ : ∃ steps, fuel = steps + 1 := ⟨fuel - 1, by omega⟩
        have read := separates.readItems_itemChars options (depth + 1) fuel each
          (by rw [List.length_append]; omega) (style.isBlank_lineBreak depth) rest
        obtain ⟨first, -⟩ := List.forall_mem_cons.mp each
        obtain ⟨c, more, text, begins⟩ := first.begins (depth + 1)
        have start := first.skipSpace_append (depth + 1) (style.isBlank_lineBreak (depth + 1))
        simp only [text, List.cons_append] at read start
        simp only [text, List.cons_append, List.append_assoc, List.nil_append]
        exact readValue_array options (start _) begins read

theorem readsBack_object (separates : style.Separates) {members : List (String × Json)}
    (distinct : (members.map Prod.fst).Nodup)
    (joined : style.asciiOnly → ∀ m ∈ members, isJoined m.1.toList)
    (each : ∀ m ∈ members, ReadsBack style m.2) : ReadsBack style (.object members) where
  begins depth := by cases members <;> exact ⟨'\x7b', _, rfl, rfl⟩
  reads options depth fuel rest enough ends := by
    cases members with
    | nil =>
        obtain ⟨fuel, rfl⟩ : ∃ steps, fuel = steps + 1 :=
          ⟨fuel - 1, by simp [charsAt] at enough; omega⟩
        rfl
    | cons member members =>
        obtain ⟨key, value⟩ := member
        rw [separates.charsAt_object] at enough ⊢
        simp only [List.length_append, List.length_cons, List.length_nil] at enough
        obtain ⟨fuel, rfl⟩ : ∃ steps, fuel = steps + 1 := ⟨fuel - 1, by omega⟩
        obtain ⟨first, others⟩ := List.forall_mem_cons.mp each
        have read := separates.readMembers_memberChars options (depth + 1) fuel first others
          (fun asked => List.forall_mem_cons.mp (joined asked))
          (by simp only [List.length_append, List.length_cons]; omega)
          (style.isBlank_lineBreak depth) rest
        have start := skipSpace_stringChars (style.isBlank_lineBreak (depth + 1)) style.asciiOnly key
        simp only [List.cons_append, List.append_assoc, List.nil_append]
        rw [readValue_object options (start _) read, Entries.ofList_eq_self distinct, constant?]

/-! ## Whole values -/

/-- A value without parts is read by its own case, in one step. -/
theorem ReadsBack.of_step {v : Json} {c : Char} {more : List Char}
    (text : ∀ depth, charsAt style depth v = c :: more) (begins : beginsValue c)
    (reads : ∀ (options : ReaderOptions) (fuel : Nat) (rest : List Char), EndsValue rest →
      readValue options (fuel + 1) (c :: more ++ rest) = reading options v.constant? (v, rest)) :
    ReadsBack style v where
  begins depth := ⟨c, more, text depth, begins⟩
  reads options depth fuel rest enough ends := by
    rw [text] at enough ⊢
    rw [List.length_cons] at enough
    obtain ⟨fuel, rfl⟩ : ∃ steps, fuel = steps + 1 := ⟨fuel - 1, by omega⟩
    exact reads options fuel rest ends

theorem readsBack_number {n : Number} (short : n.isWritable) : ReadsBack style (.number n) := by
  obtain ⟨c, more, text, begins⟩ := exists_head_charsWith n
  have shape : ∀ depth, charsAt style depth (.number n) = c :: more := fun _ => text
  refine .of_step shape (beginsValue_of_beginsNumber begins) fun options fuel rest ends => ?_
  rw [← text]
  exact readValue_number options fuel short ends

mutual

theorem readsBack_of_everywhere (separates : style.Separates) : ∀ (v : Json),
    v.everywhere isWritableNumber → v.everywhere hasDistinctKeys →
      (style.asciiOnly → v.everywhere hasJoinedTexts) → ReadsBack style v
  | .null => fun _ _ _ => .of_step (fun _ => rfl) rfl fun _ _ _ _ => rfl
  | .bool true => fun _ _ _ => .of_step (fun _ => rfl) rfl fun _ _ _ _ => rfl
  | .bool false => fun _ _ _ => .of_step (fun _ => rfl) rfl fun _ _ _ _ => rfl
  | .number _ => fun short _ _ => readsBack_number short
  | .string text => fun _ _ joined => .of_step (fun _ => rfl) rfl fun options fuel rest _ =>
      readValue_stringChars options fuel style.asciiOnly joined rest
  | .array items => fun short distinct joined => by
      simp only [everywhere, Bool.and_eq_true] at short distinct joined
      exact readsBack_array separates
        (items_readBack separates items short.2 distinct.2 fun asked => (joined asked).2)
  | .object members => fun short distinct joined => by
      simp only [everywhere, Bool.and_eq_true] at short distinct joined
      exact readsBack_object separates (of_decide_eq_true distinct.1)
        (fun asked => List.all_eq_true.mp (joined asked).1)
        (members_readBack separates members short.2 distinct.2 fun asked => (joined asked).2)

theorem items_readBack (separates : style.Separates) : ∀ (items : List Json),
    everyItem isWritableNumber items → everyItem hasDistinctKeys items →
      (style.asciiOnly → everyItem hasJoinedTexts items) → ∀ t ∈ items, ReadsBack style t
  | [] => fun _ _ _ => nofun
  | item :: items => fun short distinct joined => by
      simp only [everyItem, Bool.and_eq_true] at short distinct joined
      exact List.forall_mem_cons.mpr
        ⟨readsBack_of_everywhere separates item short.1 distinct.1 fun asked => (joined asked).1,
          items_readBack separates items short.2 distinct.2 fun asked => (joined asked).2⟩

theorem members_readBack (separates : style.Separates) : ∀ (members : List (String × Json)),
    everyMember isWritableNumber members → everyMember hasDistinctKeys members →
      (style.asciiOnly → everyMember hasJoinedTexts members) →
        ∀ m ∈ members, ReadsBack style m.2
  | [] => fun _ _ _ => nofun
  | (_, value) :: members => fun short distinct joined => by
      simp only [everyMember, Bool.and_eq_true] at short distinct joined
      exact List.forall_mem_cons.mpr
        ⟨readsBack_of_everywhere separates value short.1 distinct.1 fun asked => (joined asked).1,
          members_readBack separates members short.2 distinct.2 fun asked => (joined asked).2⟩

end

theorem readChecked_charsAt (separates : style.Separates) (strict : Bool) {v : Json}
    (short : v.everywhere isWritableNumber) (distinct : v.everywhere hasDistinctKeys)
    (joined : style.asciiOnly → v.everywhere hasJoinedTexts) :
    readChecked ⟨strict⟩ (charsAt style 0 v) = reading ⟨strict⟩ v.constant? v := by
  have readsBack := readsBack_of_everywhere separates v short distinct joined
  obtain ⟨c, more, text, begins⟩ := readsBack.begins 0
  have noMark : c ≠ '\ufeff' := ne_of_beginsValue begins rfl
  have value := readsBack.reads ⟨strict⟩ 0 (2 * (c :: more).length + 2) [] (by rw [text]; omega)
    (by rintro d ⟨⟩)
  rw [text, List.append_nil] at value
  have start : skipSpace (c :: more) = c :: more := skipSpace_of_beginsValue begins more
  rw [text, readChecked.eq_def]
  split
  · rename_i marked
    exact absurd (List.cons.inj marked).1 noMark
  · rw [start, value]
    exact reading_bind_ok rfl

/-- **A value of finite numbers is read back from its text in any style that separates**, by a
strict reader as by any other. -/
theorem read_of_isFiniteNumber (separates : style.Separates) (strict : Bool) {v : Json}
    (short : v.everywhere isWritableNumber) (finite : v.everywhere isFiniteNumber)
    (distinct : v.everywhere hasDistinctKeys)
    (joined : style.asciiOnly → v.everywhere hasJoinedTexts) :
    read strict (v.text style) = .ok v := by
  have checked := readChecked_charsAt separates strict short distinct joined
  rw [(constant?_eq_none_iff v).mpr finite] at checked
  simp only [read, Json.text, String.toList_ofList, checked]
  rfl

/-- **A strict reader refuses the text of any other value**, for the first word in it. -/
theorem read_of_constant? (separates : style.Separates) {v : Json} {word : String}
    (short : v.everywhere isWritableNumber) (distinct : v.everywhere hasDistinctKeys)
    (joined : style.asciiOnly → v.everywhere hasJoinedTexts) (first : v.constant? = some word) :
    read true (v.text style) = .error (.constantRefused word) := by
  have checked := readChecked_charsAt separates true short distinct joined
  rw [first, reading_some_of_strict rfl] at checked
  simp only [read, Json.text, String.toList_ofList, checked]

/-- A value of whole numbers is read back from its text in any style that separates. -/
theorem read_textIn (separates : style.Separates) (strict : Bool) {v : Json}
    (whole : v.everywhere isWholeNumber) (distinct : v.everywhere hasDistinctKeys)
    (joined : style.asciiOnly → v.everywhere hasJoinedTexts) :
    read strict (v.text style) = .ok v :=
  read_of_isFiniteNumber separates strict
    (everywhere_mono isWritableNumber_of_isWholeNumber v whole)
    (everywhere_mono isFiniteNumber_of_isWholeNumber v whole) distinct joined

/-- A value is read back from its compact text. -/
theorem read_text (strict : Bool) {v : Json} (whole : v.everywhere isWholeNumber)
    (distinct : v.everywhere hasDistinctKeys) : read strict (v.text .compact) = .ok v :=
  read_textIn Style.separates_compact strict whole distinct nofun

end WorkspacePolicy.Json
