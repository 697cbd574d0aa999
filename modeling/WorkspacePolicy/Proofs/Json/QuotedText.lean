/-
# Proofs.Json.QuotedText — texts are read back from JSON text

A quoted text is read back from its escapes up to the closing quote, whatever follows it, be it
escaped outside ASCII or not (`readString_body`).

In ASCII a character beyond the basic plane is written as a pair of surrogates, and a lone
surrogate by itself. So a lone high surrogate that comes right before a lone low one would be read
as one character with it. A text in which this does not happen is joined (`isJoined`); every
Unicode text is, since it holds no lone surrogate (`isJoined_of_isEncodable`).
-/
import Mathlib.Tactic.SplitIfs
import WorkspacePolicy.Json.Reader
import WorkspacePolicy.Json.Writer
import WorkspacePolicy.Proofs.Except
import WorkspacePolicy.Proofs.Text.Order

namespace WorkspacePolicy

set_option autoImplicit false

/-! ## Hexadecimal digits -/

namespace Text

/-- The last digit of a padded number is that of its remainder. -/
theorem hexPadded_succ {width : Nat} (some : 0 < width) (n : Nat) :
    hexPadded (width + 1) n = hexPadded width (n / 16) ++ [(n % 16).digitChar] := by
  by_cases small : n < 16
  · obtain ⟨width, rfl⟩ : ∃ w, width = w + 1 := ⟨width - 1, by omega⟩
    simp [hexPadded, Nat.toDigits_of_lt_base small, Nat.div_eq_of_lt small,
      Nat.mod_eq_of_lt small, List.replicate_succ']
  · have digits : Nat.toDigits 16 n = Nat.toDigits 16 (n / 16) ++ [(n % 16).digitChar] := by
      have joined := Nat.toDigits_append_toDigits (b := 16) (n := n / 16) (d := n % 16)
        (by omega) (by omega) (by omega)
      rw [Nat.toDigits_of_lt_base (Nat.mod_lt n (by omega)), Nat.div_add_mod] at joined
      exact joined.symm
    simp [hexPadded, digits]

theorem hexPadded_four {n : Nat} (unit : n < 0x10000) :
    hexPadded 4 n = [(n / 4096).digitChar, (n / 256 % 16).digitChar, (n / 16 % 16).digitChar,
      (n % 16).digitChar] := by
  have first : n / 4096 < 16 := by omega
  simp only [hexPadded_succ (Nat.succ_pos _), Nat.div_div_eq_div_mul]
  simp [hexPadded, Nat.toDigits_of_lt_base first]

theorem ofCodePoint_codePoint (c : Char) : ofCodePoint (codePoint c) = c := by
  cases lone : isLoneSurrogate c
  · simp [ofCodePoint, codePoint_of_character lone, toNat_not_surrogate]
  · have above : surrogateShift ≤ c.toNat := by
      simp only [isLoneSurrogate, isSurrogateCode, Bool.and_eq_true, decide_eq_true_eq] at lone
      omega
    have code := codePoint_of_surrogate lone
    simp only [ofCodePoint, code, if_true]
    simp [codePoint, lone, Nat.sub_add_cancel above]

/-- Only a lone surrogate has another code point than its own number, and a large one. -/
theorem toNat_of_codePoint {c : Char} {n : Nat} (code : codePoint c = n)
    (plain : n < 0xd800 ∨ 0xdfff < n) : c.toNat = n := by
  cases lone : isLoneSurrogate c
  · rw [← code, codePoint_of_character lone]
  · have surrogate := codePoint_of_surrogate lone
    simp only [code, isSurrogateCode, Bool.and_eq_true, decide_eq_true_eq] at surrogate
    omega

theorem codePoint_lt (c : Char) : codePoint c < 0x110000 := by
  have limit : c.toNat < 0x110000 := by
    rcases c.valid with below | ⟨-, above⟩
    · exact Nat.lt_trans below (by decide)
    · exact above
  unfold codePoint
  split <;> omega

end Text

namespace Json

theorem hexDigit?_digitChar : ∀ d, d < 16 → Whole.hexDigit? d.digitChar = some d := by
  decide

/-- **A unit is read back from its four digits**, as long as the text goes on. -/
theorem readUnit?_hexPadded {n : Nat} (unit : n < 0x10000) {rest : List Char}
    (more : rest ≠ []) : readUnit? (Text.hexPadded 4 n ++ rest) = some (n, rest) := by
  have first := hexDigit?_digitChar (n / 4096) (by omega)
  have second := hexDigit?_digitChar (n / 256 % 16) (by omega)
  have third := hexDigit?_digitChar (n / 16 % 16) (by omega)
  have fourth := hexDigit?_digitChar (n % 16) (by omega)
  rw [Text.hexPadded_four unit]
  simp [readUnit?, more, first, second, third, fourth]
  omega

/-! ## Joined texts -/

theorem isHighSurrogate_iff {n : Nat} : isHighSurrogate n ↔ 0xd800 ≤ n ∧ n ≤ 0xdbff := by
  rw [isHighSurrogate, Bool.and_eq_true, decide_eq_true_eq, decide_eq_true_eq]

theorem isLowSurrogate_iff {n : Nat} : isLowSurrogate n ↔ 0xdc00 ≤ n ∧ n ≤ 0xdfff := by
  rw [isLowSurrogate, Bool.and_eq_true, decide_eq_true_eq, decide_eq_true_eq]

/-- A high surrogate is a surrogate. -/
theorem isSurrogateCode_of_isHighSurrogate {n : Nat} (high : isHighSurrogate n) :
    Text.isSurrogateCode n := by
  rw [isHighSurrogate_iff] at high
  rw [Text.isSurrogateCode, Bool.and_eq_true, decide_eq_true_eq, decide_eq_true_eq]
  omega

/-- No lone high surrogate comes right before a lone low one. -/
def isJoined : List Char → Bool
  | c :: d :: rest =>
    !(isHighSurrogate (Text.codePoint c) && isLowSurrogate (Text.codePoint d)) &&
      isJoined (d :: rest)
  | _ => true

/-- The text begins with no lone low surrogate. -/
def BeginsWhole (text : List Char) : Prop :=
  ∀ c ∈ text.head?, isLowSurrogate (Text.codePoint c) = false

theorem isJoined_cons {c : Char} {text : List Char} :
    isJoined (c :: text) ↔
      (isHighSurrogate (Text.codePoint c) → BeginsWhole text) ∧ isJoined text := by
  cases text with
  | nil => simp [isJoined, BeginsWhole]
  | cons d text =>
      cases high : isHighSurrogate (Text.codePoint c) <;> simp [isJoined, BeginsWhole, high]

/-- **Every Unicode text is joined.** -/
theorem isJoined_of_isEncodable {text : String} (encodable : Text.isEncodable text) :
    isJoined text.toList := by
  have plain : ∀ c ∈ text.toList, isHighSurrogate (Text.codePoint c) = false := by
    intro c member
    simp only [Text.isEncodable, Bool.not_eq_true', List.any_eq_false] at encodable
    have lone := Bool.eq_false_iff.mpr (encodable c member)
    rw [Text.codePoint_of_character lone, Bool.eq_false_iff]
    intro high
    exact absurd (isSurrogateCode_of_isHighSurrogate high) (by simp [Text.toNat_not_surrogate])
  generalize text.toList = chars at plain
  induction chars with
  | nil => rfl
  | cons c chars ih =>
      obtain ⟨first, others⟩ := List.forall_mem_cons.mp plain
      exact isJoined_cons.mpr ⟨by simp [first], ih others⟩

/-! ## The escape of a character -/

/-- The ways in which a character is written inside a quoted text. -/
inductive Escape (ascii : Bool) (c : Char) : List Char → Prop
  | named {letter : Char} (listed : letter ∈ ['"', '\\', 'n', 'r', 't', 'b', 'f'])
      (meaning : simpleEscape? letter = some c) : Escape ascii c ['\\', letter]
  | unit (basic : Text.codePoint c < 0x10000) (escaped : Text.codePoint c < 0x20 ∨ ascii) :
      Escape ascii c (unitEscape (Text.codePoint c))
  | pair {high low : Nat} (first : isHighSurrogate high) (second : isLowSurrogate low)
      (code : c.toNat = 0x10000 + (high - 0xd800) * 0x400 + (low - 0xdc00)) :
      Escape ascii c (unitEscape high ++ unitEscape low)
  | plain (visible : 0x20 ≤ c.toNat) (noQuote : c ≠ '"') (noBackslash : c ≠ '\\')
      (within : ascii → c.toNat < 0x7f) : Escape ascii c [c]

/-- Below the surrogates a character is its own code point. -/
theorem codePoint_eq_toNat {c : Char}
    (below : c.toNat < 0xd800 ∨ Text.codePoint c < 0xd800) : Text.codePoint c = c.toNat := by
  cases lone : Text.isLoneSurrogate c with
  | false => exact Text.codePoint_of_character lone
  | true =>
      have code := Text.codePoint_of_surrogate lone
      simp only [Text.isLoneSurrogate, Text.isSurrogateCode, Bool.and_eq_true,
        decide_eq_true_eq] at lone code
      omega

/-- What an ASCII writer makes of a character beyond the basic plane. -/
theorem escape_beyond (ascii : Bool) {c : Char} {n : Nat} (code : Text.codePoint c = n)
    (beyond : ¬ n < 0x10000) :
    Escape ascii c (unitEscape (0xd800 + (n - 0x10000) / 0x400) ++
      unitEscape (0xdc00 + (n - 0x10000) % 0x400)) := by
  have limit := Text.codePoint_lt c
  have same := Text.toNat_of_codePoint code (by omega)
  refine .pair ?_ ?_ ?_
  · rw [isHighSurrogate_iff]
    omega
  · rw [isLowSurrogate_iff]
    omega
  · omega

/-- The number by which a writer chooses the escape is, below the surrogates, that of the
character. -/
theorem code_of_shown {ascii : Bool} {c : Char} {n : Nat}
    (shown : (if ascii then Text.codePoint c else c.toNat) = n)
    (below : n < 0xd800 ∨ c.toNat < 0xd800) : Text.codePoint c = n ∧ c.toNat = n := by
  cases ascii with
  | false =>
      rw [if_neg Bool.false_ne_true] at shown
      rw [shown] at below
      exact ⟨(codePoint_eq_toNat (.inl (by omega))).trans shown, shown⟩
  | true =>
      rw [if_pos rfl] at shown
      exact ⟨shown, (codePoint_eq_toNat (by omega)).symm.trans shown⟩

theorem escape_escapeChar (ascii : Bool) (c : Char) : Escape ascii c (escapeChar ascii c) := by
  simp only [escapeChar]
  generalize shown : (if ascii = true then Text.codePoint c else c.toNat) = n
  have code := code_of_shown shown
  have self {m : Nat} (same : n = m) (below : m < 0xd800) : Char.ofNat m = c := by
    rw [← same, ← (code (.inl (by omega))).2, Char.ofNat_toNat]
  split_ifs with quote backslash lineFeed carriageReturn tab backspace formFeed control outside
    basic
  · subst quote
    exact .named (by decide) rfl
  · subst backslash
    exact .named (by decide) rfl
  · exact .named (by decide) (lineFeed ▸ rfl)
  · exact .named (by decide) (carriageReturn ▸ rfl)
  · exact .named (by decide) (tab ▸ rfl)
  · exact .named (by decide) (self backspace (by decide) ▸ rfl)
  · exact .named (by decide) (self formFeed (by decide) ▸ rfl)
  · have same := (code (.inl (by omega))).1
    exact same ▸ .unit (by omega) (.inl (by omega))
  · obtain ⟨rfl, -⟩ := Bool.and_eq_true_iff.mp outside
    rw [if_pos rfl] at shown
    exact shown ▸ .unit (by omega) (.inr rfl)
  · obtain ⟨rfl, -⟩ := Bool.and_eq_true_iff.mp outside
    rw [if_pos rfl] at shown
    exact escape_beyond true shown basic
  · refine .plain ?_ quote backslash ?_
    · have := fun below => (code (.inr below)).2
      omega
    · rintro rfl
      simp only [Bool.true_and, decide_eq_true_eq, Nat.not_le] at outside
      have same := (code (.inl (by omega))).2
      omega

/-! ## Escapes by code -/

/-- No high surrogate before the text is completed to a pair by it. -/
def StandsAlone (rest : List Char) : Prop :=
  ∀ high, readLowSurrogate high rest = .ok (Text.ofCodePoint high, rest)

theorem readEscape_unit (start : Nat) {n : Nat} (unit : n < 0x10000) {rest : List Char}
    (more : rest ≠ []) (alone : isHighSurrogate n → StandsAlone rest) :
    readEscape start ('u' :: Text.hexPadded 4 n ++ rest) = .ok (Text.ofCodePoint n, rest) := by
  simp only [readEscape, List.cons_append, readUnit?_hexPadded unit more]
  cases high : isHighSurrogate n with
  | false => rfl
  | true => exact alone high n

theorem readLowSurrogate_unitEscape (high : Nat) {n : Nat} (unit : n < 0x10000)
    {rest : List Char} (more : rest ≠ []) :
    readLowSurrogate high (unitEscape n ++ rest) =
      if isLowSurrogate n then
        .ok (Char.ofNat (0x10000 + (high - 0xd800) * 0x400 + (n - 0xdc00)), rest)
      else .ok (Text.ofCodePoint high, unitEscape n ++ rest) := by
  have four : (Text.hexPadded 4 n).length = 4 := by rw [Text.hexPadded_four unit]; rfl
  have enough : ¬ (Text.hexPadded 4 n ++ rest).length < 5 := by
    have := List.length_pos_iff.mpr more
    rw [List.length_append]
    omega
  simp only [unitEscape, List.cons_append, readLowSurrogate, enough, if_false,
    readUnit?_hexPadded unit more]

theorem lt_of_isHighSurrogate {n : Nat} (high : isHighSurrogate n) : n < 0x10000 := by
  rw [isHighSurrogate_iff] at high
  omega

theorem lt_of_isLowSurrogate {n : Nat} (low : isLowSurrogate n) : n < 0x10000 := by
  rw [isLowSurrogate_iff] at low
  omega

theorem isLowSurrogate_of_isHighSurrogate {n : Nat} (high : isHighSurrogate n) :
    isLowSurrogate n = false := by
  rw [Bool.eq_false_iff]
  intro low
  rw [isHighSurrogate_iff] at high
  rw [isLowSurrogate_iff] at low
  omega

/-- The two halves of a pair are read as one character. -/
theorem readEscape_pair (start : Nat) {n high low : Nat} (first : isHighSurrogate high)
    (second : isLowSurrogate low) (pair : n = 0x10000 + (high - 0xd800) * 0x400 + (low - 0xdc00))
    {rest : List Char} (more : rest ≠ []) :
    readEscape start ('u' :: Text.hexPadded 4 high ++ (unitEscape low ++ rest)) =
      .ok (Char.ofNat n, rest) := by
  have follows : unitEscape low ++ rest ≠ [] := by simp [unitEscape]
  simp only [readEscape, List.cons_append, readUnit?_hexPadded (lt_of_isHighSurrogate first) follows,
    first, if_true, readLowSurrogate_unitEscape high (lt_of_isLowSurrogate second) more, second,
    ← pair]

/-- The escape of a character that is no lone low surrogate completes no high one to a pair. -/
theorem Escape.standsAlone {ascii : Bool} {c : Char} {chars : List Char}
    (escape : Escape ascii c chars) (whole : isLowSurrogate (Text.codePoint c) = false)
    {rest : List Char} (more : rest ≠ []) : StandsAlone (chars ++ rest) := by
  intro high
  cases escape with
  | named listed _ =>
      simp only [List.mem_cons, List.not_mem_nil, or_false] at listed
      rcases listed with rfl | rfl | rfl | rfl | rfl | rfl | rfl <;> rfl
  | unit basic _ => rw [readLowSurrogate_unitEscape high basic more, whole, if_neg nofun]
  | @pair first _ isHigh =>
      rw [List.append_assoc, readLowSurrogate_unitEscape high (lt_of_isHighSurrogate isHigh)
        (by simp [unitEscape]), isLowSurrogate_of_isHighSurrogate isHigh, if_neg nofun]
  | plain _ _ noBackslash => simp [readLowSurrogate, noBackslash]

theorem Escape.ne_nil {ascii : Bool} {c : Char} {chars : List Char}
    (escape : Escape ascii c chars) : chars ≠ [] := by
  cases escape <;> exact List.cons_ne_nil _ _

/-! ## Visible characters -/

/-- The character is in ASCII and is neither a control nor a line end. -/
def isVisible (c : Char) : Bool :=
  0x20 ≤ c.toNat && c.toNat ≤ 0x7e

theorem isVisible_of_mem_unitEscape {n : Nat} (unit : n < 0x10000) :
    ∀ d ∈ unitEscape n, isVisible d := by
  have digit : ∀ k, k < 16 → isVisible k.digitChar := by decide
  have begins : isVisible '\\' ∧ isVisible 'u' := by decide
  rw [unitEscape, Text.hexPadded_four unit]
  simp only [List.forall_mem_cons]
  exact ⟨begins.1, begins.2, digit _ (by omega), digit _ (by omega), digit _ (by omega),
    digit _ (by omega), nofun⟩

theorem Escape.isVisible_of_mem {c : Char} {chars : List Char} (escape : Escape true c chars) :
    ∀ d ∈ chars, isVisible d := by
  cases escape with
  | named listed _ =>
      have letters : ∀ letter ∈ ['"', '\\', 'n', 'r', 't', 'b', 'f'], isVisible letter :=
        List.all_eq_true.mp rfl
      exact List.forall_mem_cons.mpr ⟨rfl, List.forall_mem_singleton.mpr (letters _ listed)⟩
  | unit basic _ => exact isVisible_of_mem_unitEscape basic
  | pair first second _ =>
      exact List.forall_mem_append.mpr ⟨isVisible_of_mem_unitEscape (lt_of_isHighSurrogate first),
        isVisible_of_mem_unitEscape (lt_of_isLowSurrogate second)⟩
  | plain visible _ _ within =>
      have := within rfl
      simp [isVisible]
      omega

/-- **A text quoted in ASCII has visible characters only.** -/
theorem isVisible_of_mem_stringChars {text : String} :
    ∀ d ∈ stringChars true text, isVisible d := by
  have quote : isVisible '"' := rfl
  have body : ∀ d ∈ text.toList.flatMap (escapeChar true), isVisible d := by
    intro d member
    obtain ⟨c, -, escaped⟩ := List.mem_flatMap.mp member
    exact (escape_escapeChar true c).isVisible_of_mem d escaped
  exact List.forall_mem_append.mpr
    ⟨List.forall_mem_cons.mpr ⟨quote, body⟩, List.forall_mem_singleton.mpr quote⟩

/-! ## Whole texts -/

theorem readChars_escape {start : Nat} (fuel : Nat) {escape rest : List Char} {c : Char}
    (read : readEscape start escape = .ok (c, rest)) :
    readChars start (fuel + 1) ('\\' :: escape) =
      (readChars start fuel rest).map fun found => (c :: found.1, found.2) := by
  simp only [readChars, Char.reduceEq, if_false, if_true, read, ok_bind]
  cases readChars start fuel rest <;> rfl

/-- **A character is read back from its escape**, as long as the text goes on and completes no
high surrogate to a pair. -/
theorem Escape.readChars_append {ascii : Bool} {c : Char} {chars : List Char}
    (escape : Escape ascii c chars) (start fuel : Nat) {rest : List Char} (more : rest ≠ [])
    (alone : ascii → isHighSurrogate (Text.codePoint c) → StandsAlone rest) :
    readChars start (fuel + 1) (chars ++ rest) =
      (readChars start fuel rest).map fun found => (c :: found.1, found.2) := by
  cases escape with
  | @named letter listed meaning =>
      have notUnit : letter ≠ 'u' := by
        rintro rfl
        exact absurd listed (by decide)
      refine readChars_escape fuel ?_
      simp [readEscape, meaning]
  | unit basic escaped =>
      have alone : isHighSurrogate (Text.codePoint c) → StandsAlone rest := by
        intro high
        rcases escaped with control | asked
        · rw [isHighSurrogate_iff] at high
          omega
        · exact alone asked high
      have read := readEscape_unit start basic more alone
      rw [Text.ofCodePoint_codePoint] at read
      exact readChars_escape fuel read
  | pair first second code =>
      have read := readEscape_pair start first second code more
      rw [Char.ofNat_toNat] at read
      rw [List.append_assoc]
      exact readChars_escape fuel read
  | plain visible noQuote noBackslash =>
      simp only [List.singleton_append, readChars, noQuote, noBackslash,
        Nat.not_lt.mpr visible, if_false]
      cases readChars start fuel rest <;> rfl

/-- The escapes of a text that begins with no lone low surrogate complete no high one to a pair. -/
theorem standsAlone_body (ascii : Bool) {text : List Char} (whole : BeginsWhole text)
    (rest : List Char) : StandsAlone (text.flatMap (escapeChar ascii) ++ '"' :: rest) := by
  cases text with
  | nil => exact fun _ => rfl
  | cons c text =>
      rw [List.flatMap_cons, List.append_assoc]
      exact (escape_escapeChar ascii c).standsAlone (whole c rfl) (by simp)

theorem readChars_body (ascii : Bool) (start : Nat) {text : List Char}
    (joined : ascii → isJoined text) {fuel : Nat} (enough : text.length < fuel)
    (rest : List Char) :
    readChars start fuel (text.flatMap (escapeChar ascii) ++ '"' :: rest) = .ok (text, rest) := by
  induction text generalizing fuel with
  | nil =>
      obtain ⟨fuel, rfl⟩ : ∃ steps, fuel = steps + 1 := ⟨fuel - 1, by simp at enough; omega⟩
      rfl
  | cons c text ih =>
      rw [List.length_cons] at enough
      obtain ⟨fuel, rfl⟩ : ∃ steps, fuel = steps + 1 := ⟨fuel - 1, by omega⟩
      have split := fun asked => isJoined_cons.mp (joined asked)
      rw [List.flatMap_cons, List.append_assoc,
        (escape_escapeChar ascii c).readChars_append start fuel (by simp)
          fun asked high => standsAlone_body ascii ((split asked).1 high) rest,
        ih (fun asked => (split asked).2) (by omega)]
      rfl

theorem length_le_length_body (ascii : Bool) (text : List Char) :
    text.length ≤ (text.flatMap (escapeChar ascii)).length := by
  induction text with
  | nil => exact Nat.le_refl 0
  | cons c text ih =>
      have := List.length_pos_iff.mpr (escape_escapeChar ascii c).ne_nil
      simp only [List.flatMap_cons, List.length_append, List.length_cons]
      omega

/-- **A text is read back from its escapes, and nothing after its closing quote.** -/
theorem readString_body (ascii : Bool) {text : String} (joined : ascii → isJoined text.toList)
    (rest : List Char) :
    readString (text.toList.flatMap (escapeChar ascii) ++ '"' :: rest) = .ok (text, rest) := by
  have enough := length_le_length_body ascii text.toList
  have fuel : text.toList.length <
      (text.toList.flatMap (escapeChar ascii) ++ '"' :: rest).length + 1 := by
    rw [List.length_append]
    omega
  rw [readString, readChars_body ascii _ joined fuel rest, ok_bind]
  simp only [String.ofList_toList]
  rfl

end Json

end WorkspacePolicy
