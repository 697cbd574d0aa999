/-
# Proofs.Json.Visible — the characters of JSON text in ASCII

In an ASCII style the text of a value without numbers has visible characters only, but for the
line feeds of a style with line breaks (`areShown_charsAt`). So no text inside the value can break
a line.
-/
import WorkspacePolicy.Proofs.Json.ReadBack

namespace WorkspacePolicy.Json

set_option autoImplicit false

/-- The value is no number. -/
def isNoNumber : Json → Bool
  | .number _ => false
  | _ => true

namespace Style

/-- The style writes visible characters itself. -/
structure IsVisible (style : Style) : Prop where
  ascii : style.asciiOnly = true
  items : ∀ c ∈ style.itemSeparator, isVisible c
  keys : ∀ c ∈ style.keySeparator, isVisible c

theorem isVisible_line : line.IsVisible :=
  ⟨rfl, List.all_eq_true.mp rfl, List.all_eq_true.mp rfl⟩

theorem isVisible_indented : indented.IsVisible :=
  ⟨rfl, List.all_eq_true.mp rfl, List.all_eq_true.mp rfl⟩

/-- A visible character, or a line feed where the style breaks lines. -/
def shows (style : Style) (c : Char) : Bool :=
  isVisible c || style.indent.isSome && c == '\n'

end Style

variable {style : Style} {chars more : List Char}

/-- The style shows all of the characters. -/
def AreShown (style : Style) (chars : List Char) : Prop := ∀ c ∈ chars, style.shows c

theorem AreShown.of_isVisible (visible : ∀ c ∈ chars, isVisible c) : AreShown style chars :=
  fun c member => Bool.or_eq_true_iff.mpr (.inl (visible c member))

@[simp] theorem areShown_nil : AreShown style [] := nofun

@[simp] theorem areShown_cons {c : Char} :
    AreShown style (c :: chars) ↔ style.shows c ∧ AreShown style chars :=
  List.forall_mem_cons

@[simp] theorem areShown_append :
    AreShown style (chars ++ more) ↔ AreShown style chars ∧ AreShown style more :=
  List.forall_mem_append

theorem areShown_lineBreak (style : Style) (depth : Nat) :
    AreShown style (style.lineBreak depth) := by
  unfold Style.lineBreak
  split
  · exact areShown_nil
  · next width broken =>
      have blanks : AreShown style (List.replicate (width * depth) ' ') := by
        refine .of_isVisible fun c member => ?_
        exact List.eq_of_mem_replicate member ▸ rfl
      exact areShown_cons.mpr ⟨by simp [Style.shows, broken], blanks⟩

theorem areShown_stringChars (visible : style.IsVisible) (text : String) :
    AreShown style (stringChars style.asciiOnly text) := by
  rw [visible.ascii]
  exact .of_isVisible isVisible_of_mem_stringChars

/-- The marks between which items and members stand. -/
theorem shows_marks (style : Style) :
    ∀ c ∈ ['[', ']', '\x7b', '\x7d'], style.shows c :=
  AreShown.of_isVisible (List.all_eq_true.mp rfl)

mutual

/-- **A value without numbers is shown in visible characters**, by induction on the value. -/
theorem areShown_charsAt (visible : style.IsVisible) : ∀ (v : Json) (depth : Nat),
    v.everywhere isNoNumber → AreShown style (charsAt style depth v)
  | .null, _, _ => .of_isVisible (List.all_eq_true.mp rfl)
  | .bool true, _, _ => .of_isVisible (List.all_eq_true.mp rfl)
  | .bool false, _, _ => .of_isVisible (List.all_eq_true.mp rfl)
  | .number _, _, noNumber => absurd noNumber (by simp [everywhere, isNoNumber])
  | .string text, _, _ => areShown_stringChars visible text
  | .array [], _, _ => .of_isVisible (List.all_eq_true.mp rfl)
  | .array (item :: items), depth, noNumber => by
      simp only [everywhere, everyItem, Bool.and_eq_true] at noNumber
      obtain ⟨-, first, others⟩ := noNumber
      simp [charsAt, shows_marks style, areShown_lineBreak,
        areShown_charsAt visible item (depth + 1) first,
        areShown_itemChars visible items (depth + 1) others]
  | .object [], _, _ => .of_isVisible (List.all_eq_true.mp rfl)
  | .object ((key, value) :: members), depth, noNumber => by
      simp only [everywhere, everyMember, Bool.and_eq_true] at noNumber
      obtain ⟨-, first, others⟩ := noNumber
      simp [charsAt, shows_marks style, areShown_lineBreak, areShown_stringChars visible key,
        AreShown.of_isVisible visible.keys, areShown_charsAt visible value (depth + 1) first,
        areShown_memberChars visible members (depth + 1) others]

theorem areShown_itemChars (visible : style.IsVisible) : ∀ (items : List Json) (depth : Nat),
    everyItem isNoNumber items → AreShown style (itemChars style depth items)
  | [], _, _ => nofun
  | item :: items, depth, noNumber => by
      simp only [everyItem, Bool.and_eq_true] at noNumber
      simp [itemChars, AreShown.of_isVisible visible.items, areShown_lineBreak,
        areShown_charsAt visible item depth noNumber.1,
        areShown_itemChars visible items depth noNumber.2]

theorem areShown_memberChars (visible : style.IsVisible) :
    ∀ (members : List (String × Json)) (depth : Nat), everyMember isNoNumber members →
      AreShown style (memberChars style depth members)
  | [], _, _ => nofun
  | (key, value) :: members, depth, noNumber => by
      simp only [everyMember, Bool.and_eq_true] at noNumber
      simp [memberChars, AreShown.of_isVisible visible.items,
        AreShown.of_isVisible visible.keys, areShown_lineBreak,
        areShown_stringChars visible key, areShown_charsAt visible value depth noNumber.1,
        areShown_memberChars visible members depth noNumber.2]

end

end WorkspacePolicy.Json
