/-
# Proofs.Entries — pairs with different keys

Inserting a key that is new adds it at the end. So pairs whose keys are all different are the
entries that they make, in their order (`ofList_eq_self`), and the keys of all entries are
different (`nodup_ofList`).
-/
import WorkspacePolicy.Entries

namespace WorkspacePolicy.Entries

set_option autoImplicit false

variable {α : Type}

/-- A key that is new is inserted at the end. -/
theorem insert_of_new {key : String} (value : α) {entries : List (String × α)}
    (new : key ∉ entries.map Prod.fst) : insert key value entries = entries ++ [(key, value)] := by
  induction entries with
  | nil => rfl
  | cons entry rest ih =>
      simp only [List.map_cons, List.mem_cons, not_or] at new
      rw [insert, if_neg (Ne.symm new.1), ih new.2]
      rfl

theorem foldl_insert {entries pairs : List (String × α)}
    (distinct : ((entries ++ pairs).map Prod.fst).Nodup) :
    pairs.foldl (fun entries pair => insert pair.1 pair.2 entries) entries = entries ++ pairs := by
  induction pairs generalizing entries with
  | nil => simp
  | cons pair rest ih =>
      have new : pair.1 ∉ entries.map Prod.fst := by
        rw [List.map_append, List.nodup_append] at distinct
        exact fun member => distinct.2.2 _ member _ (by simp) rfl
      rw [List.foldl_cons, insert_of_new pair.2 new, ih (by simpa using distinct)]
      simp

/-- Pairs with different keys are the entries that they make. -/
theorem ofList_eq_self {pairs : List (String × α)} (distinct : (pairs.map Prod.fst).Nodup) :
    ofList pairs = pairs := by
  rw [ofList, foldl_insert (by simpa using distinct), List.nil_append]

theorem keys_insert (key : String) (value : α) (entries : List (String × α)) :
    (insert key value entries).map Prod.fst =
      if key ∈ entries.map Prod.fst then entries.map Prod.fst
      else entries.map Prod.fst ++ [key] := by
  induction entries with
  | nil => rfl
  | cons entry rest ih =>
      by_cases same : entry.1 = key
      · simp [insert, same]
      · have other : ¬key = entry.1 := fun h => same h.symm
        simp only [insert, same, ↓reduceIte, List.map_cons, ih, List.mem_cons, other, false_or]
        split <;> rfl

theorem mem_insert {key : String} {value : α} {entries : List (String × α)} {m : String × α}
    (member : m ∈ insert key value entries) : m = (key, value) ∨ m ∈ entries := by
  induction entries with
  | nil => exact .inl (List.mem_singleton.mp member)
  | cons entry rest ih =>
      rw [insert] at member
      split at member
      · rcases List.mem_cons.mp member with rfl | member
        · exact .inl rfl
        · exact .inr (List.mem_cons_of_mem _ member)
      · rcases List.mem_cons.mp member with rfl | member
        · exact .inr List.mem_cons_self
        · exact (ih member).imp_right (List.mem_cons_of_mem _)

theorem nodup_foldl_insert {entries : List (String × α)} (pairs : List (String × α))
    (distinct : (entries.map Prod.fst).Nodup) :
    ((pairs.foldl (fun entries pair => insert pair.1 pair.2 entries) entries).map
      Prod.fst).Nodup := by
  induction pairs generalizing entries with
  | nil => exact distinct
  | cons pair rest ih =>
      refine ih ?_
      rw [keys_insert]
      split
      · exact distinct
      · next new => exact List.nodup_append.mpr ⟨distinct, by simp, by
          rintro key member _ same rfl
          exact new (List.mem_singleton.mp same ▸ member)⟩

theorem mem_of_mem_foldl_insert {entries pairs : List (String × α)} {m : String × α}
    (member : m ∈ pairs.foldl (fun entries pair => insert pair.1 pair.2 entries) entries) :
    m ∈ entries ∨ m ∈ pairs := by
  induction pairs generalizing entries with
  | nil => exact .inl member
  | cons pair rest ih =>
      rcases ih member with inserted | later
      · rcases mem_insert inserted with rfl | before
        · exact .inr List.mem_cons_self
        · exact .inl before
      · exact .inr (List.mem_cons_of_mem _ later)

theorem nodup_ofList (pairs : List (String × α)) : ((ofList pairs).map Prod.fst).Nodup :=
  nodup_foldl_insert pairs List.nodup_nil

theorem mem_of_mem_ofList {pairs : List (String × α)} {m : String × α}
    (member : m ∈ ofList pairs) : m ∈ pairs :=
  (mem_of_mem_foldl_insert member).resolve_left List.not_mem_nil

end WorkspacePolicy.Entries
