import Mathlib.Data.List.Nodup

/-!
# Rows with distinct keys

A list of rows in which no two rows have the same key.  A key then stands for
one row at most, wherever it is in the list.
-/

namespace CocktailMaker

namespace KeyedRows

variable {Row Key : Type*} {key : Row → Key} {rows : List Row}

theorem row_eq_of_key_eq (distinct : (rows.map key).Nodup) {first second : Row}
    (firstMember : first ∈ rows) (secondMember : second ∈ rows)
    (sameKey : key first = key second) : first = second :=
  List.inj_on_of_nodup_map distinct firstMember secondMember sameKey

theorem index_eq_of_key_eq (distinct : (rows.map key).Nodup)
    {index other : Nat} {first second : Row}
    (firstFound : rows[index]? = some first)
    (secondFound : rows[other]? = some second)
    (sameKey : key first = key second) : index = other := by
  have keyAt (place : Nat) (row : Row) (found : rows[place]? = some row) :
      (rows.map key)[place]? = some (key row) := by
    rw [List.getElem?_map, found, Option.map_some]
  have bound : index < (rows.map key).length :=
    (List.getElem?_eq_some_iff.mp (keyAt index first firstFound)).1
  refine (List.getElem?_inj bound distinct).mp ?_
  rw [keyAt index first firstFound, keyAt other second secondFound, sameKey]

section Middle

variable {before after : List Row} {row : Row}
  (distinct : ((before ++ row :: after).map key).Nodup)

include distinct

theorem key_ne_of_mem_others {other : Row} (member : other ∈ before ++ after) :
    key other ≠ key row := by
  rw [List.map_append, List.map_cons, List.nodup_middle, List.nodup_cons,
    ← List.map_append] at distinct
  exact fun same => distinct.1 (List.mem_map.mpr ⟨other, member, same⟩)

theorem filter_key_ne [DecidableEq Key] :
    (before ++ row :: after).filter (fun other => key other ≠ key row) =
      before ++ after := by
  rw [List.filter_append, List.filter_cons_of_neg (by simp),
    ← List.filter_append]
  exact List.filter_eq_self.mpr fun other member => by
    simpa using key_ne_of_mem_others distinct member

theorem mem_replaced_iff {replacement other : Row} :
    other ∈ before ++ replacement :: after ↔
      (other ∈ before ++ row :: after ∧ key other ≠ key row) ∨
        other = replacement := by
  simp only [List.mem_append, List.mem_cons]
  constructor
  · rintro (isBefore | rfl | isAfter)
    · exact .inl ⟨.inl isBefore, key_ne_of_mem_others distinct
        (List.mem_append_left _ isBefore)⟩
    · exact .inr rfl
    · exact .inl ⟨.inr (.inr isAfter), key_ne_of_mem_others distinct
        (List.mem_append_right _ isAfter)⟩
  · rintro (⟨isBefore | rfl | isAfter, differs⟩ | rfl)
    · exact .inl isBefore
    · exact absurd rfl differs
    · exact .inr (.inr isAfter)
    · exact .inr (.inl rfl)

theorem distinct_others : ((before ++ after).map key).Nodup :=
  (((List.sublist_cons_self row after).append_left before).map key).nodup
    distinct

end Middle

section Lookup

variable [DecidableEq Key]

/-- The first row with the key. -/
def find (key : Row → Key) (wanted : Key) (rows : List Row) : Option Row :=
  rows.find? fun row => key row = wanted

/-- The row takes the place of the one with its key. -/
def replace (key : Row → Key) (row : Row) (rows : List Row) : List Row :=
  rows.map fun other => if key other = key row then row else other

theorem exists_split_of_find {wanted : Key} {row : Row}
    (found : find key wanted rows = some row) :
    key row = wanted ∧ ∃ before after, rows = before ++ row :: after := by
  refine ⟨?_, List.append_of_mem (List.mem_of_find?_eq_some found)⟩
  simpa using List.find?_some found

theorem find_of_mem (distinct : (rows.map key).Nodup) {row : Row}
    (member : row ∈ rows) : find key (key row) rows = some row := by
  have isSome : (find key (key row) rows).isSome = true :=
    List.find?_isSome.mpr ⟨row, member, by simp⟩
  obtain ⟨found, isFound⟩ := Option.isSome_iff_exists.mp isSome
  obtain ⟨sameKey, before, after, split⟩ := exists_split_of_find isFound
  have foundMember : found ∈ rows := by simp [split]
  rw [isFound, row_eq_of_key_eq distinct foundMember member sameKey]

theorem replace_split {before after : List Row} {row replacement : Row}
    (distinct : ((before ++ row :: after).map key).Nodup)
    (sameKey : key replacement = key row) :
    replace key replacement (before ++ row :: after) =
      before ++ replacement :: after := by
  have unchanged (part : List Row)
      (others : ∀ other ∈ part, other ∈ before ++ after) :
      (part.map fun other =>
        if key other = key replacement then replacement else other) = part := by
    refine (List.map_congr_left fun other member => ?_).trans (List.map_id' _)
    rw [sameKey]
    exact if_neg (key_ne_of_mem_others distinct (others other member))
  simp only [replace, List.map_append, List.map_cons, if_pos sameKey.symm]
  rw [unchanged before fun other member => List.mem_append_left _ member,
    unchanged after fun other member => List.mem_append_right _ member]

end Lookup

end KeyedRows

end CocktailMaker
