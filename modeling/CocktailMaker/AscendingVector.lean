import Mathlib.Data.List.Sort
import Mathlib.Data.List.Destutter

/-!
# Strictly ascending vectors

A vector that is kept strictly ascending represents a set.  Binary search finds
the place of a value in it, inserting there and erasing keep the order, and
sorting an arbitrary vector and dropping repeated values establishes it.
-/

namespace CocktailMaker

namespace AscendingVector

variable {α : Type*} [LinearOrder α]

/-- Every value is smaller than the ones behind it. -/
def Ascending (values : List α) : Prop :=
  values.Pairwise (· < ·)

section LowerBound

/-- Binary search among `len` values from `first` on: the index of the first
one that is not smaller than `value`. -/
def lowerBoundFrom (values : List α) (value : α) (first len : Nat) : Nat :=
  if len = 0 then first
  else
    let half := len / 2
    if values[first + half]?.any (· < value) then
      lowerBoundFrom values value (first + half + 1) (len - (half + 1))
    else lowerBoundFrom values value first half
  termination_by len

def lowerBound (values : List α) (value : α) : Nat :=
  lowerBoundFrom values value 0 values.length

/-- The index splits the values into the smaller ones and the others. -/
def SplitsAt (values : List α) (value : α) (index : Nat) : Prop :=
  ∀ i, ∀ inBounds : i < values.length, values[i] < value ↔ i < index

/-- Binary search finds the split when it lies in the searched range. -/
theorem lowerBoundFrom_eq {values : List α} {value : α} {index : Nat}
    (splits : SplitsAt values value index) :
    ∀ len first, first ≤ index → index ≤ first + len →
      first + len ≤ values.length →
        lowerBoundFrom values value first len = index := by
  intro len
  induction len using Nat.strongRec with
  | ind len ih =>
      intro first atLeast atMost inside
      rw [lowerBoundFrom]
      by_cases empty : len = 0
      · rw [if_pos empty]
        omega
      · have inBounds : first + len / 2 < values.length := by omega
        have compare : values[first + len / 2]?.any (· < value) =
            decide (first + len / 2 < index) := by
          simp [List.getElem?_eq_getElem inBounds, splits _ inBounds]
        simp only [if_neg empty, compare, decide_eq_true_eq]
        split
        case isTrue below =>
          exact ih _ (by omega) _ (by omega) (by omega) (by omega)
        case isFalse above =>
          exact ih _ (by omega) _ atLeast (by omega) (by omega)

theorem Ascending.exists_splitsAt {values : List α}
    (ascending : Ascending values) (value : α) :
    ∃ index ≤ values.length, SplitsAt values value index := by
  induction values with
  | nil => exact ⟨0, le_rfl, fun i inBounds => absurd inBounds (by simp)⟩
  | cons head tail ih =>
      obtain ⟨above, tailAscending⟩ := List.pairwise_cons.mp ascending
      obtain ⟨index, inside, splits⟩ := ih tailAscending
      by_cases smaller : head < value
      · refine ⟨index + 1, by simpa using inside, fun i inBounds => ?_⟩
        cases i with
        | zero => simpa using smaller
        | succ i =>
            have inTail : i < tail.length := by simpa using inBounds
            simpa using splits i inTail
      · refine ⟨0, Nat.zero_le _, fun i inBounds => ?_⟩
        cases i with
        | zero => simpa using smaller
        | succ i =>
            have inTail : i < tail.length := by simpa using inBounds
            have larger := above tail[i] (List.getElem_mem inTail)
            simpa using (not_lt.mp smaller).trans larger.le

theorem Ascending.splitsAt_lowerBound {values : List α}
    (ascending : Ascending values) (value : α) :
    lowerBound values value ≤ values.length ∧
      SplitsAt values value (lowerBound values value) := by
  obtain ⟨index, inside, splits⟩ := ascending.exists_splitsAt value
  have found : lowerBound values value = index :=
    lowerBoundFrom_eq splits _ 0 (Nat.zero_le _) (by omega) (by omega)
  rw [found]
  exact ⟨inside, splits⟩

end LowerBound

section Insertion

/-- Insert a value before an index. -/
def insertAt (values : List α) (index : Nat) (value : α) : List α :=
  values.take index ++ value :: values.drop index

omit [LinearOrder α] in
theorem mem_insertAt {values : List α} {index : Nat} {value other : α} :
    other ∈ insertAt values index value ↔ other = value ∨ other ∈ values := by
  have parts : other ∈ values ↔
      other ∈ values.take index ∨ other ∈ values.drop index := by
    rw [← List.mem_append, List.take_append_drop]
  rw [insertAt, List.mem_append, List.mem_cons, parts]
  exact or_left_comm

variable {values : List α} {value : α}

/-- The value at the lower bound decides whether a value is in the vector. -/
theorem Ascending.getElem_lowerBound (ascending : Ascending values) :
    values[lowerBound values value]? = some value ↔ value ∈ values := by
  obtain ⟨-, splits⟩ := ascending.splitsAt_lowerBound value
  constructor
  · exact fun found => List.mem_of_getElem? found
  · intro member
    obtain ⟨i, inBounds, isValue⟩ := List.mem_iff_getElem.mp member
    have notBelow : ¬ i < lowerBound values value := by
      rw [← splits i inBounds, isValue]
      exact lt_irrefl value
    have boundInside : lowerBound values value < values.length := by omega
    have notSmaller : ¬ values[lowerBound values value] < value := by
      rw [splits _ boundInside]
      exact lt_irrefl _
    have sameIndex : lowerBound values value = i := by
      by_contra differs
      have before : lowerBound values value < i := by omega
      have smaller := List.pairwise_iff_getElem.mp ascending _ _ boundInside
        inBounds before
      exact notSmaller (isValue ▸ smaller)
    rw [sameIndex, List.getElem?_eq_getElem inBounds, isValue]

theorem Ascending.insertAt_lowerBound (ascending : Ascending values)
    (absent : value ∉ values) :
    Ascending (insertAt values (lowerBound values value) value) := by
  obtain ⟨-, splits⟩ := ascending.splitsAt_lowerBound value
  have below : ∀ other ∈ values.take (lowerBound values value),
      other < value := by
    intro other member
    obtain ⟨i, inBounds, rfl⟩ := List.mem_take_iff_getElem.mp member
    exact (splits i (by omega)).mpr (by omega)
  have above : ∀ other ∈ values.drop (lowerBound values value),
      value < other := by
    intro other member
    obtain ⟨i, inBounds, rfl⟩ := List.mem_drop_iff_getElem.mp member
    refine lt_of_le_of_ne (not_lt.mp fun smaller => ?_) fun same => ?_
    · have before := (splits _ (by omega)).mp smaller
      omega
    · exact absent (same ▸ List.getElem_mem _)
  refine List.pairwise_append.mpr
    ⟨ascending.sublist (List.take_sublist _ _), ?_, ?_⟩
  · exact List.pairwise_cons.mpr
      ⟨above, ascending.sublist (List.drop_sublist _ _)⟩
  · intro first inTake second inRest
    rcases List.mem_cons.mp inRest with rfl | inDrop
    · exact below first inTake
    · exact (below first inTake).trans (above second inDrop)

theorem Ascending.erase (ascending : Ascending values) (value : α) :
    Ascending (values.erase value) :=
  List.Pairwise.sublist List.erase_sublist ascending

theorem Ascending.mem_erase (ascending : Ascending values) {other : α} :
    other ∈ values.erase value ↔ other ≠ value ∧ other ∈ values :=
  List.Nodup.mem_erase_iff (ascending.imp ne_of_lt)

end Insertion

section Sorting

/-- Sort the values and drop the repeated ones. -/
def sortUnique (values : List α) : List α :=
  (values.insertionSort (· ≤ ·)).destutter (· ≠ ·)

theorem isChain_lt_of_le_of_ne {values : List α}
    (ordered : values.IsChain (· ≤ ·)) (distinct : values.IsChain (· ≠ ·)) :
    values.IsChain (· < ·) := by
  induction values with
  | nil => exact .nil
  | cons head tail ih =>
      cases tail with
      | nil => exact .singleton head
      | cons next tail =>
          obtain ⟨atMost, orderedTail⟩ := List.isChain_cons_cons.mp ordered
          obtain ⟨differs, distinctTail⟩ := List.isChain_cons_cons.mp distinct
          exact List.isChain_cons_cons.mpr
            ⟨lt_of_le_of_ne atMost differs, ih orderedTail distinctTail⟩

theorem ascending_sortUnique (values : List α) :
    Ascending (sortUnique values) := by
  have sorted : (sortUnique values).Pairwise (· ≤ ·) :=
    (List.pairwise_insertionSort (· ≤ ·) values).sublist
      (List.destutter_sublist _ _)
  have distinct : (sortUnique values).IsChain (· ≠ ·) :=
    List.isChain_destutter _ _
  exact List.isChain_iff_pairwise.mp
    (isChain_lt_of_le_of_ne sorted.isChain distinct)

theorem sortUnique_of_ascending {values : List α}
    (ascending : Ascending values) : sortUnique values = values := by
  have sorted : values.insertionSort (· ≤ ·) = values :=
    List.Pairwise.insertionSort_eq (ascending.imp le_of_lt)
  have distinct : values.IsChain (· ≠ ·) :=
    (ascending.imp ne_of_lt).isChain
  rw [sortUnique, sorted, List.destutter_of_isChain _ _ distinct]

end Sorting

end AscendingVector

end CocktailMaker
