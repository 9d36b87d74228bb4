import Mathlib.Data.List.AList
import Mathlib.Data.List.Induction

/-!
# Finite maps

A map with finitely many keys, such as an `unordered_map`, and what its lookup
answers after an insertion or an erasure.  A loop over the map visits each
entry once, in an order that the map does not fix.
-/

namespace CocktailMaker

variable {Key Value : Type*} [DecidableEq Key]

/-- A finite map, such as an `unordered_map`. -/
abbrev FiniteMap (Key Value : Type*) := AList fun _ : Key => Value

theorem lookup_insert_ite (map : FiniteMap Key Value) (key other : Key)
    (value : Value) :
    (map.insert key value).lookup other =
      if other = key then some value else map.lookup other := by
  split
  · next same => rw [same, AList.lookup_insert]
  · next differs => exact AList.lookup_insert_ne differs

theorem lookup_erase_ite (map : FiniteMap Key Value) (key other : Key) :
    (map.erase key).lookup other =
      if other = key then none else map.lookup other := by
  split
  · next same => rw [same, AList.lookup_erase]
  · next differs => exact AList.lookup_erase_ne differs

theorem lookup_eq_some_iff (map : FiniteMap Key Value) (key : Key)
    (value : Value) :
    map.lookup key = some value ↔ ⟨key, value⟩ ∈ map.entries := by
  rw [← AList.mem_lookup_iff, Option.mem_def]

/-- An order in which a loop visits the entries of every map. -/
structure IterationOrder (Key Value : Type*) [DecidableEq Key] where
  entries : FiniteMap Key Value → List (Key × Value)
  perm : ∀ map : FiniteMap Key Value,
    (entries map).Perm (map.entries.map fun entry => (entry.1, entry.2))

/-- The order in which the model stores the entries. -/
def IterationOrder.stored (Key Value : Type*) [DecidableEq Key] :
    IterationOrder Key Value where
  entries map := map.entries.map fun entry => (entry.1, entry.2)
  perm _ := List.Perm.refl _

theorem IterationOrder.mem_entries (order : IterationOrder Key Value)
    (map : FiniteMap Key Value) {key : Key} {value : Value} :
    (key, value) ∈ order.entries map ↔ map.lookup key = some value := by
  rw [(order.perm map).mem_iff, lookup_eq_some_iff, List.mem_map]
  constructor
  · rintro ⟨entry, member, equal⟩
    obtain ⟨rfl, rfl⟩ := Prod.mk.injEq _ _ _ _ ▸ equal
    exact member
  · exact fun member => ⟨_, member, rfl⟩

theorem IterationOrder.nodup_keys (order : IterationOrder Key Value)
    (map : FiniteMap Key Value) :
    ((order.entries map).map Prod.fst).Nodup := by
  rw [((order.perm map).map Prod.fst).nodup_iff, List.map_map]
  exact map.nodupKeys

/-- The value of the last pair with a given key. -/
def lastValue (key : Key) (pairs : List (Key × Value)) : Option Value :=
  (pairs.reverse.find? fun pair => pair.1 = key).map Prod.snd

theorem lastValue_append (key : Key) (first second : List (Key × Value)) :
    lastValue key (first ++ second) =
      (lastValue key second).or (lastValue key first) := by
  simp only [lastValue, List.reverse_append, List.find?_append, Option.map_or]

theorem lastValue_concat (key : Key) (pairs : List (Key × Value))
    (last : Key × Value) :
    lastValue key (pairs ++ [last]) =
      if last.1 = key then some last.2 else lastValue key pairs := by
  by_cases same : last.1 = key <;> simp [lastValue, same]

theorem lastValue_map_value {Other : Type*} (pairs : List (Key × Value))
    (change : Value → Other) (key : Key) :
    lastValue key (pairs.map fun pair => (pair.1, change pair.2)) =
      (lastValue key pairs).map change := by
  simp only [lastValue, ← List.map_reverse, List.find?_map, Option.map_map]
  rfl

theorem mem_of_lastValue_eq_some {pairs : List (Key × Value)} {key : Key}
    {value : Value} (last : lastValue key pairs = some value) :
    (key, value) ∈ pairs := by
  obtain ⟨pair, found, rfl⟩ := Option.map_eq_some_iff.mp last
  have sameKey : pair.1 = key := by simpa using List.find?_some found
  rw [← sameKey]
  exact List.mem_reverse.mp (List.mem_of_find?_eq_some found)

theorem lastValue_eq_some_iff_mem {pairs : List (Key × Value)}
    (distinct : (pairs.map Prod.fst).Nodup) {key : Key} {value : Value} :
    lastValue key pairs = some value ↔ (key, value) ∈ pairs := by
  refine ⟨mem_of_lastValue_eq_some, fun member => ?_⟩
  induction pairs using List.reverseRecOn with
  | nil => simp at member
  | append_singleton pairs last ih =>
      rw [List.map_append, List.nodup_append] at distinct
      obtain ⟨distinctBefore, -, apart⟩ := distinct
      rw [lastValue_concat]
      rcases List.mem_append.mp member with before | isLast
      · have differs : last.1 ≠ key := fun same =>
          apart key (List.mem_map_of_mem before) last.1 (by simp) same.symm
        rw [if_neg differs, ih distinctBefore before]
      · obtain rfl := List.mem_singleton.mp isLast
        exact if_pos rfl

/-- Reading back the entries of a map, in any order, gives its lookup. -/
theorem IterationOrder.lastValue_entries (order : IterationOrder Key Value)
    (map : FiniteMap Key Value) (key : Key) :
    lastValue key (order.entries map) = map.lookup key := by
  ext value
  rw [lastValue_eq_some_iff_mem (order.nodup_keys map), order.mem_entries]

end CocktailMaker
