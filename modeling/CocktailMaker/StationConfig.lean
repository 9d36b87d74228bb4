import CocktailMaker.FiniteMap
import CocktailMaker.JsonTokens
import CocktailMaker.PodMessage
import CocktailMaker.Recipe

/-!
# The assignment of ingredients to dispensers

`StationConfig` maps ingredients of the store to dispensers, answers lookups in
both directions, writes the whole assignment to a JSON file after every update
and reads it back at the start.  The file may hold anything; the loader takes
what it can use.
-/

namespace CocktailMaker

/-- A dispenser of a Pod; its id is a C++ `int`. -/
structure PodDispenser where
  podId : PodId
  dispenserId : Int32
  deriving DecidableEq

/-- `IngredientNotAssignedError`, with the ingredient that was looked up. -/
structure IngredientNotAssignedError where
  ingredientId : IngredientId
  deriving DecidableEq

def IngredientNotAssignedError.what (error : IngredientNotAssignedError) :
    String :=
  "No dispenser is assigned to ingredient '" ++ error.ingredientId ++ "'"

/-- `std::out_of_range`, with its text. -/
structure OutOfRange where
  what : String
  deriving DecidableEq

/-- The assignment in memory.  Only ingredients of the store are assigned. -/
structure StationConfig (store : IngredientStore) where
  mapping : FiniteMap IngredientId PodDispenser
  known : ∀ id ∈ mapping, (store.findById id).isSome

namespace StationConfig

variable {store : IngredientStore}

/-- What a new `StationConfig` holds, and what `clear` leaves. -/
def empty : StationConfig store where
  mapping := ∅
  known id member := absurd member (AList.notMem_empty id)

/-- `insert_or_assign`. -/
def insertOrAssign (config : StationConfig store) (id : IngredientId)
    (isKnown : (store.findById id).isSome) (dispenser : PodDispenser) :
    StationConfig store where
  mapping := config.mapping.insert id dispenser
  known other member := by
    rcases AList.mem_insert _ |>.mp member with rfl | old
    · exact isKnown
    · exact config.known other old

section Saving

variable {Byte : Type*}

def entryDocument (entry : IngredientId × PodDispenser) : Json :=
  .object [("ingredient_id", .string entry.1),
    ("pod_id", .string entry.2.podId),
    ("dispenser_id", .integer entry.2.dispenserId.toInt)]

/-- The fields of the document that `save_config_to_file` builds. -/
def mappingFields (entries : List (IngredientId × PodDispenser)) :
    List (String × Json) :=
  [("version", .integer 1), ("mappings", .array (entries.map entryDocument))]

/-- The text that is written for an assignment. -/
def savedText (config : StationConfig store) (codec : JsonCodec Byte)
    (order : IterationOrder IngredientId PodDispenser) : List Byte :=
  codec.build (.object (mappingFields (order.entries config.mapping)))

def saveConfigToFile (config : StationConfig store) (codec : JsonCodec Byte)
    (order : IterationOrder IngredientId PodDispenser)
    (outcome : WriteOutcome) (file : File Byte) : File Byte :=
  file.write outcome (config.savedText codec order)

end Saving

section Loading

variable {Byte : Type*}

/-- The three fields of an entry; the first one that is missing or of another
type makes the entry malformed. -/
def readEntry (entry : Json) :
    Except JsonError (IngredientId × PodId × Int) := do
  let fields ← entry.getObject
  let rawIngredientId ← (Json.field fields "ingredient_id").getString
  let rawPodId ← (Json.field fields "pod_id").getString
  let rawDispenserId ← (Json.field fields "dispenser_id").getInt64
  return (rawIngredientId, rawPodId, rawDispenserId)

/-- Narrow the 64-bit dispenser id to an `int`. -/
def toPodDispenser (raw : PodId × Int) : PodDispenser :=
  ⟨raw.1, Int32.ofInt raw.2⟩

/-- One round of the loop over the stored mappings. -/
def loadEntry (config : StationConfig store) (entry : Json) :
    StationConfig store :=
  match readEntry entry with
  | .error _ => config
  | .ok (ingredientId, raw) =>
      if isKnown : (store.findById ingredientId).isSome then
        config.insertOrAssign ingredientId isKnown (toPodDispenser raw)
      else config

def loadConfigFromFile (config : StationConfig store)
    (codec : JsonCodec Byte) (file : File Byte) : StationConfig store :=
  match file.storedArray codec "mappings" with
  | none => config
  | some mappings => mappings.foldl loadEntry empty

def init (config : StationConfig store) (codec : JsonCodec Byte)
    (file : File Byte) : StationConfig store :=
  config.loadConfigFromFile codec file

end Loading

section Lookups

def findDispenserForIngredient (config : StationConfig store)
    (ingredientId : IngredientId) :
    Except IngredientNotAssignedError PodDispenser :=
  match config.mapping.lookup ingredientId with
  | none => .error ⟨ingredientId⟩
  | some dispenser => .ok dispenser

/-- A scan over the assignments, in the order of the map. -/
def findIngredientByDispenser (config : StationConfig store)
    (order : IterationOrder IngredientId PodDispenser)
    (dispenser : PodDispenser) : Except OutOfRange IngredientId :=
  match (order.entries config.mapping).find?
      fun entry => entry.2 = dispenser with
  | none =>
      .error ⟨"No ingredient found for the given pod/dispenser combination"⟩
  | some entry => .ok entry.1

@[simp]
theorem findDispenserForIngredient_eq_ok {config : StationConfig store}
    {ingredientId : IngredientId} {dispenser : PodDispenser} :
    config.findDispenserForIngredient ingredientId = .ok dispenser ↔
      config.mapping.lookup ingredientId = some dispenser := by
  unfold findDispenserForIngredient
  split <;> simp_all

/-- The scan finds the only ingredient of a dispenser, whatever the order. -/
theorem findIngredientByDispenser_eq_ok {config : StationConfig store}
    {ingredientId : IngredientId} {dispenser : PodDispenser}
    (assigned : config.mapping.lookup ingredientId = some dispenser)
    (unique : ∀ other, config.mapping.lookup other = some dispenser →
      other = ingredientId)
    (order : IterationOrder IngredientId PodDispenser) :
    config.findIngredientByDispenser order dispenser = .ok ingredientId := by
  have member := (order.mem_entries config.mapping).mpr assigned
  cases found : (order.entries config.mapping).find?
      fun entry => entry.2 = dispenser with
  | none =>
      have noEntry := List.find?_eq_none.mp found _ member
      simp at noEntry
  | some entry =>
      have sameDispenser : entry.2 = dispenser := by
        simpa using List.find?_some found
      have entryMember : (entry.1, dispenser) ∈ order.entries config.mapping :=
        sameDispenser ▸ List.mem_of_find?_eq_some found
      have sameIngredient := unique entry.1
        ((order.mem_entries config.mapping).mp entryMember)
      simp only [findIngredientByDispenser, found, sameIngredient]

end Lookups

section Updates

variable {Byte : Type*} (codec : JsonCodec Byte)

/-- A call of `update_dispenser_ingredient_mapping`, with the order in which
the map is written and how far writing comes. -/
structure UpdateCall where
  ingredientId : IngredientId
  podDispenser : PodDispenser
  order : IterationOrder IngredientId PodDispenser
  outcome : WriteOutcome

def updateDispenserIngredientMapping
    (station : StationConfig store × File Byte) (call : UpdateCall) :
    StationConfig store × File Byte :=
  if isKnown : (store.findById call.ingredientId).isSome then
    let config := station.1.insertOrAssign call.ingredientId isKnown
      call.podDispenser
    (config, config.saveConfigToFile codec call.order call.outcome station.2)
  else station

/-- The assignment after some calls. -/
def afterUpdates (station : StationConfig store × File Byte)
    (calls : List UpdateCall) : StationConfig store :=
  (calls.foldl (updateDispenserIngredientMapping codec) station).1

variable (store) in
/-- The call names an ingredient of the store. -/
def UpdateCall.Successful (call : UpdateCall) : Prop :=
  (store.findById call.ingredientId).isSome

variable (store) in
/-- The last successful call that names the dispenser assigned the ingredient
to it, and the ingredient has not been moved since. -/
def LastAssigned (calls : List UpdateCall) (dispenser : PodDispenser)
    (ingredientId : IngredientId) : Prop :=
  ∃ before call after, calls = before ++ call :: after ∧
    call.Successful store ∧ call.podDispenser = dispenser ∧
    call.ingredientId = ingredientId ∧
    ∀ later ∈ after, later.Successful store →
      later.podDispenser ≠ dispenser ∧ later.ingredientId ≠ ingredientId

/-- Both lookups agree on the dispensers that the calls have named. -/
def LookupsAgree (config : StationConfig store) (calls : List UpdateCall) :
    Prop :=
  ∀ dispenser ingredientId, LastAssigned store calls dispenser ingredientId →
    (∀ order, config.findIngredientByDispenser order dispenser =
      .ok ingredientId) ∧
    ∀ other, config.findDispenserForIngredient other = .ok dispenser →
      other = ingredientId

variable (station : StationConfig store × File Byte)

theorem lookup_afterUpdates_concat (calls : List UpdateCall)
    (call : UpdateCall) (ingredientId : IngredientId) :
    (afterUpdates codec station (calls ++ [call])).mapping.lookup
        ingredientId =
      if (store.findById call.ingredientId).isSome ∧
          ingredientId = call.ingredientId then
        some call.podDispenser
      else (afterUpdates codec station calls).mapping.lookup ingredientId := by
  simp only [afterUpdates, List.foldl_append, List.foldl_cons, List.foldl_nil,
    updateDispenserIngredientMapping]
  by_cases isKnown : (store.findById call.ingredientId).isSome
  · rw [dif_pos isKnown]
    simp only [insertOrAssign, lookup_insert_ite, isKnown, true_and]
  · rw [dif_neg isKnown, if_neg fun both => isKnown both.1]

theorem LastAssigned.of_concat {calls : List UpdateCall} {call : UpdateCall}
    {dispenser : PodDispenser} {ingredientId : IngredientId}
    (assigned : LastAssigned store (calls ++ [call]) dispenser ingredientId) :
    (call.Successful store ∧ call.podDispenser = dispenser ∧
        call.ingredientId = ingredientId) ∨
      (LastAssigned store calls dispenser ingredientId ∧
        (call.Successful store → call.podDispenser ≠ dispenser ∧
          call.ingredientId ≠ ingredientId)) := by
  obtain ⟨before, last, after, split, successful, named, ingredient, later⟩ :=
    assigned
  rcases after.eq_nil_or_concat' with rfl | ⟨after, final, rfl⟩
  · obtain ⟨-, sameCall⟩ := List.append_inj' split rfl
    obtain rfl := List.singleton_inj.mp sameCall
    exact Or.inl ⟨successful, named, ingredient⟩
  · rw [← List.cons_append, ← List.append_assoc] at split
    obtain ⟨sameCalls, sameCall⟩ := List.append_inj' split rfl
    obtain rfl := List.singleton_inj.mp sameCall
    refine Or.inr ⟨⟨before, last, after, sameCalls, successful, named,
      ingredient, ?_⟩, ?_⟩
    · exact fun other member => later other (List.mem_append_left _ member)
    · exact later call (List.mem_append_right _ (List.mem_singleton_self _))

/-- The call does not take the dispenser of another ingredient. -/
def TakesFree (config : StationConfig store) (call : UpdateCall) : Prop :=
  ∀ other, other ≠ call.ingredientId →
    config.findDispenserForIngredient other ≠ .ok call.podDispenser

/-- An ingredient that was assigned last is assigned alone. -/
theorem lookup_of_lastAssigned {calls : List UpdateCall}
    (free : ∀ before call after, calls = before ++ call :: after →
      call.Successful store → TakesFree (afterUpdates codec station before) call)
    {dispenser : PodDispenser} {ingredientId : IngredientId}
    (assigned : LastAssigned store calls dispenser ingredientId) :
    ∀ other, (afterUpdates codec station calls).mapping.lookup other =
      some dispenser ↔ other = ingredientId := by
  induction calls using List.reverseRecOn with
  | nil =>
      obtain ⟨before, call, after, split, -⟩ := assigned
      exact absurd split (by simp)
  | append_singleton calls call ih =>
      have freeBefore : ∀ before earlier after,
          calls = before ++ earlier :: after → earlier.Successful store →
            TakesFree (afterUpdates codec station before) earlier := by
        intro before earlier after split
        exact free before earlier (after ++ [call]) (by simp [split])
      intro other
      rw [lookup_afterUpdates_concat]
      rcases assigned.of_concat with
        ⟨successful, rfl, rfl⟩ | ⟨assignedBefore, untouched⟩
      · have takesFree := free calls call [] rfl successful
        by_cases same : other = call.ingredientId
        · simp [same, show (store.findById call.ingredientId).isSome from
            successful]
        · have notOther := takesFree other same
          simpa [same] using notOther
      · by_cases moved : (store.findById call.ingredientId).isSome ∧
            other = call.ingredientId
        · obtain ⟨successful, rfl⟩ := moved
          obtain ⟨otherDispenser, otherIngredient⟩ := untouched successful
          simp [successful, otherDispenser, otherIngredient]
        · rw [if_neg moved]
          exact ih freeBefore assignedBefore other

/-- The lookups agree throughout a run of updates exactly when no update takes
a dispenser that is still assigned to another ingredient.  An update of an
unknown ingredient changes neither lookup. -/
theorem lookupsAgree_iff_takesFree (calls : List UpdateCall) :
    ((∀ visited, visited <+: calls →
        LookupsAgree (afterUpdates codec station visited) visited) ↔
      ∀ before call after, calls = before ++ call :: after →
        call.Successful store →
          TakesFree (afterUpdates codec station before) call) ∧
    ∀ call : UpdateCall, store.findById call.ingredientId = none →
      let config := afterUpdates codec station calls
      let updated := afterUpdates codec station (calls ++ [call])
      (∀ ingredientId, updated.findDispenserForIngredient ingredientId =
        config.findDispenserForIngredient ingredientId) ∧
      ∀ order dispenser, updated.findIngredientByDispenser order dispenser =
        config.findIngredientByDispenser order dispenser := by
  refine ⟨⟨?_, ?_⟩, ?_⟩
  · intro agree before call after split successful other differs taken
    have lastAssigned : LastAssigned store (before ++ [call])
        call.podDispenser call.ingredientId :=
      ⟨before, call, [], rfl, successful, rfl, rfl, by simp⟩
    have visited : before ++ [call] <+: calls :=
      ⟨after, by simp [split]⟩
    refine differs ((agree _ visited _ _ lastAssigned).2 other ?_)
    rw [findDispenserForIngredient_eq_ok] at taken ⊢
    rw [lookup_afterUpdates_concat, if_neg fun both => differs both.2, taken]
  · rintro free visited ⟨after, rfl⟩ dispenser ingredientId assigned
    have freeBefore : ∀ before call later, visited = before ++ call :: later →
        call.Successful store →
          TakesFree (afterUpdates codec station before) call := by
      intro before call later split
      exact free before call (later ++ after) (by simp [split])
    have lookup := lookup_of_lastAssigned codec station freeBefore assigned
    refine ⟨findIngredientByDispenser_eq_ok
      ((lookup ingredientId).mpr rfl) fun other => (lookup other).mp, ?_⟩
    intro other found
    exact (lookup other).mp (findDispenserForIngredient_eq_ok.mp found)
  · intro call unknown config updated
    have unchanged : updated = config := by
      simp [updated, config, afterUpdates, updateDispenserIngredientMapping,
        unknown]
    rw [unchanged]
    exact ⟨fun _ => rfl, fun _ _ => rfl⟩

end Updates

section Counterexample

/-- The only dispenser of a small Pod. -/
def firstDispenser : PodDispenser := ⟨"pod-1", 0⟩

def assignCall (ingredientId : IngredientId) : UpdateCall where
  ingredientId := ingredientId
  podDispenser := firstDispenser
  order := .stored IngredientId PodDispenser
  outcome := .notOpened

def rumThenLime : List UpdateCall := [assignCall "rum", assignCall "lime"]

/-- Two ingredients assigned to one dispenser both stay assigned to it. -/
theorem lookups_disagree :
    ¬ LookupsAgree
      (afterUpdates JsonToken.codec ((empty : StationConfig rumAndLime),
        .missing) rumThenLime) rumThenLime := by
  intro agree
  have lastAssigned :
      LastAssigned rumAndLime rumThenLime firstDispenser "lime" :=
    ⟨[assignCall "rum"], assignCall "lime", [], rfl,
      show (rumAndLime.findById "lime").isSome by decide, rfl, rfl, by simp⟩
  have rumIsLime := (agree _ _ lastAssigned).2 "rum" rfl
  exact absurd rumIsLime (by decide)

end Counterexample

section Postcondition

variable {Byte : Type*}

/-- The entries that can be read, in the order of the file. -/
def wellFormedEntries (mappings : List Json) :
    List (IngredientId × PodId × Int) :=
  mappings.filterMap fun entry => (readEntry entry).toOption

variable (store) in
/-- What a file describes for an ingredient: the last well-formed entry that
names it, if the store knows it and the file could be read. -/
def described (mappings : Option (List Json)) (ingredientId : IngredientId) :
    Option (PodId × Int) :=
  if (store.findById ingredientId).isSome then
    mappings.bind fun mappings =>
      lastValue ingredientId (wellFormedEntries mappings)
  else none

/-- The Pod id and the dispenser id that an ingredient is assigned to. -/
def assigned (config : StationConfig store) (ingredientId : IngredientId) :
    Option (PodId × Int) :=
  (config.mapping.lookup ingredientId).map fun dispenser =>
    (dispenser.podId, dispenser.dispenserId.toInt)

/-- The value of a C++ `int`. -/
def FitsInt (value : Int) : Prop :=
  -2147483648 ≤ value ∧ value ≤ 2147483647

theorem wellFormedEntries_concat (mappings : List Json) (entry : Json) :
    wellFormedEntries (mappings ++ [entry]) =
      wellFormedEntries mappings ++ (readEntry entry).toOption.toList := by
  rw [wellFormedEntries, List.filterMap_append]
  cases read : (readEntry entry).toOption <;>
    simp [wellFormedEntries, read]

theorem lookup_unknown (config : StationConfig store)
    {ingredientId : IngredientId}
    (unknown : ¬ (store.findById ingredientId).isSome) :
    config.mapping.lookup ingredientId = none := by
  rw [AList.lookup_eq_none]
  exact fun member => unknown (config.known ingredientId member)

theorem lookup_loadEntry (config : StationConfig store) (entry : Json)
    {ingredientId : IngredientId}
    (isKnown : (store.findById ingredientId).isSome) :
    (config.loadEntry entry).mapping.lookup ingredientId =
      ((lastValue ingredientId (readEntry entry).toOption.toList).map
        toPodDispenser).or (config.mapping.lookup ingredientId) := by
  unfold loadEntry
  cases readEntry entry with
  | error reason => rfl
  | ok fields =>
      obtain ⟨named, raw⟩ := fields
      by_cases same : named = ingredientId
      · simp [same, isKnown, insertOrAssign, Except.toOption, lastValue]
      · have noValue : lastValue ingredientId [(named, raw)] = none := by
          simp [lastValue, same]
        simp only [Except.toOption, Option.toList_some, noValue,
          Option.map_none, Option.none_or]
        split
        case isTrue namedKnown =>
          exact AList.lookup_insert_ne (Ne.symm same)
        case isFalse namedUnknown => rfl

/-- The loop leaves the last well-formed entry of each known ingredient. -/
theorem lookup_foldl_loadEntry (mappings : List Json)
    {ingredientId : IngredientId}
    (isKnown : (store.findById ingredientId).isSome) :
    (mappings.foldl loadEntry (empty : StationConfig store)).mapping.lookup
        ingredientId =
      (lastValue ingredientId (wellFormedEntries mappings)).map
        toPodDispenser := by
  induction mappings using List.reverseRecOn with
  | nil => rfl
  | append_singleton mappings entry ih =>
      rw [List.foldl_append, List.foldl_cons, List.foldl_nil,
        lookup_loadEntry _ _ isKnown, ih, wellFormedEntries_concat,
        lastValue_append, Option.map_or]

theorem toInt_ofInt_eq_self {value : Int} :
    (Int32.ofInt value).toInt = value ↔ FitsInt value := by
  rw [Int32.toInt_ofInt]
  unfold FitsInt Int32.size
  constructor
  · intro same
    have lower := @Int.le_bmod value 4294967296 (by decide)
    have upper := @Int.bmod_lt value 4294967296 (by decide)
    omega
  · intro fits
    exact Int.bmod_eq_of_le (by omega) (by omega)

/-- Whatever the file holds, `init` takes the last well-formed entries. -/
theorem assigned_init (codec : JsonCodec Byte) (config : StationConfig store)
    {file : File Byte} {mappings : List Json}
    (stored : file.storedArray codec "mappings" = some mappings)
    (ingredientId : IngredientId) :
    assigned (config.init codec file) ingredientId =
      (described store (some mappings) ingredientId).map fun raw =>
        (raw.1, (Int32.ofInt raw.2).toInt) := by
  simp only [assigned, init, loadConfigFromFile, stored, described,
    Option.bind_some]
  by_cases isKnown : (store.findById ingredientId).isSome
  · rw [if_pos isKnown, lookup_foldl_loadEntry mappings isKnown,
      Option.map_map]
    rfl
  · rw [if_neg isKnown, lookup_unknown _ isKnown, Option.map_none,
      Option.map_none]

theorem readEntry_entryDocument (entry : IngredientId × PodDispenser) :
    readEntry (entryDocument entry) =
      .ok (entry.1, entry.2.podId, entry.2.dispenserId.toInt) := by
  have lower := entry.2.dispenserId.le_toInt
  have upper := entry.2.dispenserId.toInt_lt
  have fits : -9223372036854775808 ≤ entry.2.dispenserId.toInt ∧
      entry.2.dispenserId.toInt ≤ 9223372036854775807 := by omega
  simp [readEntry, entryDocument, Json.getObject, Json.field, Json.getString,
    Json.getInt64, fits, bind, Except.bind, pure, Except.pure]

theorem wellFormedEntries_entryDocument
    (entries : List (IngredientId × PodDispenser)) :
    wellFormedEntries (entries.map entryDocument) =
      entries.map fun entry =>
        (entry.1, entry.2.podId, entry.2.dispenserId.toInt) := by
  induction entries with
  | nil => rfl
  | cons entry entries ih =>
      rw [List.map_cons, wellFormedEntries, List.filterMap_cons,
        readEntry_entryDocument]
      exact congrArg _ ih

theorem complete_mappingFields
    (entries : List (IngredientId × PodDispenser)) :
    (Json.object (mappingFields entries)).Complete := by
  refine .object fun field member => ?_
  simp only [mappingFields, List.mem_cons, List.not_mem_nil, or_false] at member
  rcases member with rfl | rfl
  · exact .integer 1
  · refine .array fun element member => ?_
    obtain ⟨entry, -, rfl⟩ := List.mem_map.mp member
    refine .object fun field member => ?_
    simp only [List.mem_cons, List.not_mem_nil, or_false] at member
    rcases member with rfl | rfl | rfl
    · exact .string _
    · exact .string _
    · exact .integer _

theorem lookup_foldl_loadEntry_saved (config : StationConfig store)
    (order : IterationOrder IngredientId PodDispenser)
    (ingredientId : IngredientId) :
    (((order.entries config.mapping).map entryDocument).foldl loadEntry
        (empty : StationConfig store)).mapping.lookup ingredientId =
      config.mapping.lookup ingredientId := by
  by_cases isKnown : (store.findById ingredientId).isSome
  · rw [lookup_foldl_loadEntry _ isKnown, wellFormedEntries_entryDocument,
      lastValue_map_value (order.entries config.mapping)
        fun dispenser : PodDispenser =>
          (dispenser.podId, dispenser.dispenserId.toInt),
      order.lastValue_entries, Option.map_map]
    have narrowed : (toPodDispenser ∘ fun dispenser : PodDispenser =>
        (dispenser.podId, dispenser.dispenserId.toInt)) = id := by
      funext dispenser
      simp [toPodDispenser]
    rw [narrowed, Option.map_id, id]
  · rw [lookup_unknown _ isKnown, lookup_unknown _ isKnown]

theorem storedArray_savedText {codec : JsonCodec Byte}
    (undoes : codec.UndoesBuilder) (config : StationConfig store)
    (order : IterationOrder IngredientId PodDispenser) :
    (File.content (config.savedText codec order)).storedArray codec
        "mappings" =
      some ((order.entries config.mapping).map entryDocument) := by
  have parsed := undoes _
    (complete_mappingFields (order.entries config.mapping))
  rw [savedText, File.storedArray_of_iterate parsed]
  rfl

/-- `init` keeps its postcondition exactly when the file can be read as far as
its mappings or nothing was assigned before, and every entry that decides an
assignment has an `int` as dispenser id. -/
theorem assigned_init_eq_described_iff (codec : JsonCodec Byte)
    (config : StationConfig store) (file : File Byte) :
    (∀ ingredientId, assigned (config.init codec file) ingredientId =
        described store (file.storedArray codec "mappings") ingredientId) ↔
      ((file.storedArray codec "mappings").isSome ∨
        ∀ ingredientId, assigned config ingredientId = none) ∧
      ∀ ingredientId, ∀ raw ∈ described store
          (file.storedArray codec "mappings") ingredientId,
        FitsInt raw.2 := by
  cases stored : file.storedArray codec "mappings" with
  | none =>
      have nothing (ingredientId : IngredientId) :
          described store none ingredientId = none := by
        unfold described
        split <;> rfl
      have kept : config.init codec file = config := by
        unfold init loadConfigFromFile
        rw [stored]
      simp [kept, nothing]
  | some mappings =>
      simp only [Option.isSome_some, true_or, true_and,
        assigned_init codec config stored]
      refine forall_congr' fun ingredientId => ?_
      cases described store (some mappings) ingredientId with
      | none => simp
      | some raw =>
          simp only [Option.map_some, Option.some.injEq, Option.mem_def,
            forall_eq']
          rw [Prod.ext_iff, ← toInt_ofInt_eq_self]
          simp only [true_and]

theorem lookup_init_saved {codec : JsonCodec Byte}
    (undoes : codec.UndoesBuilder) (saved config : StationConfig store)
    (order : IterationOrder IngredientId PodDispenser) (file : File Byte)
    (ingredientId : IngredientId) :
    (config.init codec (saved.saveConfigToFile codec order .finished
        file)).mapping.lookup ingredientId =
      saved.mapping.lookup ingredientId := by
  unfold init loadConfigFromFile saveConfigToFile File.write
  rw [storedArray_savedText undoes]
  exact lookup_foldl_loadEntry_saved saved order ingredientId

/-- The postcondition of `init`, and the round trip through the file. -/
theorem init_postcondition_iff (codec : JsonCodec Byte)
    (undoes : codec.UndoesBuilder) :
    (∀ (config : StationConfig store) (file : File Byte),
      (∀ ingredientId, assigned (config.init codec file) ingredientId =
          described store (file.storedArray codec "mappings") ingredientId) ↔
        ((file.storedArray codec "mappings").isSome ∨
          ∀ ingredientId, assigned config ingredientId = none) ∧
        ∀ ingredientId, ∀ raw ∈ described store
            (file.storedArray codec "mappings") ingredientId,
          FitsInt raw.2) ∧
    ∀ (saved config : StationConfig store) (order) (file : File Byte)
        (ingredientId : IngredientId),
      (config.init codec (saved.saveConfigToFile codec order .finished
          file)).mapping.lookup ingredientId =
        saved.mapping.lookup ingredientId :=
  ⟨assigned_init_eq_described_iff codec, lookup_init_saved undoes⟩

/-- An assignment of a single ingredient. -/
def rumAssigned (dispenserId : Int32) : StationConfig rumAndLime :=
  empty.insertOrAssign "rum" (by decide) ⟨"pod-1", dispenserId⟩

theorem init_postcondition_iff_rumAssigned :
    (∀ ingredientId,
      assigned ((rumAssigned 0).init JsonToken.codec .missing) ingredientId =
        described rumAndLime none ingredientId) ↔
      ((none : Option (List Json)).isSome ∨
        ∀ ingredientId, assigned (rumAssigned 0) ingredientId = none) ∧
      ∀ ingredientId, ∀ raw ∈ described rumAndLime none ingredientId,
        FitsInt raw.2 :=
  (init_postcondition_iff JsonToken.codec
    JsonToken.codec_undoesBuilder).1 (rumAssigned 0) .missing

/-- A missing file leaves the old assignment in place. -/
theorem init_keeps_assignment :
    ¬ ∀ ingredientId,
      assigned ((rumAssigned 0).init JsonToken.codec .missing) ingredientId =
        described rumAndLime
          ((File.missing).storedArray JsonToken.codec "mappings")
          ingredientId := by
  intro reflects
  exact absurd (reflects "rum") (by decide)

end Postcondition

end StationConfig

end CocktailMaker
