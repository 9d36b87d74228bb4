import CocktailMaker.AscendingVector
import CocktailMaker.FiniteMap
import CocktailMaker.JsonTokens
import CocktailMaker.Quantities

/-!
# Glasses and their active volumes

`GlassStore` keeps the volumes that can be ordered for each glass in ascending
order.  Every change is written to a JSON file, and a new store that is
initialised with the same glasses reads its active volumes back from there.
-/

namespace CocktailMaker

open AscendingVector

abbrev GlassId := String

structure Glass where
  id : GlassId
  displayName : String
  commonVolumes : List Litre
  activeVolumes : List Litre
  deriving DecidableEq

/-- The map from ids to glasses: each glass is held under its own id. -/
@[ext]
structure GlassStore where
  glasses : List Glass
  distinct : (glasses.map Glass.id).Nodup

/-- An order in which a loop visits the glasses. -/
structure GlassOrder where
  arrange : List Glass → List Glass
  perm : ∀ glasses, (arrange glasses).Perm glasses

/-- The order in which the model stores the glasses. -/
def GlassOrder.stored : GlassOrder where
  arrange := id
  perm _ := List.Perm.refl _

namespace GlassStore

def empty : GlassStore where
  glasses := []
  distinct := List.nodup_nil

/-- `emplace`: a glass whose id is taken is not stored. -/
def emplace (store : GlassStore) (glass : Glass) : GlassStore :=
  if taken : glass.id ∈ store.glasses.map Glass.id then store
  else
    { glasses := store.glasses ++ [glass]
      distinct := by
        rw [List.map_append, List.nodup_append]
        refine ⟨store.distinct, List.nodup_singleton _, ?_⟩
        intro id member other isNew
        rw [List.map_singleton, List.mem_singleton] at isNew
        exact fun same => taken (isNew ▸ same ▸ member) }

def find (store : GlassStore) (id : GlassId) : Option Glass :=
  store.glasses.find? fun glass => glass.id = id

/-- Write through the iterator of a glass. -/
def setActiveVolumes (store : GlassStore) (id : GlassId)
    (volumes : List Litre) : GlassStore where
  glasses := store.glasses.map fun glass =>
    if glass.id = id then { glass with activeVolumes := volumes } else glass
  distinct := by
    have sameIds : (Glass.id ∘ fun glass : Glass =>
        if glass.id = id then { glass with activeVolumes := volumes }
        else glass) = Glass.id := by
      funext glass
      simp only [Function.comp_apply]
      split <;> rfl
    rw [List.map_map, sameIds]
    exact store.distinct

section Saving

variable {Byte : Type*}

def glassDocument (glass : Glass) : Json :=
  .object [("glass_id", .string glass.id),
    ("active_volumes", .array (glass.activeVolumes.map fun volume =>
      .decimal volume.inMilliLitre))]

/-- The fields of the document that `save_glass_active_volumes` builds. -/
def glassFields (glasses : List Glass) : List (String × Json) :=
  [("version", .integer 1), ("glasses", .array (glasses.map glassDocument))]

/-- The text that is written for the glasses. -/
def savedText (store : GlassStore) (codec : JsonCodec Byte)
    (order : GlassOrder) : List Byte :=
  codec.build (.object (glassFields (order.arrange store.glasses)))

def saveGlassActiveVolumes (store : GlassStore) (codec : JsonCodec Byte)
    (order : GlassOrder) (outcome : WriteOutcome) (file : File Byte) :
    File Byte :=
  file.write outcome (store.savedText codec order)

end Saving

section Loading

variable {Byte : Type*}

/-- The id and the volumes of an entry; an entry without them is malformed. -/
def readGlassEntry (entry : Json) :
    Except JsonError (GlassId × List Json) := do
  let fields ← entry.getObject
  let rawGlassId ← (Json.field fields "glass_id").getString
  let volumesJson ← (Json.field fields "active_volumes").getArray
  return (rawGlassId, volumesJson)

/-- The volumes that are numbers, sorted and without repetitions. -/
def readVolumes (volumesJson : List Json) : List Litre :=
  sortUnique ((volumesJson.filterMap fun volume =>
    volume.getNumber.toOption).map milliLitre)

/-- One round of the loop over the stored glasses. -/
def loadEntry (store : GlassStore) (entry : Json) : GlassStore :=
  match readGlassEntry entry with
  | .error _ => store
  | .ok (glassId, volumesJson) =>
      match store.find glassId with
      | none => store
      | some _ => store.setActiveVolumes glassId (readVolumes volumesJson)

def loadGlassActiveVolumes (store : GlassStore) (codec : JsonCodec Byte)
    (file : File Byte) : GlassStore :=
  match file.storedArray codec "glasses" with
  | none => store
  | some entries => entries.foldl loadEntry store

def initGlasses (glasses : List Glass) (codec : JsonCodec Byte)
    (file : File Byte) : GlassStore :=
  (glasses.foldl emplace empty).loadGlassActiveVolumes codec file

end Loading

section Changes

variable {Byte : Type*}

/-- What a change returns, and the store and the file that it leaves. -/
structure Changed (Byte : Type*) where
  result : Bool
  store : GlassStore
  file : File Byte

def addActiveVolume (store : GlassStore) (codec : JsonCodec Byte)
    (order : GlassOrder) (outcome : WriteOutcome) (file : File Byte)
    (id : GlassId) (volume : Litre) : Changed Byte :=
  match store.find id with
  | some glass =>
      let volIt := lowerBound glass.activeVolumes volume
      if glass.activeVolumes[volIt]? ≠ some volume then
        let store := store.setActiveVolumes id
          (insertAt glass.activeVolumes volIt volume)
        ⟨true, store, store.saveGlassActiveVolumes codec order outcome file⟩
      else ⟨false, store, file⟩
  | none => ⟨false, store, file⟩

def removeActiveVolume (store : GlassStore) (codec : JsonCodec Byte)
    (order : GlassOrder) (outcome : WriteOutcome) (file : File Byte)
    (id : GlassId) (volume : Litre) : Changed Byte :=
  match store.find id with
  | some glass =>
      if volume ∈ glass.activeVolumes then
        let store := store.setActiveVolumes id
          (glass.activeVolumes.erase volume)
        ⟨true, store, store.saveGlassActiveVolumes codec order outcome file⟩
      else ⟨false, store, file⟩
  | none => ⟨false, store, file⟩

end Changes

section Lookups

variable (store : GlassStore)

theorem find_eq_some_iff {id : GlassId} {glass : Glass} :
    store.find id = some glass ↔ glass ∈ store.glasses ∧ glass.id = id := by
  constructor
  · intro found
    exact ⟨List.mem_of_find?_eq_some found, by simpa using List.find?_some found⟩
  · rintro ⟨member, rfl⟩
    cases found : store.find glass.id with
    | none =>
        have notFound := List.find?_eq_none.mp found glass member
        simp at notFound
    | some other =>
        have sameId : other.id = glass.id := by
          simpa using List.find?_some found
        rw [List.inj_on_of_nodup_map store.distinct
          (List.mem_of_find?_eq_some found) member sameId]

theorem find_setActiveVolumes (id other : GlassId) (volumes : List Litre) :
    (store.setActiveVolumes id volumes).find other =
      if other = id then
        (store.find other).map fun glass =>
          { glass with activeVolumes := volumes }
      else store.find other := by
  simp only [find, setActiveVolumes, List.find?_map]
  have sameId : ((fun glass : Glass => decide (glass.id = other)) ∘
      fun glass => if glass.id = id then { glass with activeVolumes := volumes }
        else glass) = fun glass => decide (glass.id = other) := by
    funext glass
    simp only [Function.comp_apply]
    split <;> rfl
  rw [sameId]
  cases found : store.glasses.find? fun glass => glass.id = other with
  | none => simp
  | some glass =>
      have hasId : glass.id = other := by simpa using List.find?_some found
      simp only [Option.map_some, hasId]
      split <;> rfl

theorem setActiveVolumes_of_absent {id : GlassId}
    (absent : store.find id = none) (volumes : List Litre) :
    store.setActiveVolumes id volumes = store := by
  have untouched : ∀ glass ∈ store.glasses,
      (if glass.id = id then { glass with activeVolumes := volumes }
        else glass) = glass := by
    intro glass member
    have differs := List.find?_eq_none.mp absent glass member
    exact if_neg (by simpa using differs)
  ext1
  exact (List.map_congr_left untouched).trans (List.map_id _)

end Lookups

section Persistence

variable {Byte : Type*}

/-- The glasses without their active volumes. -/
def shelf (store : GlassStore) : List Glass :=
  store.glasses.map fun glass => { glass with activeVolumes := [] }

@[simp]
theorem shelf_setActiveVolumes (store : GlassStore) (id : GlassId)
    (volumes : List Litre) :
    (store.setActiveVolumes id volumes).shelf = store.shelf := by
  simp only [shelf, setActiveVolumes, List.map_map]
  refine List.map_congr_left fun glass _ => ?_
  simp only [Function.comp_apply]
  split <;> rfl

/-- No glass has an active volume. -/
def NoActive (store : GlassStore) : Prop :=
  ∀ glass ∈ store.glasses, glass.activeVolumes = []

theorem NoActive.shelf_eq {store : GlassStore} (noActive : store.NoActive) :
    store.shelf = store.glasses := by
  refine (List.map_congr_left fun glass member => ?_).trans (List.map_id _)
  rw [id, ← noActive glass member]

theorem exists_of_shelf {first second : GlassStore}
    (sameShelf : first.shelf = second.shelf) {glass : Glass}
    (member : glass ∈ first.glasses) :
    ∃ other ∈ second.glasses, other.id = glass.id := by
  have onShelf : { glass with activeVolumes := [] } ∈ second.shelf :=
    sameShelf ▸ List.mem_map.mpr ⟨glass, member, rfl⟩
  obtain ⟨other, inSecond, same⟩ := List.mem_map.mp onShelf
  exact ⟨other, inSecond, (Glass.mk.inj same).1⟩

theorem eq_of_shelf {first second : GlassStore}
    (sameShelf : first.shelf = second.shelf)
    (sameVolumes : ∀ one ∈ first.glasses, ∀ other ∈ second.glasses,
      other.id = one.id → one.activeVolumes = other.activeVolumes) :
    first = second := by
  have sameLength : first.glasses.length = second.glasses.length := by
    simpa [shelf] using congrArg List.length sameShelf
  ext1
  refine List.ext_getElem sameLength fun i inFirst inSecond => ?_
  have cleared : ({ first.glasses[i] with activeVolumes := [] } : Glass) =
      { second.glasses[i] with activeVolumes := [] } := by
    simpa [shelf, inFirst, inSecond] using
      congrArg (fun glasses => glasses[i]?) sameShelf
  obtain ⟨sameId, sameName, sameCommon, -⟩ := Glass.mk.inj cleared
  have same := sameVolumes _ (List.getElem_mem inFirst) _
    (List.getElem_mem inSecond) sameId.symm
  calc
    first.glasses[i] = ⟨first.glasses[i].id, first.glasses[i].displayName,
        first.glasses[i].commonVolumes, first.glasses[i].activeVolumes⟩ := rfl
    _ = second.glasses[i] := by rw [sameId, sameName, sameCommon, same]

theorem NoActive.eq_of_shelf {first second : GlassStore}
    (firstEmpty : first.NoActive) (secondEmpty : second.NoActive)
    (sameShelf : first.shelf = second.shelf) : first = second :=
  GlassStore.eq_of_shelf sameShelf fun one inFirst other inSecond _ =>
    (firstEmpty one inFirst).trans (secondEmpty other inSecond).symm

/-- What the entries say about the volumes of each glass. -/
def storedVolumes (entries : List Json) : List (GlassId × List Litre) :=
  entries.filterMap fun entry =>
    (readGlassEntry entry).toOption.map fun read =>
      (read.1, readVolumes read.2)

theorem storedVolumes_concat (entries : List Json) (entry : Json) :
    storedVolumes (entries ++ [entry]) =
      storedVolumes entries ++
        ((readGlassEntry entry).toOption.map fun read =>
          (read.1, readVolumes read.2)).toList := by
  rw [storedVolumes, List.filterMap_append]
  cases read : readGlassEntry entry <;>
    simp [storedVolumes, read, Except.toOption]

theorem loadEntry_eq (store : GlassStore) {entry : Json}
    {read : GlassId × List Json} (ok : readGlassEntry entry = .ok read) :
    store.loadEntry entry =
      store.setActiveVolumes read.1 (readVolumes read.2) := by
  simp only [loadEntry, ok]
  cases found : store.find read.1 with
  | none => exact (store.setActiveVolumes_of_absent found _).symm
  | some glass => rfl

/-- The volumes that a glass has after the entries were loaded. -/
def loadedVolumes (entries : List Json) (glass : Glass) : List Litre :=
  (lastValue glass.id (storedVolumes entries)).getD glass.activeVolumes

/-- The loop gives each glass the volumes of the last entry that names it. -/
theorem glasses_foldl_loadEntry (store : GlassStore) (entries : List Json) :
    (entries.foldl loadEntry store).glasses =
      store.glasses.map fun glass =>
        { glass with activeVolumes := loadedVolumes entries glass } := by
  induction entries using List.reverseRecOn with
  | nil => exact (List.map_id _).symm
  | append_singleton entries entry ih =>
      rw [List.foldl_append, List.foldl_cons, List.foldl_nil]
      cases read : readGlassEntry entry with
      | error reason =>
          simpa [loadEntry, loadedVolumes, storedVolumes_concat, read,
            Except.toOption] using ih
      | ok fields =>
          rw [loadEntry_eq _ read]
          simp only [setActiveVolumes, ih, List.map_map]
          refine List.map_congr_left fun glass _ => ?_
          simp only [Function.comp_apply, loadedVolumes, storedVolumes_concat,
            read, Except.toOption, Option.map_some, Option.toList_some,
            lastValue_concat]
          by_cases named : glass.id = fields.1
          · simp [named]
          · simp [named, Ne.symm named]

theorem shelf_foldl_loadEntry (store : GlassStore) (entries : List Json) :
    (entries.foldl loadEntry store).shelf = store.shelf := by
  rw [shelf, glasses_foldl_loadEntry, shelf, List.map_map]
  rfl

theorem ascending_loadedVolumes (entries : List Json) {glass : Glass}
    (ascending : Ascending glass.activeVolumes) :
    Ascending (loadedVolumes entries glass) := by
  unfold loadedVolumes
  cases last : lastValue glass.id (storedVolumes entries) with
  | none => exact ascending
  | some volumes =>
      obtain ⟨entry, -, read⟩ :=
        List.mem_filterMap.mp (mem_of_lastValue_eq_some last)
      obtain ⟨fields, -, pair⟩ := Option.map_eq_some_iff.mp read
      rw [← (Prod.mk.inj pair).2]
      exact ascending_sortUnique _

theorem numbers_saved (volumes : List Litre) :
    (volumes.map fun volume => Json.decimal volume.inMilliLitre).filterMap
        (fun volume => volume.getNumber.toOption) =
      volumes.map Litre.inMilliLitre := by
  rw [List.filterMap_map, ← List.filterMap_eq_map]
  rfl

theorem readVolumes_saved {volumes : List Litre}
    (ascending : Ascending volumes) :
    readVolumes (volumes.map fun volume => .decimal volume.inMilliLitre) =
      volumes := by
  rw [readVolumes, numbers_saved, List.map_map]
  have identity : milliLitre ∘ Litre.inMilliLitre = id :=
    funext milliLitre_inMilliLitre
  rw [identity, List.map_id, sortUnique_of_ascending ascending]

/-- Every active volume stands in ascending order. -/
def AllAscending (store : GlassStore) : Prop :=
  ∀ glass ∈ store.glasses, Ascending glass.activeVolumes

theorem storedVolumes_glassDocument {glasses : List Glass}
    (ascending : ∀ glass ∈ glasses, Ascending glass.activeVolumes) :
    storedVolumes (glasses.map glassDocument) =
      glasses.map fun glass => (glass.id, glass.activeVolumes) := by
  rw [storedVolumes, List.filterMap_map, ← List.filterMap_eq_map]
  refine List.filterMap_congr fun glass member => ?_
  have read : readGlassEntry (glassDocument glass) =
      .ok (glass.id, glass.activeVolumes.map fun volume =>
        .decimal volume.inMilliLitre) :=
    rfl
  simp [read, Except.toOption, readVolumes_saved (ascending glass member)]

theorem lastValue_saved (store : GlassStore) (ascending : store.AllAscending)
    (order : GlassOrder) {glass : Glass} (member : glass ∈ store.glasses) :
    lastValue glass.id
        (storedVolumes ((order.arrange store.glasses).map glassDocument)) =
      some glass.activeVolumes := by
  have perm := order.perm store.glasses
  rw [storedVolumes_glassDocument fun glass arranged =>
    ascending glass (perm.mem_iff.mp arranged)]
  refine (lastValue_eq_some_iff_mem ?_).mpr
    (List.mem_map.mpr ⟨glass, perm.mem_iff.mpr member, rfl⟩)
  rw [List.map_map]
  exact (perm.map Glass.id).nodup_iff.mpr store.distinct

theorem complete_glassFields (glasses : List Glass) :
    (Json.object (glassFields glasses)).Complete := by
  refine .object fun field member => ?_
  simp only [glassFields, List.mem_cons, List.not_mem_nil, or_false] at member
  rcases member with rfl | rfl
  · exact .integer 1
  · refine .array fun element member => ?_
    obtain ⟨glass, -, rfl⟩ := List.mem_map.mp member
    refine .object fun field member => ?_
    simp only [List.mem_cons, List.not_mem_nil, or_false] at member
    rcases member with rfl | rfl
    · exact .string _
    · refine .array fun element member => ?_
      obtain ⟨volume, -, rfl⟩ := List.mem_map.mp member
      exact .decimal _

/-- Loading the saved volumes into the same glasses gives the store back. -/
theorem loadGlassActiveVolumes_saved {codec : JsonCodec Byte}
    (undoes : codec.UndoesBuilder) {store fresh : GlassStore}
    (ascending : store.AllAscending) (sameShelf : store.shelf = fresh.glasses)
    (order : GlassOrder) :
    fresh.loadGlassActiveVolumes codec
      (.content (store.savedText codec order)) = store := by
  have parsed := undoes _
    (complete_glassFields (order.arrange store.glasses))
  have stored : (File.content (store.savedText codec order)).storedArray codec
      "glasses" =
        some ((order.arrange store.glasses).map glassDocument) := by
    rw [savedText, File.storedArray_of_iterate parsed]
    rfl
  ext1
  rw [loadGlassActiveVolumes, stored]
  simp only [glasses_foldl_loadEntry, ← sameShelf, shelf, List.map_map]
  refine (List.map_congr_left fun glass member => ?_).trans (List.map_id _)
  simp [loadedVolumes, lastValue_saved store ascending order member]

end Persistence

section Changing

variable {Byte : Type*} (codec : JsonCodec Byte) (order : GlassOrder)
  (file : File Byte) (id : GlassId) (volume : Litre)

/-- What a change may do, however far writing comes: when the glass is known
and its volumes allow the change, they become the target set and the store is
written; otherwise nothing happens. -/
def Meets (changed : WriteOutcome → Changed Byte) (store : GlassStore)
    (allowed : List Litre → Prop) (target : List Litre → Litre → Prop) :
    Prop :=
  (∃ glass volumes, store.find id = some glass ∧
      allowed glass.activeVolumes ∧ Ascending volumes ∧
      (∀ other, other ∈ volumes ↔ target glass.activeVolumes other) ∧
      changed = fun outcome => ⟨true, store.setActiveVolumes id volumes,
        (store.setActiveVolumes id volumes).saveGlassActiveVolumes codec order
          outcome file⟩) ∨
    ((∀ glass, store.find id = some glass → ¬ allowed glass.activeVolumes) ∧
      changed = fun _ => ⟨false, store, file⟩)

variable {store : GlassStore}

theorem ascending_of_find (ascending : store.AllAscending) {id : GlassId}
    {glass : Glass} (found : store.find id = some glass) :
    Ascending glass.activeVolumes :=
  ascending glass (store.find_eq_some_iff.mp found).1

theorem addActiveVolume_meets (ascending : store.AllAscending) :
    Meets codec order file id
      (fun outcome =>
        store.addActiveVolume codec order outcome file id volume)
      store (fun volumes => volume ∉ volumes)
      fun volumes other => other = volume ∨ other ∈ volumes := by
  unfold addActiveVolume
  cases found : store.find id with
  | none => exact Or.inr ⟨fun _ some => absurd (found ▸ some) (by simp), rfl⟩
  | some glass =>
      have ordered := ascending_of_find ascending found
      by_cases present : volume ∈ glass.activeVolumes
      · right
        refine ⟨fun other same => ?_, ?_⟩
        · obtain rfl := Option.some.inj (found ▸ same)
          exact not_not_intro present
        · simp only [ordered.getElem_lowerBound.mpr present, ne_eq, not_true,
            if_false]
      · left
        have absentAt : glass.activeVolumes[
            lowerBound glass.activeVolumes volume]? ≠ some volume :=
          fun found => present (ordered.getElem_lowerBound.mp found)
        refine ⟨glass, _, found, present,
          ordered.insertAt_lowerBound present, fun _ => mem_insertAt, ?_⟩
        simp only [if_pos absentAt]

theorem removeActiveVolume_meets (ascending : store.AllAscending) :
    Meets codec order file id
      (fun outcome =>
        store.removeActiveVolume codec order outcome file id volume)
      store (fun volumes => volume ∈ volumes)
      fun volumes other => other ≠ volume ∧ other ∈ volumes := by
  unfold removeActiveVolume
  cases found : store.find id with
  | none => exact Or.inr ⟨fun _ some => absurd (found ▸ some) (by simp), rfl⟩
  | some glass =>
      have ordered := ascending_of_find ascending found
      by_cases present : volume ∈ glass.activeVolumes
      · left
        refine ⟨glass, _, found, present, ordered.erase volume,
          fun _ => ordered.mem_erase, ?_⟩
        simp only [if_pos present]
      · right
        refine ⟨fun other same => ?_, ?_⟩
        · obtain rfl := Option.some.inj (found ▸ same)
          exact present
        · simp only [if_neg present]

variable {codec order file id} {changed : WriteOutcome → Changed Byte}
  {allowed : List Litre → Prop} {target : List Litre → Litre → Prop}

theorem Meets.result_iff
    (meets : Meets codec order file id changed store allowed target)
    (outcome : WriteOutcome) :
    (changed outcome).result = true ↔
      ∃ glass, store.find id = some glass ∧ allowed glass.activeVolumes := by
  rcases meets with ⟨glass, volumes, found, allows, -, -, rfl⟩ | ⟨never, rfl⟩
  · exact iff_of_true rfl ⟨glass, found, allows⟩
  · refine iff_of_false Bool.false_ne_true ?_
    rintro ⟨glass, found, allows⟩
    exact never glass found allows

theorem Meets.find_other
    (meets : Meets codec order file id changed store allowed target)
    (outcome : WriteOutcome)
    {other : GlassId} (differs : other ≠ id) :
    (changed outcome).store.find other = store.find other := by
  rcases meets with ⟨glass, volumes, -, -, -, -, rfl⟩ | ⟨-, rfl⟩
  · exact (store.find_setActiveVolumes id other volumes).trans
      (if_neg differs)
  · rfl

/-- The addressed glass keeps everything but its active volumes. -/
theorem Meets.find_addressed
    (meets : Meets codec order file id changed store allowed target)
    (outcome : WriteOutcome)
    (unchanged : ∀ volumes other, ¬ allowed volumes →
      (target volumes other ↔ other ∈ volumes))
    {glass : Glass} (found : store.find id = some glass) :
    ∃ volumes, (changed outcome).store.find id =
        some { glass with activeVolumes := volumes } ∧
      ∀ other, other ∈ volumes ↔ target glass.activeVolumes other := by
  rcases meets with ⟨same, volumes, foundSame, -, -, exact, rfl⟩ | ⟨never, rfl⟩
  · obtain rfl := Option.some.inj (found.symm.trans foundSame)
    refine ⟨volumes, ?_, exact⟩
    rw [find_setActiveVolumes, if_pos rfl, found, Option.map_some]
  · exact ⟨glass.activeVolumes, found,
      fun other => (unchanged _ other (never glass found)).symm⟩

end Changing

section Runs

variable {Byte : Type*}

/-- A call of the store, or a new store that is initialised. -/
inductive Action
  | add (id : GlassId) (volume : Litre) (order : GlassOrder)
  | remove (id : GlassId) (volume : Litre) (order : GlassOrder)
  | restart

/-- The store and the file after an action; writing succeeds. -/
def perform (glasses : List Glass) (codec : JsonCodec Byte)
    (state : GlassStore × File Byte) : Action → GlassStore × File Byte
  | .add id volume order =>
      let changed :=
        state.1.addActiveVolume codec order .finished state.2 id volume
      (changed.store, changed.file)
  | .remove id volume order =>
      let changed :=
        state.1.removeActiveVolume codec order .finished state.2 id volume
      (changed.store, changed.file)
  | .restart => (initGlasses glasses codec state.2, state.2)

/-- The volumes are in order, and the file describes the store. -/
structure Persisted (glasses : List Glass) (codec : JsonCodec Byte)
    (state : GlassStore × File Byte) : Prop where
  ascending : state.1.AllAscending
  sameShelf : state.1.shelf = (glasses.foldl emplace empty).glasses
  reloads : initGlasses glasses codec state.2 = state.1

theorem mem_foldl_emplace (glasses : List Glass) :
    ∀ glass ∈ (glasses.foldl emplace empty).glasses, glass ∈ glasses := by
  induction glasses using List.reverseRecOn with
  | nil => exact fun glass member => member
  | append_singleton glasses last ih =>
      intro glass member
      rw [List.foldl_append, List.foldl_cons, List.foldl_nil, emplace]
        at member
      split at member
      · exact List.mem_append_left _ (ih glass member)
      · rcases List.mem_append.mp member with old | isLast
        · exact List.mem_append_left _ (ih glass old)
        · exact List.mem_append_right _ isLast

variable {glasses : List Glass} {codec : JsonCodec Byte}

theorem noActive_foldl_emplace
    (noActive : ∀ glass ∈ glasses, glass.activeVolumes = []) :
    (glasses.foldl emplace empty).NoActive :=
  fun glass member => noActive glass (mem_foldl_emplace glasses glass member)

theorem persisted_init (noActive : ∀ glass ∈ glasses, glass.activeVolumes = [])
    (file : File Byte) :
    Persisted glasses codec (initGlasses glasses codec file, file) := by
  let fresh := glasses.foldl emplace empty
  have freshEmpty : fresh.NoActive := noActive_foldl_emplace noActive
  have freshAscending : fresh.AllAscending := fun glass member =>
    freshEmpty glass member ▸ List.Pairwise.nil
  refine ⟨?_, ?_, rfl⟩
  · change (fresh.loadGlassActiveVolumes codec file).AllAscending
    unfold loadGlassActiveVolumes
    cases file.storedArray codec "glasses" with
    | none => exact freshAscending
    | some entries =>
        intro glass member
        simp only [glasses_foldl_loadEntry] at member
        obtain ⟨old, inFresh, rfl⟩ := List.mem_map.mp member
        exact ascending_loadedVolumes entries (freshAscending old inFresh)
  · change (fresh.loadGlassActiveVolumes codec file).shelf = fresh.glasses
    unfold loadGlassActiveVolumes
    cases file.storedArray codec "glasses" with
    | none => exact freshEmpty.shelf_eq
    | some entries =>
        exact (shelf_foldl_loadEntry fresh entries).trans freshEmpty.shelf_eq

theorem allAscending_setActiveVolumes {store : GlassStore}
    (ascending : store.AllAscending) (id : GlassId) {volumes : List Litre}
    (ordered : Ascending volumes) :
    (store.setActiveVolumes id volumes).AllAscending := by
  intro glass member
  obtain ⟨old, inStore, rfl⟩ := List.mem_map.mp member
  split
  · exact ordered
  · exact ascending old inStore

theorem Persisted.change (undoes : codec.UndoesBuilder)
    {state : GlassStore × File Byte} (persisted : Persisted glasses codec state)
    {changed : WriteOutcome → Changed Byte} {order : GlassOrder} {id : GlassId}
    {allowed : List Litre → Prop} {target : List Litre → Litre → Prop}
    (meets :
      Meets codec order state.2 id changed state.1 allowed target) :
    Persisted glasses codec
      ((changed .finished).store, (changed .finished).file) := by
  rcases meets with ⟨glass, volumes, -, -, ordered, -, rfl⟩ | ⟨-, rfl⟩
  · have ascending :=
      allAscending_setActiveVolumes persisted.ascending id ordered
    have sameShelf :=
      (shelf_setActiveVolumes state.1 id volumes).trans persisted.sameShelf
    exact ⟨ascending, sameShelf,
      loadGlassActiveVolumes_saved undoes ascending sameShelf order⟩
  · exact persisted

theorem Persisted.perform (undoes : codec.UndoesBuilder)
    {state : GlassStore × File Byte} (persisted : Persisted glasses codec state)
    (action : Action) :
    Persisted glasses codec (perform glasses codec state action) := by
  cases action with
  | add id volume order =>
      exact persisted.change undoes
        (addActiveVolume_meets codec order state.2 id volume
          persisted.ascending)
  | remove id volume order =>
      exact persisted.change undoes
        (removeActiveVolume_meets codec order state.2 id volume
          persisted.ascending)
  | restart =>
      have restarted : GlassStore.perform glasses codec state .restart =
          state :=
        Prod.ext persisted.reloads rfl
      exact restarted ▸ persisted

theorem persisted_of_run (undoes : codec.UndoesBuilder)
    (noActive : ∀ glass ∈ glasses, glass.activeVolumes = [])
    (file : File Byte) (actions : List Action) :
    Persisted glasses codec
      (actions.foldl (GlassStore.perform glasses codec)
        (initGlasses glasses codec file, file)) := by
  induction actions using List.reverseRecOn with
  | nil => exact persisted_init noActive file
  | append_singleton actions action ih =>
      rw [List.foldl_append, List.foldl_cons, List.foldl_nil]
      exact ih.perform undoes action

/-- In every reachable state the active volumes are strictly ascending, a
change tells whether it happened and touches the addressed glass only, and a
restart gives the same glasses. -/
theorem glassStore_ordered_and_persistent (glasses : List Glass)
    (codec : JsonCodec Byte) (undoes : codec.UndoesBuilder)
    (noActive : ∀ glass ∈ glasses, glass.activeVolumes = [])
    (file : File Byte) (actions : List Action) :
    let state := actions.foldl (GlassStore.perform glasses codec)
      (initGlasses glasses codec file, file)
    (∀ id glass, state.1.find id = some glass →
      glass.activeVolumes.Pairwise (· < ·)) ∧
    (∀ order id volume,
      let changed :=
        state.1.addActiveVolume codec order .finished state.2 id volume
      (changed.result = true ↔ ∃ glass, state.1.find id = some glass ∧
        volume ∉ glass.activeVolumes) ∧
      (∀ other ≠ id, changed.store.find other = state.1.find other) ∧
      ∀ glass, state.1.find id = some glass → ∃ volumes,
        changed.store.find id = some { glass with activeVolumes := volumes } ∧
        ∀ other, other ∈ volumes ↔
          other = volume ∨ other ∈ glass.activeVolumes) ∧
    (∀ order id volume,
      let changed :=
        state.1.removeActiveVolume codec order .finished state.2 id volume
      (changed.result = true ↔ ∃ glass, state.1.find id = some glass ∧
        volume ∈ glass.activeVolumes) ∧
      (∀ other ≠ id, changed.store.find other = state.1.find other) ∧
      ∀ glass, state.1.find id = some glass → ∃ volumes,
        changed.store.find id = some { glass with activeVolumes := volumes } ∧
        ∀ other, other ∈ volumes ↔
          other ≠ volume ∧ other ∈ glass.activeVolumes) ∧
    ∀ id, (initGlasses glasses codec state.2).find id = state.1.find id := by
  intro state
  have persisted : Persisted glasses codec state :=
    persisted_of_run undoes noActive file actions
  refine ⟨?_, ?_, ?_, ?_⟩
  · exact fun id glass found => ascending_of_find persisted.ascending found
  · intro order id volume changed
    have meets := addActiveVolume_meets codec order state.2 id volume
      persisted.ascending
    refine ⟨meets.result_iff .finished,
      fun other differs => meets.find_other .finished differs,
      fun glass found => meets.find_addressed .finished ?_ found⟩
    intro volumes other present
    exact or_iff_right_of_imp fun same => same ▸ not_not.mp present
  · intro order id volume changed
    have meets := removeActiveVolume_meets codec order state.2 id volume
      persisted.ascending
    refine ⟨meets.result_iff .finished,
      fun other differs => meets.find_other .finished differs,
      fun glass found => meets.find_addressed .finished ?_ found⟩
    intro volumes other absent
    exact and_iff_right_of_imp fun member same => absent (same ▸ member)
  · intro id
    rw [persisted.reloads]

def twoGlasses : List Glass :=
  [⟨"highball", "Highball", [3 / 10], []⟩, ⟨"wine", "Wine glass", [1 / 5], []⟩]

def addToHighball : List Action :=
  [.add "highball" (3 / 10) .stored, .add "highball" (1 / 5) .stored]

theorem glassStore_ordered_and_persistent_twoGlasses :
    let state := addToHighball.foldl
      (GlassStore.perform twoGlasses JsonToken.codec)
      (initGlasses twoGlasses JsonToken.codec .missing, .missing)
    (initGlasses twoGlasses JsonToken.codec state.2).find "highball" =
      state.1.find "highball" :=
  (glassStore_ordered_and_persistent twoGlasses JsonToken.codec
    JsonToken.codec_undoesBuilder (by decide) .missing
    addToHighball).2.2.2 "highball"

end Runs

end GlassStore

end CocktailMaker
