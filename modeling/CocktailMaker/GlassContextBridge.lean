import CocktailMaker.GlassStore
import CocktailMaker.KeyedRows
import CocktailMaker.LabelledRun
import Mathlib.Data.Rat.Floor

/-!
# The glasses on the screen

`GlassContextBridge` shows glasses of the store in a list model.  A row of the
list points to a model of its own with the active volumes of its glass; the
volume models are kept apart here, and a row knows the number of its model.
Every change goes to the store first and then, when the glass is shown, to its
volume model.  Both kinds of models tell their observers what has changed.
-/

namespace CocktailMaker

namespace GlassContext

open AscendingVector

section Observing

variable {Row : Type}

inductive RowChange
  | rowAdded (index count : Nat)
  | rowRemoved (index count : Nat)
  deriving DecidableEq

/-- What an observer does with its copy, which can read the rows of the
model. -/
def RowChange.apply (rows copy : List Row) : RowChange → List Row
  | rowAdded index count =>
      copy.take index ++ (rows.drop index).take count ++ copy.drop index
  | rowRemoved index count => copy.take index ++ copy.drop (index + count)

/-- A copy of the old rows becomes a copy of the new ones. -/
def Explains (old : List Row) (changes : List RowChange) (rows : List Row) :
    Prop :=
  changes.foldl (RowChange.apply rows) old = rows

theorem explains_refl (rows : List Row) : Explains rows [] rows :=
  rfl

theorem explains_insertAt {rows : List Row} {index : Nat}
    (inside : index ≤ rows.length) (row : Row) :
    Explains rows [.rowAdded index 1] (insertAt rows index row) := by
  have lengthEq : (rows.take index).length = index :=
    List.length_take_of_le inside
  simp [Explains, RowChange.apply, insertAt, lengthEq]

theorem explains_concat (rows : List Row) (row : Row) :
    Explains rows [.rowAdded rows.length 1] (rows ++ [row]) := by
  simp [Explains, RowChange.apply]

theorem explains_eraseIdx (rows : List Row) (index : Nat) :
    Explains rows [.rowRemoved index 1] (rows.eraseIdx index) := by
  simp [Explains, RowChange.apply, List.eraseIdx_eq_take_drop_succ]

end Observing

/-- `std::llround`: the nearest integer, halves away from zero. -/
def llround (value : Rat) : Int :=
  if 0 ≤ value then ⌊value + 1 / 2⌋ else ⌈value - 1 / 2⌉

def formatMl (volume : Litre) : String :=
  toString (llround volume.inMilliLitre)

def toLitre (volumeMl : Int) : Litre :=
  milliLitre volumeMl

structure VolumeModel where
  volumes : List Litre
  deriving DecidableEq

namespace VolumeModel

/-- The constructor sorts the volumes. -/
def make (volumes : List Litre) : VolumeModel where
  volumes := volumes.insertionSort (· ≤ ·)

/-- All values of `row_data`. -/
def rows (model : VolumeModel) : List String :=
  model.volumes.map formatMl

def add (volume : Litre) (model : VolumeModel) :
    VolumeModel × List RowChange :=
  let it := lowerBound model.volumes volume
  if model.volumes[it]? = some volume then (model, [])
  else (⟨insertAt model.volumes it volume⟩, [.rowAdded it 1])

def remove (volume : Litre) (model : VolumeModel) :
    VolumeModel × List RowChange :=
  match model.volumes.idxOf? volume with
  | none => (model, [])
  | some index => (⟨model.volumes.eraseIdx index⟩, [.rowRemoved index 1])

end VolumeModel

/-- A row of the list, with the number of its volume model. -/
structure Entry where
  id : GlassId
  displayName : String
  commonVolumes : List String
  activeVolumes : Nat
  deriving DecidableEq

/-- The entries of `GlassListModel`, and all volume models made so far. -/
structure GlassList where
  entries : List Entry := []
  volumeModels : List VolumeModel := []
  deriving DecidableEq

namespace GlassList

def findIndex (list : GlassList) (glassId : GlassId) : Option Nat :=
  list.entries.findIdx? (·.id = glassId)

def add (list : GlassList) (glassId : GlassId) (glass : Glass) :
    GlassList × List RowChange :=
  match list.findIndex glassId with
  | some _ => (list, [])
  | none =>
      ({ entries := list.entries ++
          [{ id := glassId
             displayName := glass.displayName
             commonVolumes := glass.commonVolumes.map formatMl
             activeVolumes := list.volumeModels.length }]
         volumeModels :=
          list.volumeModels ++ [VolumeModel.make glass.activeVolumes] },
        [.rowAdded list.entries.length 1])

def remove (list : GlassList) (glassId : GlassId) :
    GlassList × List RowChange :=
  match list.findIndex glassId with
  | some index =>
      ({ list with entries := list.entries.eraseIdx index },
        [.rowRemoved index 1])
  | none => (list, [])

/-- The number of the volume model of a glass, if the glass is shown. -/
def volumeModel (list : GlassList) (glassId : GlassId) : Option Nat :=
  (list.findIndex glassId).bind fun index =>
    list.entries[index]?.map Entry.activeVolumes

end GlassList

/-- What one of the models tells its observers. -/
inductive Notification
  | glasses (change : RowChange)
  | volumes (model : Nat) (change : RowChange)

/-- The bridge, the store it changes, and the file of the store. -/
structure Bridge (Byte : Type) where
  store : GlassStore
  file : File Byte
  glasses : GlassList := {}

variable {Byte : Type}

namespace Bridge

/-- A start of the program: the glasses with an active volume are shown. -/
def start (glasses : List Glass) (codec : JsonCodec Byte) (order : GlassOrder)
    (file : File Byte) : Bridge Byte :=
  let store := GlassStore.initGlasses glasses codec file
  { store := store
    file := file
    glasses := (order.arrange store.glasses).foldl (fun list glass =>
      if glass.activeVolumes ≠ [] then (list.add glass.id glass).1
      else list) {} }

def onUiAddGlass (bridge : Bridge Byte) (glassId : GlassId) :
    Bridge Byte × List Notification :=
  match bridge.store.find glassId with
  | none => (bridge, [])
  | some glass =>
      let added := bridge.glasses.add glass.id glass
      ({ bridge with glasses := added.1 }, added.2.map .glasses)

def onUiRemoveGlass (bridge : Bridge Byte) (glassId : GlassId) :
    Bridge Byte × List Notification :=
  let removed := bridge.glasses.remove glassId
  ({ bridge with glasses := removed.1 }, removed.2.map .glasses)

/-- The common part of the two callbacks for volumes: the volume model follows
the store when the glass is shown. -/
def follow (bridge : Bridge Byte) (changed : GlassStore.Changed Byte)
    (glassId : GlassId)
    (change : VolumeModel → VolumeModel × List RowChange) :
    Bridge Byte × List Notification :=
  let stored := { bridge with store := changed.store, file := changed.file }
  if changed.result then
    match bridge.glasses.volumeModel glassId with
    | none => (stored, [])
    | some number =>
        match bridge.glasses.volumeModels[number]? with
        | none => (stored, [])
        | some volumes =>
            let followed := change volumes
            ({ stored with
                glasses := { bridge.glasses with
                  volumeModels :=
                    bridge.glasses.volumeModels.set number followed.1 } },
              followed.2.map (.volumes number))
  else (stored, [])

def onUiAddGlassVolume (bridge : Bridge Byte) (codec : JsonCodec Byte)
    (order : GlassOrder) (glassId : GlassId) (volumeMl : Int) :
    Bridge Byte × List Notification :=
  let volume := toLitre volumeMl
  bridge.follow (bridge.store.addActiveVolume codec order .finished
    bridge.file glassId volume) glassId (VolumeModel.add volume)

def onUiRemoveGlassVolume (bridge : Bridge Byte) (codec : JsonCodec Byte)
    (order : GlassOrder) (glassId : GlassId) (volumeMl : Int) :
    Bridge Byte × List Notification :=
  let volume := toLitre volumeMl
  bridge.follow (bridge.store.removeActiveVolume codec order .finished
    bridge.file glassId volume) glassId (VolumeModel.remove volume)

end Bridge

/-- What the operator does. -/
inductive Action
  | addGlass (glassId : GlassId)
  | removeGlass (glassId : GlassId)
  | addGlassVolume (glassId : GlassId) (volumeMl : Int) (order : GlassOrder)
  | removeGlassVolume (glassId : GlassId) (volumeMl : Int)
      (order : GlassOrder)

def Bridge.perform (bridge : Bridge Byte) (codec : JsonCodec Byte) :
    Action → Bridge Byte × List Notification
  | .addGlass glassId => bridge.onUiAddGlass glassId
  | .removeGlass glassId => bridge.onUiRemoveGlass glassId
  | .addGlassVolume glassId volumeMl order =>
      bridge.onUiAddGlassVolume codec order glassId volumeMl
  | .removeGlassVolume glassId volumeMl order =>
      bridge.onUiRemoveGlassVolume codec order glassId volumeMl

section Watching

/-- The rows that the observers of the models have copied. -/
@[ext]
structure Copies where
  entries : List Entry
  volumeRows : List (List String)

/-- Copies of all models as they are. -/
def Copies.of (list : GlassList) : Copies where
  entries := list.entries
  volumeRows := list.volumeModels.map VolumeModel.rows

def Notification.apply (list : GlassList) (copies : Copies) :
    Notification → Copies
  | glasses change =>
      { copies with entries := change.apply list.entries copies.entries }
  | volumes number change =>
      { copies with
        volumeRows := copies.volumeRows.modify number
          (change.apply (list.volumeModels[number]?.elim [] (·.rows))) }

/-- The observer of a new volume model starts with a copy of its rows. -/
def Copies.withNew (copies : Copies) (list : GlassList) : Copies where
  entries := copies.entries
  volumeRows := copies.volumeRows ++
    (list.volumeModels.drop copies.volumeRows.length).map VolumeModel.rows

/-- The observers follow the notifications from one list to the next. -/
def Follows (list : GlassList) (notifications : List Notification)
    (next : GlassList) : Prop :=
  (notifications.foldl (Notification.apply next) (.of list)).withNew next =
    .of next

/-- The bridge together with the copies of the observers. -/
structure Watched (Byte : Type) where
  bridge : Bridge Byte
  copies : Copies

/-- An action of the operator, and what the observers make of it. -/
def step (codec : JsonCodec Byte) (watched : Watched Byte) (action : Action) :
    Option (Watched Byte) :=
  let performed := watched.bridge.perform codec action
  let list := performed.1.glasses
  let copies :=
    performed.2.foldl (Notification.apply list) watched.copies
  some { bridge := performed.1, copies := copies.withNew list }

end Watching

section Lists

variable {list : GlassList} {glassId : GlassId}

theorem findIndex_eq_none :
    list.findIndex glassId = none ↔
      glassId ∉ list.entries.map Entry.id := by
  simp [GlassList.findIndex, List.findIdx?_eq_none_iff]

theorem findIndex_eq_some {index : Nat}
    (found : list.findIndex glassId = some index) :
    ∃ entry, list.entries[index]? = some entry ∧ entry.id = glassId := by
  obtain ⟨inside, isGlass, -⟩ := List.findIdx?_eq_some_iff_getElem.mp found
  exact ⟨_, List.getElem?_eq_getElem inside, by simpa using isGlass⟩

theorem volumeModel_eq_none :
    list.volumeModel glassId = none ↔
      glassId ∉ list.entries.map Entry.id := by
  rw [← findIndex_eq_none, GlassList.volumeModel]
  cases found : list.findIndex glassId with
  | none => simp
  | some index =>
      obtain ⟨entry, atIndex, -⟩ := findIndex_eq_some found
      simp [atIndex]

theorem volumeModel_eq_some {number : Nat}
    (found : list.volumeModel glassId = some number) :
    ∃ entry ∈ list.entries,
      entry.id = glassId ∧ entry.activeVolumes = number := by
  obtain ⟨index, foundIndex, atIndex⟩ := Option.bind_eq_some_iff.mp found
  obtain ⟨entry, isEntry, numberEq⟩ := Option.map_eq_some_iff.mp atIndex
  obtain ⟨same, isSame, isGlass⟩ := findIndex_eq_some foundIndex
  obtain rfl := Option.some.inj (isEntry.symm.trans isSame)
  exact ⟨entry, List.mem_of_getElem? isEntry, isGlass, numberEq⟩

/-- The row shows the glass with its id as the store has it. -/
def Shows (store : GlassStore) (volumeModels : List VolumeModel)
    (entry : Entry) : Prop :=
  ∃ glass, store.find entry.id = some glass ∧
    entry.displayName = glass.displayName ∧
    entry.commonVolumes = glass.commonVolumes.map formatMl ∧
    volumeModels[entry.activeVolumes]? = some ⟨glass.activeVolumes⟩

/-- Every row shows a glass of the store; no two rows show the same glass or
share a volume model. -/
structure Mirrors (store : GlassStore) (list : GlassList) : Prop where
  distinct : (list.entries.map Entry.id).Nodup
  separate : (list.entries.map Entry.activeVolumes).Nodup
  shows : ∀ entry ∈ list.entries, Shows store list.volumeModels entry

variable {store : GlassStore}

theorem mirrors_empty : Mirrors store {} :=
  ⟨List.nodup_nil, List.nodup_nil, nofun⟩

theorem number_lt (mirrors : Mirrors store list) {entry : Entry}
    (member : entry ∈ list.entries) :
    entry.activeVolumes < list.volumeModels.length := by
  obtain ⟨glass, -, -, -, model⟩ := mirrors.shows entry member
  exact (List.getElem?_eq_some_iff.mp model).1

theorem VolumeModel.make_of_ascending {volumes : List Litre}
    (ascending : Ascending volumes) :
    VolumeModel.make volumes = ⟨volumes⟩ := by
  rw [VolumeModel.make,
    List.Pairwise.insertionSort_eq (ascending.imp le_of_lt)]

theorem mirrors_add (mirrors : Mirrors store list) {glass : Glass}
    (known : store.find glassId = some glass)
    (ascending : Ascending glass.activeVolumes) :
    Mirrors store (list.add glassId glass).1 := by
  unfold GlassList.add
  cases found : list.findIndex glassId with
  | some index => exact mirrors
  | none =>
      have notShown := findIndex_eq_none.mp found
      refine ⟨?_, ?_, ?_⟩
      · rw [List.map_append, List.map_singleton, ← List.concat_eq_append]
        exact mirrors.distinct.concat notShown
      · rw [List.map_append, List.map_singleton, ← List.concat_eq_append]
        refine mirrors.separate.concat fun member => ?_
        obtain ⟨entry, isEntry, number⟩ := List.mem_map.mp member
        exact absurd (number_lt mirrors isEntry) (by simp [number])
      · intro entry member
        rcases List.mem_append.mp member with old | new
        · obtain ⟨shown, find, name, common, model⟩ := mirrors.shows entry old
          exact ⟨shown, find, name, common,
            (List.getElem?_append_left (number_lt mirrors old)).trans model⟩
        · obtain rfl := List.mem_singleton.mp new
          refine ⟨glass, known, rfl, rfl, ?_⟩
          rw [List.getElem?_concat_length,
            VolumeModel.make_of_ascending ascending]

theorem mirrors_remove (mirrors : Mirrors store list) (glassId : GlassId) :
    Mirrors store (list.remove glassId).1 := by
  unfold GlassList.remove
  cases list.findIndex glassId with
  | none => exact mirrors
  | some index =>
      have sublist := List.eraseIdx_sublist list.entries index
      exact ⟨mirrors.distinct.sublist (sublist.map _),
        mirrors.separate.sublist (sublist.map _),
        fun entry member => mirrors.shows entry (sublist.subset member)⟩

theorem mirrors_set_hidden (mirrors : Mirrors store list)
    (hidden : glassId ∉ list.entries.map Entry.id) (volumes : List Litre) :
    Mirrors (store.setActiveVolumes glassId volumes) list := by
  refine ⟨mirrors.distinct, mirrors.separate, fun entry member => ?_⟩
  have differs : entry.id ≠ glassId := fun same =>
    hidden (List.mem_map.mpr ⟨entry, member, same⟩)
  obtain ⟨glass, find, rest⟩ := mirrors.shows entry member
  exact ⟨glass, by rwa [store.find_setActiveVolumes, if_neg differs], rest⟩

/-- A change of the volumes of a shown glass reaches its volume model. -/
theorem mirrors_set_shown (mirrors : Mirrors store list) {number : Nat}
    (shown : list.volumeModel glassId = some number) (volumes : List Litre) :
    Mirrors (store.setActiveVolumes glassId volumes)
      { list with
        volumeModels := list.volumeModels.set number ⟨volumes⟩ } := by
  refine ⟨mirrors.distinct, mirrors.separate, fun entry member => ?_⟩
  obtain ⟨same, isSame, sameId, sameNumber⟩ := volumeModel_eq_some shown
  obtain ⟨glass, find, name, common, model⟩ := mirrors.shows entry member
  by_cases isGlass : entry.id = glassId
  · have isShown : entry = same := KeyedRows.row_eq_of_key_eq
      mirrors.distinct member isSame (isGlass.trans sameId.symm)
    refine ⟨{ glass with activeVolumes := volumes }, ?_, name, common, ?_⟩
    · rw [store.find_setActiveVolumes, if_pos isGlass, find, Option.map_some]
    · rw [isShown, sameNumber, List.getElem?_set_self]
      rw [← sameNumber]
      exact number_lt mirrors isSame
  · have differs : number ≠ entry.activeVolumes := by
      rintro rfl
      exact isGlass ((congrArg Entry.id (KeyedRows.row_eq_of_key_eq
        mirrors.separate member isSame sameNumber.symm)).trans sameId)
    refine ⟨glass, ?_, name, common, ?_⟩
    · rwa [store.find_setActiveVolumes, if_neg isGlass]
    · rwa [List.getElem?_set_ne differs]

end Lists

section Following

variable {list next : GlassList} {changes : List RowChange}

theorem foldl_glasses (changes : List RowChange) (copies : Copies) :
    (changes.map Notification.glasses).foldl (Notification.apply next)
        copies =
      { copies with
        entries :=
          changes.foldl (RowChange.apply next.entries) copies.entries } := by
  induction changes generalizing copies with
  | nil => rfl
  | cons change changes ih => exact ih _

theorem foldl_volumes (number : Nat) (changes : List RowChange)
    (copies : Copies) :
    (changes.map (Notification.volumes number)).foldl
        (Notification.apply next) copies =
      { copies with
        volumeRows := copies.volumeRows.modify number
          (changes.foldl (RowChange.apply
            (next.volumeModels[number]?.elim [] (·.rows)))) } := by
  induction changes generalizing copies with
  | nil =>
      ext1
      · rfl
      · exact (List.modify_id number copies.volumeRows).symm
  | cons change changes ih =>
      refine (ih _).trans ?_
      ext1
      · rfl
      · exact List.modify_modify_eq _ _ _ _

theorem follows_glasses
    (explains : Explains list.entries changes next.entries)
    (grows : list.volumeModels <+: next.volumeModels) :
    Follows list (changes.map .glasses) next := by
  obtain ⟨new, grown⟩ := grows
  rw [Follows, foldl_glasses]
  ext1
  · exact explains
  · simp [Copies.withNew, Copies.of, ← grown]

theorem follows_volumes {number : Nat} {model changed : VolumeModel}
    (found : list.volumeModels[number]? = some model)
    (explains : Explains model.rows changes changed.rows) :
    Follows list (changes.map (.volumes number))
      { list with volumeModels := list.volumeModels.set number changed } := by
  have inside := (List.getElem?_eq_some_iff.mp found).1
  have rows : (list.volumeModels.set number changed)[number]?.elim []
      (·.rows) = changed.rows := by
    rw [List.getElem?_set_self inside]
    rfl
  have modified : (list.volumeModels.map VolumeModel.rows).modify number
        (changes.foldl (RowChange.apply changed.rows)) =
      (list.volumeModels.set number changed).map VolumeModel.rows := by
    refine List.ext_getElem? fun place => ?_
    rw [List.getElem?_modify, List.getElem?_map, List.getElem?_map]
    by_cases here : number = place
    · subst here
      rw [found, List.getElem?_set_self inside]
      simp only [Option.map_some, Option.map_eq_map, if_true]
      exact congrArg some explains
    · rw [List.getElem?_set_ne here]
      simp [here]
  rw [Follows, foldl_volumes]
  ext1
  · rfl
  · simp only [Copies.withNew, Copies.of, rows, modified, List.length_map,
      List.drop_length, List.map_nil, List.append_nil]

/-- What a change of a volume model does to its rows, and what it tells. -/
structure Turns (change : VolumeModel → VolumeModel × List RowChange)
    (target : List Litre → Litre → Prop) (model : VolumeModel) : Prop where
  ascending : Ascending (change model).1.volumes
  exactly : ∀ other,
    other ∈ (change model).1.volumes ↔ target model.volumes other
  explains : Explains model.rows (change model).2 (change model).1.rows

theorem turns_add {model : VolumeModel} (ascending : Ascending model.volumes)
    (volume : Litre) :
    Turns (VolumeModel.add volume)
      (fun volumes other => other = volume ∨ other ∈ volumes) model := by
  have inside := (ascending.splitsAt_lowerBound volume).1
  have found : model.volumes[lowerBound model.volumes volume]? = some volume ↔
      volume ∈ model.volumes := ascending.getElem_lowerBound
  by_cases present : volume ∈ model.volumes
  · have unchanged : VolumeModel.add volume model = (model, []) :=
      if_pos (found.mpr present)
    constructor
    · rwa [unchanged]
    · intro other
      rw [unchanged]
      exact (or_iff_right_of_imp fun same => same ▸ present).symm
    · rw [unchanged]
      exact explains_refl _
  · have inserted : VolumeModel.add volume model =
        (⟨insertAt model.volumes (lowerBound model.volumes volume) volume⟩,
          [.rowAdded (lowerBound model.volumes volume) 1]) :=
      if_neg (found.not.mpr present)
    constructor
    · rw [inserted]
      exact ascending.insertAt_lowerBound present
    · intro other
      rw [inserted]
      exact mem_insertAt
    · rw [inserted, VolumeModel.rows, VolumeModel.rows]
      simp only [insertAt, List.map_append, List.map_cons, List.map_take,
        List.map_drop]
      exact explains_insertAt (by rwa [List.length_map]) _

theorem turns_remove {model : VolumeModel}
    (ascending : Ascending model.volumes) (volume : Litre) :
    Turns (VolumeModel.remove volume)
      (fun volumes other => other ≠ volume ∧ other ∈ volumes) model := by
  have erased := List.erase_eq_eraseIdx model.volumes volume
  have volumesEq : (VolumeModel.remove volume model).1.volumes =
      model.volumes.erase volume := by
    rw [erased]
    unfold VolumeModel.remove
    cases model.volumes.idxOf? volume <;> rfl
  constructor
  · rw [volumesEq]
    exact ascending.erase volume
  · intro other
    rw [volumesEq]
    exact ascending.mem_erase
  · unfold VolumeModel.remove
    cases model.volumes.idxOf? volume with
    | none => exact explains_refl _
    | some index =>
        simp only [VolumeModel.rows, ← List.eraseIdx_map]
        exact explains_eraseIdx _ index

theorem follows_refl (list : GlassList) : Follows list [] list :=
  follows_glasses (explains_refl _) List.prefix_rfl

theorem follows_add (list : GlassList) (glassId : GlassId) (glass : Glass) :
    Follows list ((list.add glassId glass).2.map .glasses)
      (list.add glassId glass).1 := by
  unfold GlassList.add
  cases list.findIndex glassId with
  | some index => exact follows_refl list
  | none =>
      exact follows_glasses (explains_concat _ _) (List.prefix_append _ _)

theorem follows_remove (list : GlassList) (glassId : GlassId) :
    Follows list ((list.remove glassId).2.map .glasses)
      (list.remove glassId).1 := by
  unfold GlassList.remove
  cases list.findIndex glassId with
  | none => exact follows_refl list
  | some index =>
      exact follows_glasses (explains_eraseIdx _ index) List.prefix_rfl

theorem follow_hidden {bridge : Bridge Byte} {glassId : GlassId}
    (hidden : bridge.glasses.volumeModel glassId = none)
    (changed : GlassStore.Changed Byte)
    (change : VolumeModel → VolumeModel × List RowChange) :
    bridge.follow changed glassId change =
      ({ bridge with store := changed.store, file := changed.file }, []) := by
  simp only [Bridge.follow, hidden, ite_self]

theorem follow_shown {bridge : Bridge Byte} {glassId : GlassId} {number : Nat}
    {model : VolumeModel}
    (shown : bridge.glasses.volumeModel glassId = some number)
    (found : bridge.glasses.volumeModels[number]? = some model)
    {changed : GlassStore.Changed Byte} (updated : changed.result = true)
    (change : VolumeModel → VolumeModel × List RowChange) :
    bridge.follow changed glassId change =
      ({ store := changed.store
         file := changed.file
         glasses := { bridge.glasses with
          volumeModels :=
            bridge.glasses.volumeModels.set number (change model).1 } },
        (change model).2.map (.volumes number)) := by
  simp only [Bridge.follow, updated, shown, found, if_true]

/-- A callback for volumes has stored a change, and the models follow it. -/
structure Followed (bridge : Bridge Byte) (changed : GlassStore.Changed Byte)
    (followed : Bridge Byte × List Notification) : Prop where
  store : followed.1.store = changed.store
  file : followed.1.file = changed.file
  entries : followed.1.glasses.entries = bridge.glasses.entries
  ascending : followed.1.store.AllAscending
  mirrors : Mirrors followed.1.store followed.1.glasses
  follows : Follows bridge.glasses followed.2 followed.1.glasses

variable {bridge : Bridge Byte}

/-- A change of the store and of a volume model agree. -/
theorem follow_spec {codec : JsonCodec Byte}
    {order : GlassOrder} {glassId : GlassId}
    {changed : WriteOutcome → GlassStore.Changed Byte}
    {allowed : List Litre → Prop} {target : List Litre → Litre → Prop}
    {change : VolumeModel → VolumeModel × List RowChange}
    (ascending : bridge.store.AllAscending)
    (mirrors : Mirrors bridge.store bridge.glasses)
    (meets : GlassStore.Meets codec order bridge.file glassId changed
      bridge.store allowed target)
    (turns : ∀ model : VolumeModel, Ascending model.volumes →
      Turns change target model) :
    Followed bridge (changed .finished)
      (bridge.follow (changed .finished) glassId change) := by
  rcases meets with
    ⟨glass, volumes, known, -, ordered, members, rfl⟩ | ⟨-, rfl⟩
  · have nextAscending :=
      GlassStore.allAscending_setActiveVolumes ascending glassId ordered
    cases shown : bridge.glasses.volumeModel glassId with
    | none =>
        rw [follow_hidden shown]
        exact ⟨rfl, rfl, rfl, nextAscending,
          mirrors_set_hidden mirrors (volumeModel_eq_none.mp shown) volumes,
          follows_refl _⟩
    | some number =>
        obtain ⟨entry, isEntry, isGlass, numberEq⟩ :=
          volumeModel_eq_some shown
        obtain ⟨same, isSame, -, -, model⟩ := mirrors.shows entry isEntry
        rw [isGlass, known, Option.some.injEq] at isSame
        subst isSame
        rw [numberEq] at model
        have turned := turns ⟨glass.activeVolumes⟩
          (GlassStore.ascending_of_find ascending known)
        have sameVolumes : (change ⟨glass.activeVolumes⟩).1 = ⟨volumes⟩ :=
          congrArg VolumeModel.mk (turned.ascending.eq_of_mem_iff ordered
            fun other => (turned.exactly other).trans (members other).symm)
        have mirrored := mirrors_set_shown mirrors shown volumes
        have follows := follows_volumes model turned.explains
        rw [← sameVolumes] at mirrored
        rw [follow_shown shown model rfl]
        exact ⟨rfl, rfl, rfl, nextAscending, mirrored, follows⟩
  · exact ⟨rfl, rfl, rfl, ascending, mirrors, follows_refl _⟩

section Callbacks

variable (ascending : bridge.store.AllAscending)
  (mirrors : Mirrors bridge.store bridge.glasses) (codec : JsonCodec Byte)
  (order : GlassOrder) (glassId : GlassId) (volumeMl : Int)

include ascending mirrors

theorem onUiAddGlassVolume_spec :
    Followed bridge
      (bridge.store.addActiveVolume codec order .finished bridge.file glassId
        (toLitre volumeMl))
      (bridge.onUiAddGlassVolume codec order glassId volumeMl) :=
  follow_spec ascending mirrors
    (GlassStore.addActiveVolume_meets codec order bridge.file glassId
      (toLitre volumeMl) ascending)
    fun _ ordered => turns_add ordered _

theorem onUiRemoveGlassVolume_spec :
    Followed bridge
      (bridge.store.removeActiveVolume codec order .finished bridge.file
        glassId (toLitre volumeMl))
      (bridge.onUiRemoveGlassVolume codec order glassId volumeMl) :=
  follow_spec ascending mirrors
    (GlassStore.removeActiveVolume_meets codec order bridge.file glassId
      (toLitre volumeMl) ascending)
    fun _ ordered => turns_remove ordered _

end Callbacks

end Following

section Runs

variable {list : GlassList} {store : GlassStore} {glasses : List Glass}
  {codec : JsonCodec Byte}

/-- The ids of the glasses that are shown. -/
def GlassList.ids (list : GlassList) : List GlassId :=
  list.entries.map Entry.id

theorem mem_ids_add {glassId other : GlassId} {glass : Glass} :
    other ∈ (list.add glassId glass).1.ids ↔
      other ∈ list.ids ∨ other = glassId := by
  unfold GlassList.add
  cases found : list.findIndex glassId with
  | none => simp [GlassList.ids]
  | some index =>
      obtain ⟨entry, atIndex, isGlass⟩ := findIndex_eq_some found
      refine (or_iff_left_of_imp ?_).symm
      rintro rfl
      exact List.mem_map.mpr ⟨entry, List.mem_of_getElem? atIndex, isGlass⟩

theorem mem_ids_remove {glassId other : GlassId} (distinct : list.ids.Nodup) :
    other ∈ (list.remove glassId).1.ids ↔
      other ∈ list.ids ∧ other ≠ glassId := by
  unfold GlassList.remove
  cases found : list.findIndex glassId with
  | none =>
      refine (and_iff_left_of_imp ?_).symm
      rintro shown rfl
      exact findIndex_eq_none.mp found shown
  | some index =>
      obtain ⟨entry, atIndex, isGlass⟩ := findIndex_eq_some found
      have atId : list.ids[index]? = some glassId := by
        rw [GlassList.ids, List.getElem?_map, atIndex, Option.map_some,
          isGlass]
      obtain ⟨inside, isId⟩ := List.getElem?_eq_some_iff.mp atId
      have erased : (list.entries.eraseIdx index).map Entry.id =
          list.ids.erase glassId := by
        rw [← List.eraseIdx_map, ← isId, List.erase_eq_eraseIdx_of_idxOf
          (distinct.idxOf_getElem index inside)]
        rfl
      rw [GlassList.ids, erased, distinct.mem_erase_iff]
      exact and_comm

theorem foldl_add (ascending : store.AllAscending)
    (known : ∀ glass ∈ glasses, glass ∈ store.glasses) :
    let list := glasses.foldl (fun list glass =>
      if glass.activeVolumes ≠ [] then (list.add glass.id glass).1
      else list) {}
    Mirrors store list ∧ ∀ id, id ∈ list.ids ↔
      ∃ glass ∈ glasses, glass.id = id ∧ glass.activeVolumes ≠ [] := by
  induction glasses using List.reverseRecOn with
  | nil => exact ⟨mirrors_empty, fun id => by simp [GlassList.ids]⟩
  | append_singleton before glass ih =>
      obtain ⟨mirrors, shown⟩ :=
        ih fun other member => known other (List.mem_append_left _ member)
      have isKnown := known glass (by simp)
      simp only [List.foldl_append, List.foldl_cons, List.foldl_nil]
      split
      · next active =>
          refine ⟨mirrors_add mirrors
            (store.find_eq_some_iff.mpr ⟨isKnown, rfl⟩)
            (ascending glass isKnown), fun id => ?_⟩
          rw [mem_ids_add, shown]
          simp [or_and_right, exists_or, active, eq_comm]
      · next inactive =>
          refine ⟨mirrors, fun id => ?_⟩
          rw [shown]
          simp [or_and_right, exists_or, inactive]

/-- The store, the list and the copies of the observers agree. -/
structure InStep (watched : Watched Byte) : Prop where
  ascending : watched.bridge.store.AllAscending
  mirrors : Mirrors watched.bridge.store watched.bridge.glasses
  copied : watched.copies = .of watched.bridge.glasses

/-- Observers that start with copies of all rows. -/
def Bridge.watch (bridge : Bridge Byte) : Watched Byte where
  bridge := bridge
  copies := .of bridge.glasses

theorem inStep_start
    (noActive : ∀ glass ∈ glasses, glass.activeVolumes = [])
    (order : GlassOrder) (file : File Byte) :
    InStep (Bridge.start glasses codec order file).watch := by
  have ascending : (GlassStore.initGlasses glasses codec file).AllAscending :=
    (GlassStore.persisted_init noActive file).ascending
  refine ⟨ascending, (foldl_add ascending fun glass member => ?_).1, rfl⟩
  exact (order.perm _).mem_iff.mp member

theorem inStep_step {watched next : Watched Byte} {action : Action}
    (inStep : InStep watched) (stepped : step codec watched action = some next) :
    InStep next := by
  obtain ⟨ascending, mirrors, copied⟩ := inStep
  obtain rfl := Option.some.inj stepped
  rw [copied]
  cases action with
  | addGlass glassId =>
      simp only [Bridge.perform, Bridge.onUiAddGlass]
      cases known : watched.bridge.store.find glassId with
      | none => exact ⟨ascending, mirrors, follows_refl _⟩
      | some glass =>
          have isGlass := (GlassStore.find_eq_some_iff _).mp known
          refine ⟨ascending, mirrors_add mirrors ?_
            (GlassStore.ascending_of_find ascending known), follows_add _ _ _⟩
          rwa [isGlass.2]
  | removeGlass glassId =>
      exact ⟨ascending, mirrors_remove mirrors glassId, follows_remove _ _⟩
  | addGlassVolume glassId volumeMl order =>
      have followed := onUiAddGlassVolume_spec ascending mirrors codec order
        glassId volumeMl
      exact ⟨followed.ascending, followed.mirrors, followed.follows⟩
  | removeGlassVolume glassId volumeMl order =>
      have followed := onUiRemoveGlassVolume_spec ascending mirrors codec
        order glassId volumeMl
      exact ⟨followed.ascending, followed.mirrors, followed.follows⟩

/-- Whatever the operator does, every volume model holds the active volumes of
its glass, no glass is shown twice, and the observers hold the rows. -/
theorem models_inStep
    (noActive : ∀ glass ∈ glasses, glass.activeVolumes = [])
    (order : GlassOrder) (file : File Byte) (actions : List Action)
    (last : Watched Byte)
    (ran : LabelledRun.run (step codec)
      (Bridge.start glasses codec order file).watch actions = some last) :
    let list := last.bridge.glasses
    (∀ entry ∈ list.entries, ∃ glass model,
        last.bridge.store.find entry.id = some glass ∧
        list.volumeModels[entry.activeVolumes]? = some model ∧
        model.volumes = glass.activeVolumes ∧
        model.volumes.Pairwise (· < ·)) ∧
      (list.entries.map Entry.id).Nodup ∧
      last.copies.entries = list.entries ∧
      last.copies.volumeRows = list.volumeModels.map VolumeModel.rows := by
  intro list
  obtain ⟨ascending, mirrors, copied⟩ :=
    LabelledRun.invariant_of_run InStep
      (fun _ _ _ inStep stepped => inStep_step inStep stepped)
      (inStep_start noActive order file) ran
  refine ⟨fun entry member => ?_, mirrors.distinct,
    congrArg Copies.entries copied, congrArg Copies.volumeRows copied⟩
  obtain ⟨glass, known, -, -, model⟩ := mirrors.shows entry member
  exact ⟨glass, _, known, model, rfl,
    GlassStore.ascending_of_find ascending known⟩

/-- A glass is removed and shown again between two volume changes. -/
def removedAndShown : List Action :=
  [.addGlass "highball", .addGlassVolume "highball" 300 .stored,
    .removeGlass "highball", .addGlass "highball",
    .addGlassVolume "highball" 200 .stored]

theorem models_inStep_removedAndShown :
    ∃ last, LabelledRun.run (step JsonToken.codec)
        (Bridge.start GlassStore.twoGlasses JsonToken.codec .stored
          .missing).watch removedAndShown = some last ∧
      last.copies.entries = last.bridge.glasses.entries :=
  ⟨_, rfl, (models_inStep (by decide) .stored .missing removedAndShown _
    rfl).2.2.1⟩

end Runs

end GlassContext

end CocktailMaker
