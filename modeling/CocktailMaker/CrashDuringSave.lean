import CocktailMaker.GlassStore
import CocktailMaker.StationConfig

/-!
# Stopping while a store is written

Both stores truncate their file and write the whole document into it.  When the
process stops in between, the file holds the beginning of the new document, and
the next start reads what is left of it.  A torn document never describes
anything that the new document does not describe, but it may describe less.
-/

namespace CocktailMaker

open AscendingVector

variable {Byte : Type*}

section Entries

variable {json torn : Json}

/-- What can still be read of a torn mapping is as it was. -/
theorem readEntry_torn (tears : Json.Torn json torn)
    {read : IngredientId × PodId × Int}
    (ok : StationConfig.readEntry torn = .ok read) :
    StationConfig.readEntry json = .ok read := by
  unfold StationConfig.readEntry at ok ⊢
  obtain ⟨tornFields, isObject, ok⟩ := except_bind_eq_ok.mp ok
  obtain ⟨ingredientId, readIngredient, ok⟩ := except_bind_eq_ok.mp ok
  obtain ⟨podId, readPod, ok⟩ := except_bind_eq_ok.mp ok
  obtain ⟨dispenserId, readDispenser, ok⟩ := except_bind_eq_ok.mp ok
  obtain ⟨fields, whole, tornField⟩ := tears.getObject_eq_ok isObject
  refine except_bind_eq_ok.mpr ⟨fields, whole, ?_⟩
  refine except_bind_eq_ok.mpr
    ⟨ingredientId, (tornField _).getString_eq_ok readIngredient, ?_⟩
  refine except_bind_eq_ok.mpr
    ⟨podId, (tornField _).getString_eq_ok readPod, ?_⟩
  exact except_bind_eq_ok.mpr
    ⟨dispenserId, (tornField _).getInt64_eq_ok readDispenser, ok⟩

/-- What can still be read of a torn glass are its first volumes. -/
theorem readGlassEntry_torn (tears : Json.Torn json torn)
    {read : GlassId × List Json}
    (ok : GlassStore.readGlassEntry torn = .ok read) :
    ∃ volumes, GlassStore.readGlassEntry json = .ok (read.1, volumes) ∧
      read.2.filterMap (fun value => value.getNumber.toOption) <+:
        volumes.filterMap fun value => value.getNumber.toOption := by
  unfold GlassStore.readGlassEntry at ok ⊢
  obtain ⟨tornFields, isObject, ok⟩ := except_bind_eq_ok.mp ok
  obtain ⟨glassId, readId, ok⟩ := except_bind_eq_ok.mp ok
  obtain ⟨tornVolumes, isArray, ok⟩ := except_bind_eq_ok.mp ok
  obtain rfl := Except.ok.inj ok
  obtain ⟨fields, whole, tornField⟩ := tears.getObject_eq_ok isObject
  obtain ⟨volumes, wholeVolumes, firstNumbers⟩ :=
    (tornField "active_volumes").getNumber_getArray isArray
  refine ⟨volumes, ?_, firstNumbers⟩
  refine except_bind_eq_ok.mpr ⟨fields, whole, ?_⟩
  refine except_bind_eq_ok.mpr
    ⟨glassId, (tornField _).getString_eq_ok readId, ?_⟩
  exact except_bind_eq_ok.mpr ⟨volumes, wholeVolumes, rfl⟩

end Entries

section Station

variable {store : IngredientStore} {codec : JsonCodec Byte}

/-- Every mapping that is read from the beginning of a saved document stands
in the document. -/
theorem mem_wellFormedEntries_torn (tears : codec.TearsTruncated)
    {config : StationConfig store}
    {order : IterationOrder IngredientId PodDispenser} {text : List Byte}
    (truncated : text <+: config.savedText codec order) {mappings : List Json}
    (stored : (File.content text).storedArray codec "mappings" = some mappings)
    {read : IngredientId × PodId × Int}
    (member : read ∈ StationConfig.wellFormedEntries mappings) :
    ∃ dispenser, config.mapping.lookup read.1 = some dispenser ∧
      read.2 = (dispenser.podId, dispenser.dispenserId.toInt) := by
  obtain ⟨torn, tornArray, isArray⟩ := File.storedArray_torn tears
    (StationConfig.complete_mappingFields _) truncated stored
  obtain ⟨elements, whole, fromArray⟩ := tornArray.mem_getArray isArray
  obtain rfl := Except.ok.inj whole
  obtain ⟨value, inMappings, readsValue⟩ := List.mem_filterMap.mp member
  have readValue : StationConfig.readEntry value = .ok read := by
    cases readEntry : StationConfig.readEntry value with
    | error reason => simp [readEntry, Except.toOption] at readsValue
    | ok other => simpa [readEntry, Except.toOption] using readsValue
  rcases fromArray value inMappings with
    ⟨reason, rfl⟩ | ⟨element, inDocument, tornElement⟩
  · cases readValue
  · obtain ⟨entry, inOrder, rfl⟩ := List.mem_map.mp inDocument
    have readWhole := readEntry_torn tornElement readValue
    rw [StationConfig.readEntry_entryDocument] at readWhole
    obtain rfl := Except.ok.inj readWhole
    exact ⟨entry.2, (order.mem_entries config.mapping).mp inOrder, rfl⟩

/-- The next start holds the assignment after reading the file. -/
def StationConfig.Reads (codec : JsonCodec Byte) (file : File Byte)
    (config : StationConfig store) : Prop :=
  ∀ ingredientId,
    ((StationConfig.empty : StationConfig store).init codec file).mapping.lookup
      ingredientId = config.mapping.lookup ingredientId

theorem lookup_init_torn (tears : codec.TearsTruncated)
    {config : StationConfig store}
    {order : IterationOrder IngredientId PodDispenser} {text : List Byte}
    (truncated : text <+: config.savedText codec order)
    {ingredientId : IngredientId} {dispenser : PodDispenser}
    (loaded : ((StationConfig.empty : StationConfig store).init codec
      (.content text)).mapping.lookup ingredientId = some dispenser) :
    config.mapping.lookup ingredientId = some dispenser := by
  unfold StationConfig.init StationConfig.loadConfigFromFile at loaded
  cases stored : (File.content text).storedArray codec "mappings" with
  | none => rw [stored] at loaded; cases loaded
  | some mappings =>
      simp only [stored] at loaded
      have isKnown : (store.findById ingredientId).isSome := by
        by_contra unknown
        rw [StationConfig.lookup_unknown _ unknown] at loaded
        cases loaded
      rw [StationConfig.lookup_foldl_loadEntry _ isKnown] at loaded
      obtain ⟨raw, last, rfl⟩ := Option.map_eq_some_iff.mp loaded
      obtain ⟨saved, assigned, sameRaw⟩ := mem_wellFormedEntries_torn tears
        truncated stored (mem_of_lastValue_eq_some last)
      have sameDispenser : StationConfig.toPodDispenser raw = saved := by
        obtain rfl : raw = _ := sameRaw
        simp [StationConfig.toPodDispenser]
      rw [sameDispenser]
      exact assigned

/-- A torn document with a single assignment reads as none or as that one. -/
theorem reads_torn_single (tears : codec.TearsTruncated)
    {before saved : StationConfig store} {assigned : IngredientId}
    {order : IterationOrder IngredientId PodDispenser} {text : List Byte}
    (truncated : text <+: saved.savedText codec order)
    (nothing : ∀ ingredientId, before.mapping.lookup ingredientId = none)
    (single : ∀ other ≠ assigned, saved.mapping.lookup other = none) :
    before.Reads codec (.content text) ∨ saved.Reads codec (.content text) := by
  let next := (StationConfig.empty : StationConfig store).init codec
    (.content text)
  have onlyAssigned : ∀ other ≠ assigned,
      next.mapping.lookup other = none := by
    intro other differs
    cases loaded : next.mapping.lookup other with
    | none => rfl
    | some dispenser =>
        have wasSaved := lookup_init_torn tears truncated loaded
        rw [single other differs] at wasSaved
        cases wasSaved
  cases loaded : next.mapping.lookup assigned with
  | none =>
      refine Or.inl fun other => ?_
      rw [nothing]
      by_cases isAssigned : other = assigned
      · exact isAssigned ▸ loaded
      · exact onlyAssigned other isAssigned
  | some dispenser =>
      refine Or.inr fun other => ?_
      by_cases isAssigned : other = assigned
      · rw [isAssigned]
        exact loaded.trans (lookup_init_torn tears truncated loaded).symm
      · rw [single other isAssigned]
        exact onlyAssigned other isAssigned

theorem lookup_init_empty (rejects : codec.RejectsEmpty)
    (ingredientId : IngredientId) :
    ((StationConfig.empty : StationConfig store).init codec
      (.content [])).mapping.lookup ingredientId = none := by
  obtain ⟨reason, failed⟩ := rejects
  unfold StationConfig.init StationConfig.loadConfigFromFile
  rw [File.storedArray_of_error failed]
  rfl

/-- The file after the process stopped during an update. -/
def StationConfig.stopped (codec : JsonCodec Byte)
    (station : StationConfig store × File Byte)
    (call : StationConfig.UpdateCall) (written : Nat) : File Byte :=
  (StationConfig.updateDispenserIngredientMapping codec station
    { call with outcome := .stoppedAfter written }).2

/-- Wherever the process stops during the update, the next start holds the
assignment before it or the one after it. -/
def StationConfig.SurvivesStop (codec : JsonCodec Byte)
    (config : StationConfig store) (file : File Byte)
    (call : StationConfig.UpdateCall) : Prop :=
  ∀ written,
    config.Reads codec (stopped codec (config, file) call written) ∨
      (updateDispenserIngredientMapping codec (config, file) call).1.Reads codec
        (stopped codec (config, file) call written)

/-- The stored assignment survives any stop during an update exactly when
nothing was assigned, or nothing is written. -/
theorem station_survives_iff (rejects : codec.RejectsEmpty)
    (tears : codec.TearsTruncated) {config : StationConfig store}
    {file : File Byte} (stored : config.Reads codec file)
    (call : StationConfig.UpdateCall) :
    config.SurvivesStop codec file call ↔
      store.findById call.ingredientId = none ∨
        ∀ ingredientId, config.mapping.lookup ingredientId = none := by
  by_cases isKnown : (store.findById call.ingredientId).isSome
  case neg =>
    have unknown := Option.not_isSome_iff_eq_none.mp isKnown
    refine iff_of_true (fun written => Or.inl ?_) (Or.inl unknown)
    simpa [StationConfig.stopped, StationConfig.updateDispenserIngredientMapping,
      unknown] using stored
  case pos =>
    let after := config.insertOrAssign call.ingredientId isKnown
      call.podDispenser
    have updated : (StationConfig.updateDispenserIngredientMapping codec
        (config, file) call).1 = after := by
      simp [StationConfig.updateDispenserIngredientMapping, isKnown, after]
    have content (written : Nat) :
        StationConfig.stopped codec (config, file) call written =
          .content ((after.savedText codec call.order).take written) := by
      simp [StationConfig.stopped, isKnown, after,
        StationConfig.updateDispenserIngredientMapping,
        StationConfig.saveConfigToFile, File.write]
    have lookupAfter (other : IngredientId) : after.mapping.lookup other =
        if other = call.ingredientId then some call.podDispenser
        else config.mapping.lookup other :=
      lookup_insert_ite config.mapping _ other _
    simp only [StationConfig.SurvivesStop, updated, content]
    constructor
    · intro survives
      right
      rcases survives 0 with readsBefore | readsAfter
      · intro other
        rw [← readsBefore other]
        exact lookup_init_empty rejects other
      · have lost := readsAfter call.ingredientId
        rw [lookupAfter, if_pos rfl] at lost
        exact absurd ((lookup_init_empty rejects _).symm.trans lost)
          (by simp)
    · rintro (unknown | nothing) written
      · simp [unknown] at isKnown
      · have single : ∀ other ≠ call.ingredientId,
            after.mapping.lookup other = none := by
          intro other differs
          rw [lookupAfter, if_neg differs, nothing]
        exact reads_torn_single tears
          ( List.take_prefix written (after.savedText codec call.order)) nothing
          single

end Station

section Glasses

variable {codec : JsonCodec Byte}

theorem mem_storedVolumes_torn (tears : codec.TearsTruncated)
    {store : GlassStore} (ascending : store.AllAscending) {order : GlassOrder}
    {text : List Byte} (truncated : text <+: store.savedText codec order)
    {entries : List Json}
    (stored : (File.content text).storedArray codec "glasses" = some entries)
    {glassId : GlassId} {volumes : List Litre}
    (member : (glassId, volumes) ∈ GlassStore.storedVolumes entries) :
    ∃ glass ∈ store.glasses, glass.id = glassId ∧
      volumes <+: glass.activeVolumes := by
  obtain ⟨torn, tornArray, isArray⟩ := File.storedArray_torn tears
    (GlassStore.complete_glassFields _) truncated stored
  obtain ⟨elements, whole, fromArray⟩ := tornArray.mem_getArray isArray
  obtain rfl := Except.ok.inj whole
  obtain ⟨value, inEntries, readsValue⟩ := List.mem_filterMap.mp member
  obtain ⟨read, isRead, sameRead⟩ := Option.map_eq_some_iff.mp readsValue
  obtain ⟨rfl, rfl⟩ := Prod.mk.inj sameRead
  have readValue : GlassStore.readGlassEntry value = .ok read := by
    cases readEntry : GlassStore.readGlassEntry value with
    | error reason => simp [readEntry, Except.toOption] at isRead
    | ok other => simpa [readEntry, Except.toOption] using isRead
  rcases fromArray value inEntries with
    ⟨reason, rfl⟩ | ⟨element, inDocument, tornElement⟩
  · cases readValue
  · obtain ⟨glass, arranged, rfl⟩ := List.mem_map.mp inDocument
    have inStore := (order.perm store.glasses).mem_iff.mp arranged
    obtain ⟨documentVolumes, readWhole, firstNumbers⟩ :=
      readGlassEntry_torn tornElement readValue
    obtain ⟨sameId, rfl⟩ := Prod.mk.inj (Except.ok.inj readWhole)
    refine ⟨glass, inStore, sameId, ?_⟩
    have decoded := firstNumbers.map milliLitre
    rw [GlassStore.numbers_saved, List.map_map,
      show milliLitre ∘ Litre.inMilliLitre = id from
        funext milliLitre_inMilliLitre, List.map_id] at decoded
    have ordered : Ascending _ :=
      (ascending glass inStore).sublist decoded.sublist
    rw [GlassStore.readVolumes, sortUnique_of_ascending ordered]
    exact decoded

/-- The torn document gives no glass a volume that was not saved for it. -/
theorem loadGlassActiveVolumes_torn (tears : codec.TearsTruncated)
    {fresh store : GlassStore} (freshEmpty : fresh.NoActive)
    (sameShelf : store.shelf = fresh.glasses) (ascending : store.AllAscending)
    {order : GlassOrder} {text : List Byte}
    (truncated : text <+: store.savedText codec order) :
    (fresh.loadGlassActiveVolumes codec (.content text)).shelf =
        store.shelf ∧
      ∀ glass ∈
          (fresh.loadGlassActiveVolumes codec (.content text)).glasses,
        ∀ saved ∈ store.glasses, saved.id = glass.id →
          glass.activeVolumes <+: saved.activeVolumes := by
  have freshShelf : fresh.shelf = store.shelf :=
    freshEmpty.shelf_eq.trans sameShelf.symm
  unfold GlassStore.loadGlassActiveVolumes
  cases stored : (File.content text).storedArray codec "glasses" with
  | none =>
      refine ⟨freshShelf, fun glass member saved _ _ => ?_⟩
      rw [freshEmpty glass member]
      exact List.nil_prefix
  | some entries =>
      refine ⟨(GlassStore.shelf_foldl_loadEntry _ _).trans freshShelf, ?_⟩
      simp only [GlassStore.glasses_foldl_loadEntry]
      rintro _ member saved inStore sameId
      obtain ⟨glass, inFresh, rfl⟩ := List.mem_map.mp member
      simp only [GlassStore.loadedVolumes]
      cases last : lastValue glass.id (GlassStore.storedVolumes entries) with
      | none =>
          rw [Option.getD_none, freshEmpty glass inFresh]
          exact List.nil_prefix
      | some volumes =>
          obtain ⟨other, otherInStore, otherId, firstVolumes⟩ :=
            mem_storedVolumes_torn tears ascending truncated stored
              (mem_of_lastValue_eq_some last)
          have sameGlass : other = saved :=
            List.inj_on_of_nodup_map store.distinct otherInStore inStore
              (otherId.trans sameId.symm)
          exact sameGlass ▸ firstVolumes

theorem initGlasses_empty (rejects : codec.RejectsEmpty)
    (glasses : List Glass) :
    GlassStore.initGlasses glasses codec (.content []) =
      glasses.foldl GlassStore.emplace GlassStore.empty := by
  obtain ⟨reason, failed⟩ := rejects
  unfold GlassStore.initGlasses GlassStore.loadGlassActiveVolumes
  rw [File.storedArray_of_error failed]

theorem prefix_of_ascending_of_equal {first values : List Litre}
    (isPrefix : first <+: values) (ascending : Ascending values)
    (equal : ∀ one ∈ values, ∀ other ∈ values, one = other) :
    first = [] ∨ first = values := by
  rcases values with _ | ⟨one, _ | ⟨other, values⟩⟩
  · exact Or.inl (List.prefix_nil.mp isPrefix)
  · rcases first with _ | ⟨head, tail⟩
    · exact Or.inl rfl
    · obtain ⟨rfl, isNil⟩ := List.cons_prefix_cons.mp isPrefix
      exact Or.inr (by rw [List.prefix_nil.mp isNil])
  · have less : one < other :=
      (List.pairwise_cons.mp ascending).1 other List.mem_cons_self
    have same := equal one (by simp) other (by simp)
    exact absurd same less.ne

variable {glasses : List Glass}

theorem GlassStore.NoActive.activeVolumes_setActiveVolumes
    {store : GlassStore} (noActive : store.NoActive) {id : GlassId}
    {volumes : List Litre} {saved : Glass}
    (member : saved ∈ (store.setActiveVolumes id volumes).glasses) :
    saved.activeVolumes = if saved.id = id then volumes else [] := by
  obtain ⟨old, inStore, rfl⟩ := List.mem_map.mp member
  split
  case isTrue addressed => rfl
  case isFalse other => exact noActive old inStore

/-- Nothing but the empty glasses is read from a torn document about them. -/
theorem loaded_eq_of_emptied {saved loaded : GlassStore}
    (emptied : saved.NoActive) (sameShelf : loaded.shelf = saved.shelf)
    (fewer : ∀ glass ∈ loaded.glasses, ∀ other ∈ saved.glasses,
      other.id = glass.id → glass.activeVolumes <+: other.activeVolumes) :
    loaded = saved := by
  refine GlassStore.NoActive.eq_of_shelf (fun glass member => ?_) emptied
    sameShelf
  obtain ⟨other, inSaved, sameId⟩ :=
    GlassStore.exists_of_shelf sameShelf member
  have firstVolumes := fewer glass member other inSaved sameId
  rw [emptied other inSaved] at firstVolumes
  exact List.prefix_nil.mp firstVolumes

/-- A store that is read from a torn document after the first volume was added
is the store before or the one after. -/
theorem loaded_eq_of_noActive {store loaded : GlassStore}
    (noActive : store.NoActive) {id : GlassId} {volumes : List Litre}
    (ascending : Ascending volumes)
    (equal : ∀ one ∈ volumes, ∀ other ∈ volumes, one = other)
    (sameShelf : loaded.shelf = (store.setActiveVolumes id volumes).shelf)
    (fewer : ∀ glass ∈ loaded.glasses,
      ∀ saved ∈ (store.setActiveVolumes id volumes).glasses,
        saved.id = glass.id → glass.activeVolumes <+: saved.activeVolumes) :
    loaded = store ∨ loaded = store.setActiveVolumes id volumes := by
  have shelfBefore : loaded.shelf = store.shelf :=
    sameShelf.trans (GlassStore.shelf_setActiveVolumes _ _ _)
  have savedVolumes {saved : Glass}
      (member : saved ∈ (store.setActiveVolumes id volumes).glasses) :=
    noActive.activeVolumes_setActiveVolumes member
  have bounded : ∀ glass ∈ loaded.glasses, glass.activeVolumes <+:
      if glass.id = id then volumes else [] := by
    intro glass member
    obtain ⟨saved, inSaved, sameId⟩ :=
      GlassStore.exists_of_shelf sameShelf member
    have firstVolumes := fewer glass member saved inSaved sameId
    rwa [savedVolumes inSaved, sameId] at firstVolumes
  by_cases written : ∃ glass ∈ loaded.glasses, glass.id = id ∧
      glass.activeVolumes = volumes
  · right
    obtain ⟨addressed, inLoaded, hasId, hasVolumes⟩ := written
    refine GlassStore.eq_of_shelf sameShelf fun glass member saved inSaved
      sameId => ?_
    rw [savedVolumes inSaved]
    split
    case isTrue isAddressed =>
      have sameGlass : glass = addressed :=
        List.inj_on_of_nodup_map loaded.distinct member inLoaded
          (sameId.symm.trans (isAddressed.trans hasId.symm))
      rw [sameGlass, hasVolumes]
    case isFalse isOther =>
      have firstVolumes := bounded glass member
      rw [if_neg (sameId ▸ isOther)] at firstVolumes
      exact List.prefix_nil.mp firstVolumes
  · left
    refine GlassStore.NoActive.eq_of_shelf (fun glass member => ?_) noActive
      shelfBefore
    have firstVolumes := bounded glass member
    split at firstVolumes
    case isTrue addressed =>
      rcases prefix_of_ascending_of_equal firstVolumes ascending equal with
        none | all
      · exact none
      · exact absurd ⟨glass, member, addressed, all⟩ written
    case isFalse other => exact List.prefix_nil.mp firstVolumes

/-- An update of the active volumes. -/
inductive VolumeUpdate
  | add (id : GlassId) (volume : Litre)
  | remove (id : GlassId) (volume : Litre)

def VolumeUpdate.apply (update : VolumeUpdate) (store : GlassStore)
    (codec : JsonCodec Byte) (order : GlassOrder) (file : File Byte)
    (outcome : WriteOutcome) : GlassStore.Changed Byte :=
  match update with
  | .add id volume =>
      store.addActiveVolume codec order outcome file id volume
  | .remove id volume =>
      store.removeActiveVolume codec order outcome file id volume

/-- The update changes nothing: the glass is unknown, or the volume is already
there or already gone. -/
def VolumeUpdate.Refused (store : GlassStore) : VolumeUpdate → Prop
  | .add id volume => ∀ glass, store.find id = some glass →
      volume ∈ glass.activeVolumes
  | .remove id volume => ∀ glass, store.find id = some glass →
      volume ∉ glass.activeVolumes

/-- The update removes the only active volume of all glasses. -/
def VolumeUpdate.RemovesLast (store : GlassStore) : VolumeUpdate → Prop
  | .add _ _ => False
  | .remove id volume => ∀ glass ∈ store.glasses,
      ∀ other ∈ glass.activeVolumes, glass.id = id ∧ other = volume

theorem GlassStore.noActive_setActiveVolumes_iff {store : GlassStore}
    {id : GlassId} {glass : Glass} (found : store.find id = some glass)
    (volumes : List Litre) :
    (store.setActiveVolumes id volumes).NoActive ↔
      volumes = [] ∧
        ∀ other ∈ store.glasses, other.id ≠ id → other.activeVolumes = [] := by
  obtain ⟨member, hasId⟩ := store.find_eq_some_iff.mp found
  unfold GlassStore.NoActive GlassStore.setActiveVolumes
  simp only [List.forall_mem_map]
  constructor
  · intro none
    refine ⟨?_, fun other inStore differs => ?_⟩
    · simpa [hasId] using none glass member
    · simpa [differs] using none other inStore
  · rintro ⟨rfl, none⟩ other inStore
    split
    case isTrue addressed => rfl
    case isFalse differs => exact none other inStore differs

theorem removesLast_iff {store : GlassStore} {id : GlassId} {glass : Glass}
    (found : store.find id = some glass) {volume : Litre}
    {volumes : List Litre}
    (target : ∀ other, other ∈ volumes ↔
      other ≠ volume ∧ other ∈ glass.activeVolumes) :
    (volumes = [] ∧
        ∀ other ∈ store.glasses, other.id ≠ id → other.activeVolumes = []) ↔
      (VolumeUpdate.remove id volume).RemovesLast store := by
  obtain ⟨member, hasId⟩ := store.find_eq_some_iff.mp found
  constructor
  · rintro ⟨rfl, none⟩ other inStore remaining isActive
    have addressed : other.id = id := by
      by_contra differs
      rw [none other inStore differs] at isActive
      cases isActive
    have sameGlass : other = glass :=
      List.inj_on_of_nodup_map store.distinct inStore member
        (addressed.trans hasId.symm)
    refine ⟨addressed, ?_⟩
    by_contra differs
    exact List.not_mem_nil
      ((target remaining).mpr ⟨differs, sameGlass ▸ isActive⟩)
  · intro last
    constructor
    · refine List.eq_nil_iff_forall_not_mem.mpr fun other isLeft => ?_
      obtain ⟨differs, isActive⟩ := (target other).mp isLeft
      exact differs (last glass member other isActive).2
    · intro other inStore differs
      refine List.eq_nil_iff_forall_not_mem.mpr fun remaining isActive => ?_
      exact differs (last other inStore remaining isActive).1

/-- An update writes the addressed glass or does nothing.  When there were no
active volumes, it writes one volume at most, and it leaves none only when it
removes the last one. -/
theorem VolumeUpdate.apply_cases (update : VolumeUpdate) {store : GlassStore}
    (ascending : store.AllAscending) (codec : JsonCodec Byte)
    (order : GlassOrder) (file : File Byte) :
    (∃ id volumes, Ascending volumes ∧
      (store.NoActive → ∀ one ∈ volumes, ∀ other ∈ volumes, one = other) ∧
      ((store.setActiveVolumes id volumes).NoActive ↔
        update.RemovesLast store) ∧
      update.apply store codec order file = fun outcome =>
        ⟨true, store.setActiveVolumes id volumes,
          (store.setActiveVolumes id volumes).saveGlassActiveVolumes codec
            order outcome file⟩) ∨
      update.apply store codec order file = fun _ => ⟨false, store, file⟩ := by
  cases update with
  | add id volume =>
      rcases GlassStore.addActiveVolume_meets codec order file id volume
          ascending with
        ⟨glass, volumes, found, -, ordered, target, applied⟩ | ⟨-, nothing⟩
      · refine Or.inl ⟨id, volumes, ordered, fun noActive => ?_, ?_, applied⟩
        · have none := noActive glass (store.find_eq_some_iff.mp found).1
          have isVolume : ∀ one ∈ volumes, one = volume := fun one member => by
            simpa [none] using (target one).mp member
          exact fun one inOne other inOther =>
            (isVolume one inOne).trans (isVolume other inOther).symm
        · rw [GlassStore.noActive_setActiveVolumes_iff found]
          refine iff_of_false ?_ not_false
          rintro ⟨rfl, -⟩
          simpa using target volume
      · exact Or.inr nothing
  | remove id volume =>
      rcases GlassStore.removeActiveVolume_meets codec order file id volume
          ascending with
        ⟨glass, volumes, found, present, ordered, target, applied⟩ |
          ⟨-, nothing⟩
      · refine Or.inl ⟨id, volumes, ordered, fun noActive => ?_, ?_, applied⟩
        · have none := noActive glass (store.find_eq_some_iff.mp found).1
          rw [none] at present
          cases present
        · rw [GlassStore.noActive_setActiveVolumes_iff found]
          exact removesLast_iff found target
      · exact Or.inr nothing

theorem VolumeUpdate.result_eq_false_iff (update : VolumeUpdate)
    {store : GlassStore} (ascending : store.AllAscending)
    (codec : JsonCodec Byte) (order : GlassOrder) (file : File Byte)
    (outcome : WriteOutcome) :
    (update.apply store codec order file outcome).result = false ↔
      update.Refused store := by
  cases update with
  | add id volume =>
      have accepted := (GlassStore.addActiveVolume_meets codec order file id
        volume ascending).result_iff outcome
      rw [← Bool.not_eq_true, VolumeUpdate.apply, accepted]
      simp [VolumeUpdate.Refused]
  | remove id volume =>
      have accepted := (GlassStore.removeActiveVolume_meets codec order file id
        volume ascending).result_iff outcome
      rw [← Bool.not_eq_true, VolumeUpdate.apply, accepted]
      simp [VolumeUpdate.Refused]

/-- Wherever the process stops during the update, the next start holds the
glasses before it or the ones after it. -/
def VolumeUpdate.SurvivesStop (update : VolumeUpdate) (glasses : List Glass)
    (store : GlassStore) (codec : JsonCodec Byte) (order : GlassOrder)
    (file : File Byte) : Prop :=
  ∀ written,
    let next := GlassStore.initGlasses glasses codec
      (update.apply store codec order file (.stoppedAfter written)).file
    next = store ∨
      next = (update.apply store codec order file .finished).store

/-- The stored volumes survive any stop during an update exactly when there
were none, none are left, or nothing is written. -/
theorem glasses_survive_iff (rejects : codec.RejectsEmpty)
    (tears : codec.TearsTruncated)
    (noActive : ∀ glass ∈ glasses, glass.activeVolumes = [])
    {store : GlassStore} {file : File Byte}
    (persisted : GlassStore.Persisted glasses codec (store, file))
    (update : VolumeUpdate) (order : GlassOrder) :
    update.SurvivesStop glasses store codec order file ↔
      update.Refused store ∨ store.NoActive ∨ update.RemovesLast store := by
  have ascending : store.AllAscending := persisted.ascending
  have refused := update.result_eq_false_iff ascending codec order file .finished
  rcases update.apply_cases ascending codec order file with
    ⟨id, volumes, ordered, equal, removesLast, applied⟩ | nothing
  case inr =>
    rw [nothing] at refused
    unfold VolumeUpdate.SurvivesStop
    rw [nothing]
    exact iff_of_true (fun _ => Or.inl persisted.reloads)
      (Or.inl (refused.mp rfl))
  case inl =>
    let after := store.setActiveVolumes id volumes
    let fresh := glasses.foldl GlassStore.emplace GlassStore.empty
    have freshEmpty : fresh.NoActive :=
      GlassStore.noActive_foldl_emplace noActive
    have afterShelf : after.shelf = fresh.glasses :=
      (GlassStore.shelf_setActiveVolumes store id volumes).trans
        persisted.sameShelf
    have afterAscending : after.AllAscending :=
      GlassStore.allAscending_setActiveVolumes ascending id ordered
    rw [← refused, ← removesLast]
    simp only [VolumeUpdate.SurvivesStop, applied, Bool.true_eq_false,
      false_or]
    constructor
    · intro survives
      have ofEmpty : GlassStore.initGlasses glasses codec (.content []) =
          fresh :=
        initGlasses_empty rejects glasses
      rcases survives 0 with before | afterwards
      · exact Or.inl (ofEmpty.symm.trans before ▸ freshEmpty)
      · exact Or.inr (ofEmpty.symm.trans afterwards ▸ freshEmpty)
    · intro someEmpty written
      obtain ⟨sameShelf, fewer⟩ := loadGlassActiveVolumes_torn tears freshEmpty
        afterShelf afterAscending
        ( List.take_prefix written (after.savedText codec order))
      rcases someEmpty with storeEmpty | afterEmpty
      · exact loaded_eq_of_noActive storeEmpty ordered (equal storeEmpty)
          sameShelf fewer
      · exact Or.inr (loaded_eq_of_emptied afterEmpty sameShelf fewer)

end Glasses

/-- Exactly which updates can be interrupted at any point without losing what
was stored, for both stores. -/
theorem stores_survive_iff (codec : JsonCodec Byte)
    (rejects : codec.RejectsEmpty) (tears : codec.TearsTruncated) :
    (∀ (store : IngredientStore) (config : StationConfig store)
        (file : File Byte), config.Reads codec file → ∀ call,
      (config.SurvivesStop codec file call ↔
        store.findById call.ingredientId = none ∨
          ∀ ingredientId, config.mapping.lookup ingredientId = none)) ∧
    ∀ (glasses : List Glass) (store : GlassStore) (file : File Byte),
      (∀ glass ∈ glasses, glass.activeVolumes = []) →
      GlassStore.Persisted glasses codec (store, file) →
        ∀ (update : VolumeUpdate) order,
          (update.SurvivesStop glasses store codec order file ↔
            update.Refused store ∨ store.NoActive ∨
              update.RemovesLast store) :=
  ⟨fun _ _ _ stored call => station_survives_iff rejects tears stored call,
    fun _ _ _ noActive persisted update order =>
      glasses_survive_iff rejects tears noActive persisted update order⟩

section Counterexample

/-- The file that holds the assignment of rum. -/
def rumFile : File JsonToken :=
  (StationConfig.rumAssigned 0).saveConfigToFile JsonToken.codec
    (.stored IngredientId PodDispenser) .finished .missing

theorem reads_rumFile :
    (StationConfig.rumAssigned 0).Reads JsonToken.codec rumFile :=
  StationConfig.lookup_init_saved JsonToken.codec_undoesBuilder _ _ _ _

/-- The highball glass has two volumes, and so has its file. -/
def highballSaved : GlassStore × File JsonToken :=
  GlassStore.addToHighball.foldl
    (GlassStore.perform GlassStore.twoGlasses JsonToken.codec)
    (GlassStore.initGlasses GlassStore.twoGlasses JsonToken.codec .missing,
      .missing)

theorem persisted_highballSaved :
    GlassStore.Persisted GlassStore.twoGlasses JsonToken.codec highballSaved :=
  GlassStore.persisted_of_run JsonToken.codec_undoesBuilder (by decide) .missing
    GlassStore.addToHighball

theorem stores_survive_iff_rumFile :
    ((StationConfig.rumAssigned 0).SurvivesStop JsonToken.codec rumFile
        (StationConfig.assignCall "lime") ↔
      rumAndLime.findById "lime" = none ∨
        ∀ ingredientId,
          (StationConfig.rumAssigned 0).mapping.lookup ingredientId = none) ∧
    ((VolumeUpdate.remove "highball" (3 / 10)).SurvivesStop
        GlassStore.twoGlasses highballSaved.1 JsonToken.codec .stored
        highballSaved.2 ↔
      (VolumeUpdate.remove "highball" (3 / 10)).Refused highballSaved.1 ∨
        highballSaved.1.NoActive ∨
          (VolumeUpdate.remove "highball" (3 / 10)).RemovesLast
            highballSaved.1) := by
  have survive := stores_survive_iff JsonToken.codec
    JsonToken.codec_rejectsEmpty JsonToken.codec_tearsTruncated
  constructor
  · exact survive.1 rumAndLime (StationConfig.rumAssigned 0) rumFile
      reads_rumFile (StationConfig.assignCall "lime")
  · exact survive.2 GlassStore.twoGlasses highballSaved.1 highballSaved.2
      (by decide) persisted_highballSaved _ .stored

/-- A process that stops right after opening the file loses the assignment of
rum while lime is assigned. -/
theorem assignment_lost :
    (StationConfig.rumAssigned 0).Reads JsonToken.codec rumFile ∧
      ¬ (StationConfig.rumAssigned 0).SurvivesStop JsonToken.codec rumFile
        (StationConfig.assignCall "lime") := by
  refine ⟨reads_rumFile, fun survives => ?_⟩
  rcases (station_survives_iff JsonToken.codec_rejectsEmpty
    JsonToken.codec_tearsTruncated reads_rumFile _).mp survives with
    unknown | nothing
  · exact absurd unknown (by decide)
  · exact absurd (nothing "rum") (by decide)

end Counterexample

end CocktailMaker
