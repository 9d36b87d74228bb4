import CocktailMaker.GlassContextBridge

/-!
# The glasses that are offered after a restart

Only the active volumes are stored, so a restart shows the glasses that have
one.  These are the glasses that were shown before unless one of two callbacks
has changed the store and the list apart: removing a glass leaves its active
volumes in the store, and a volume can be added to a glass that is not shown.
-/

namespace CocktailMaker

namespace GlassContext

variable {Byte : Type} {glasses : List Glass} {codec : JsonCodec Byte}

/-- A glass as the guest sees it. -/
structure Offer where
  id : GlassId
  displayName : String
  commonVolumes : List String
  activeVolumes : List Litre
  deriving DecidableEq

/-- The glasses that are shown with an active volume at least. -/
def GlassList.offers (list : GlassList) : List Offer :=
  list.entries.filterMap fun entry =>
    (list.volumeModels[entry.activeVolumes]?).bind fun model =>
      if model.volumes = [] then none
      else some ⟨entry.id, entry.displayName, entry.commonVolumes,
        model.volumes⟩

/-- A restart offers the same glasses with the same active volumes. -/
def SurvivesRestart (glasses : List Glass) (codec : JsonCodec Byte)
    (watched : Watched Byte) : Prop :=
  ∀ order offer,
    offer ∈ (Bridge.start glasses codec order
        watched.bridge.file).glasses.offers ↔
      offer ∈ watched.bridge.glasses.offers

/-- The action does not remove a shown glass that has active volumes, and adds
no volume to a known glass that is not shown. -/
def KeepsOffers (watched : Watched Byte) : Action → Prop
  | .removeGlass glassId =>
      glassId ∈ watched.bridge.glasses.ids →
        ∀ glass, watched.bridge.store.find glassId = some glass →
          glass.activeVolumes = []
  | .addGlassVolume glassId _ _ =>
      watched.bridge.store.find glassId ≠ none →
        glassId ∈ watched.bridge.glasses.ids
  | .addGlass _ | .removeGlassVolume .. => True

/-- How a glass of the store is offered. -/
def Offer.of (glass : Glass) : Offer where
  id := glass.id
  displayName := glass.displayName
  commonVolumes := glass.commonVolumes.map formatMl
  activeVolumes := glass.activeVolumes

theorem offer_of_shows {store : GlassStore} {volumeModels : List VolumeModel}
    {entry : Entry} (shows : Shows store volumeModels entry) :
    ∃ glass, store.find entry.id = some glass ∧
      ((volumeModels[entry.activeVolumes]?).bind fun model =>
        if model.volumes = [] then none
        else some ⟨entry.id, entry.displayName, entry.commonVolumes,
          model.volumes⟩) =
        if glass.activeVolumes = [] then none else some (Offer.of glass) := by
  obtain ⟨glass, known, name, common, model⟩ := shows
  refine ⟨glass, known, ?_⟩
  rw [model, Option.bind_some, name, common,
    ← ((store.find_eq_some_iff).mp known).2]
  rfl

theorem mem_offers {store : GlassStore} {list : GlassList}
    (mirrors : Mirrors store list) {offer : Offer} :
    offer ∈ list.offers ↔ ∃ glass, store.find glass.id = some glass ∧
      glass.id ∈ list.ids ∧ glass.activeVolumes ≠ [] ∧
        offer = .of glass := by
  rw [GlassList.offers, List.mem_filterMap]
  constructor
  · rintro ⟨entry, member, offered⟩
    obtain ⟨glass, known, offer⟩ := offer_of_shows (mirrors.shows entry member)
    rw [offer] at offered
    obtain ⟨active, isOffer⟩ := Option.ite_none_left_eq_some.mp offered
    have sameId := ((store.find_eq_some_iff).mp known).2
    exact ⟨glass, sameId ▸ known,
      List.mem_map.mpr ⟨entry, member, sameId.symm⟩, active,
      (Option.some.inj isOffer).symm⟩
  · rintro ⟨glass, known, shown, active, rfl⟩
    obtain ⟨entry, member, sameId⟩ := List.mem_map.mp shown
    refine ⟨entry, member, ?_⟩
    obtain ⟨same, isSame, offer⟩ := offer_of_shows (mirrors.shows entry member)
    rw [sameId, known, Option.some.injEq] at isSame
    rw [offer, ← isSame, if_neg active]

/-- Every glass with an active volume is shown. -/
def AllShown (bridge : Bridge Byte) : Prop :=
  ∀ glassId glass, bridge.store.find glassId = some glass →
    glass.activeVolumes ≠ [] → glassId ∈ bridge.glasses.ids

/-- A glass of the store that has an active volume. -/
def Active (store : GlassStore) (offer : Offer) : Prop :=
  ∃ glass, store.find glass.id = some glass ∧ glass.activeVolumes ≠ [] ∧
    offer = .of glass

theorem allShown_iff {bridge : Bridge Byte}
    (mirrors : Mirrors bridge.store bridge.glasses) :
    AllShown bridge ↔
      ∀ offer, Active bridge.store offer ↔ offer ∈ bridge.glasses.offers := by
  constructor
  · intro allShown offer
    rw [mem_offers mirrors]
    refine exists_congr fun glass => and_congr_right fun known => ?_
    exact ⟨fun ⟨active, isOffer⟩ =>
      ⟨allShown glass.id glass known active, active, isOffer⟩, And.right⟩
  · intro offered glassId glass known active
    obtain rfl := ((GlassStore.find_eq_some_iff _).mp known).2
    obtain ⟨same, -, shown, -, isOffer⟩ := (mem_offers mirrors).mp
      ((offered (.of glass)).mp ⟨glass, known, active, rfl⟩)
    rwa [(Offer.mk.inj isOffer).1]

/-- The models are in step, and the file describes the store. -/
structure Kept (glasses : List Glass) (codec : JsonCodec Byte)
    (watched : Watched Byte) : Prop where
  inStep : InStep watched
  persisted : GlassStore.Persisted glasses codec
    (watched.bridge.store, watched.bridge.file)

theorem allShown_start
    (noActive : ∀ glass ∈ glasses, glass.activeVolumes = [])
    (order : GlassOrder) (file : File Byte) :
    AllShown (Bridge.start glasses codec order file) := by
  have ascending : (GlassStore.initGlasses glasses codec file).AllAscending :=
    (GlassStore.persisted_init noActive file).ascending
  have perm := order.perm (GlassStore.initGlasses glasses codec file).glasses
  intro glassId glass known active
  obtain ⟨member, sameId⟩ := (GlassStore.find_eq_some_iff _).mp known
  exact ((foldl_add ascending fun other => perm.mem_iff.mp).2 glassId).mpr
    ⟨glass, perm.mem_iff.mpr member, sameId, active⟩

theorem survivesRestart_iff
    (noActive : ∀ glass ∈ glasses, glass.activeVolumes = [])
    {watched : Watched Byte} (kept : Kept glasses codec watched) :
    SurvivesRestart glasses codec watched ↔ AllShown watched.bridge := by
  have inStep (order : GlassOrder) :
      InStep (Bridge.start glasses codec order watched.bridge.file).watch :=
    inStep_start noActive order watched.bridge.file
  have restarted (order : GlassOrder) :=
    (allShown_iff (inStep order).mirrors).mp
      (allShown_start noActive order watched.bridge.file)
  have sameStore (order : GlassOrder) : (Bridge.start glasses codec order
      watched.bridge.file).store = watched.bridge.store :=
    kept.persisted.reloads
  simp only [Bridge.watch, sameStore] at restarted
  rw [allShown_iff kept.inStep.mirrors]
  exact ⟨fun survives offer =>
      (restarted .stored offer).trans (survives .stored offer),
    fun offered order offer =>
      (restarted order offer).symm.trans (offered offer)⟩

theorem kept_step (undoes : codec.UndoesBuilder) {watched next : Watched Byte}
    {action : Action} (kept : Kept glasses codec watched)
    (stepped : step codec watched action = some next) :
    Kept glasses codec next := by
  refine ⟨inStep_step kept.inStep stepped, ?_⟩
  obtain ⟨ascending, mirrors, -⟩ := kept.inStep
  obtain rfl := Option.some.inj stepped
  cases action with
  | addGlass glassId =>
      simp only [Bridge.perform, Bridge.onUiAddGlass]
      cases watched.bridge.store.find glassId <;> exact kept.persisted
  | removeGlass glassId => exact kept.persisted
  | addGlassVolume glassId volumeMl order =>
      have followed := onUiAddGlassVolume_spec ascending mirrors codec order
        glassId volumeMl
      simp only [Bridge.perform, followed.store, followed.file]
      exact kept.persisted.change undoes
        (GlassStore.addActiveVolume_meets codec order watched.bridge.file
          glassId (toLitre volumeMl) ascending)
  | removeGlassVolume glassId volumeMl order =>
      have followed := onUiRemoveGlassVolume_spec ascending mirrors codec
        order glassId volumeMl
      simp only [Bridge.perform, followed.store, followed.file]
      exact kept.persisted.change undoes
        (GlassStore.removeActiveVolume_meets codec order watched.bridge.file
          glassId (toLitre volumeMl) ascending)

section Steps

variable {bridge : Bridge Byte}

theorem allShown_addGlass (allShown : AllShown bridge) (glassId : GlassId) :
    AllShown (bridge.onUiAddGlass glassId).1 := by
  unfold Bridge.onUiAddGlass
  cases bridge.store.find glassId with
  | none => exact allShown
  | some glass =>
      intro other otherGlass known active
      exact mem_ids_add.mpr (.inl (allShown other otherGlass known active))

theorem allShown_removeGlass (allShown : AllShown bridge)
    (distinct : bridge.glasses.ids.Nodup) (glassId : GlassId) :
    AllShown (bridge.onUiRemoveGlass glassId).1 ↔
      (glassId ∈ bridge.glasses.ids → ∀ glass,
        bridge.store.find glassId = some glass → glass.activeVolumes = []) := by
  constructor
  · intro stillShown shown glass known
    by_contra active
    have remains := stillShown glassId glass known active
    exact ((mem_ids_remove distinct).mp remains).2 rfl
  · intro inactive other glass known active
    have shown := allShown other glass known active
    refine (mem_ids_remove distinct).mpr ⟨shown, ?_⟩
    rintro rfl
    exact active (inactive shown glass known)

variable {order : GlassOrder} {glassId : GlassId}
  {changed : WriteOutcome → GlassStore.Changed Byte}
  {allowed : List Litre → Prop} {target : List Litre → Litre → Prop}
  (meets : GlassStore.Meets codec order bridge.file glassId changed
    bridge.store allowed target)

include meets

/-- Only the volumes of the addressed glass may need to be shown now. -/
theorem allShown_changed (allShown : AllShown bridge) {next : Bridge Byte}
    (sameStore : next.store = (changed .finished).store)
    (sameEntries : next.glasses.entries = bridge.glasses.entries) :
    AllShown next ↔ ∀ glass, next.store.find glassId = some glass →
      glass.activeVolumes ≠ [] → glassId ∈ bridge.glasses.ids := by
  have sameIds : next.glasses.ids = bridge.glasses.ids :=
    congrArg (List.map Entry.id) sameEntries
  constructor
  · intro nextShown glass known active
    rw [← sameIds]
    exact nextShown glassId glass known active
  · intro shown other glass known active
    rw [sameIds]
    by_cases addressed : other = glassId
    · subst addressed
      exact shown glass known active
    · rw [sameStore, meets.find_other .finished addressed] at known
      exact allShown other glass known active

theorem known_of_changed {glass : Glass}
    (known : (changed .finished).store.find glassId = some glass) :
    ∃ before, bridge.store.find glassId = some before := by
  rcases meets with ⟨before, -, isKnown, -⟩ | ⟨-, rfl⟩
  · exact ⟨before, isKnown⟩
  · exact ⟨glass, known⟩

end Steps

section Volumes

variable {bridge : Bridge Byte} (ascending : bridge.store.AllAscending)
  (mirrors : Mirrors bridge.store bridge.glasses)
  (allShown : AllShown bridge) (codec : JsonCodec Byte) (order : GlassOrder)
  (glassId : GlassId) (volumeMl : Int)

include ascending mirrors allShown

/-- A volume that is added to a known glass has to be shown. -/
theorem allShown_addGlassVolume :
    AllShown (bridge.onUiAddGlassVolume codec order glassId volumeMl).1 ↔
      (bridge.store.find glassId ≠ none → glassId ∈ bridge.glasses.ids) := by
  have meets := GlassStore.addActiveVolume_meets codec order bridge.file
    glassId (toLitre volumeMl) ascending
  have followed := onUiAddGlassVolume_spec ascending mirrors codec order
    glassId volumeMl
  refine (allShown_changed meets allShown followed.store
    followed.entries).trans ?_
  constructor
  · intro shown isKnown
    obtain ⟨glass, known⟩ := Option.ne_none_iff_exists'.mp isKnown
    obtain ⟨volumes, nextKnown, members⟩ := meets.find_addressed .finished
      (fun volumes other present =>
        or_iff_right_of_imp fun same => same ▸ not_not.mp present) known
    refine shown _ (followed.store ▸ nextKnown) ?_
    exact List.ne_nil_of_mem ((members _).mpr (.inl rfl))
  · intro keeps glass known active
    obtain ⟨before, isKnown⟩ :=
      known_of_changed meets (followed.store ▸ known)
    exact keeps (by simp [isKnown])

theorem allShown_removeGlassVolume :
    AllShown (bridge.onUiRemoveGlassVolume codec order glassId volumeMl).1 := by
  have meets := GlassStore.removeActiveVolume_meets codec order bridge.file
    glassId (toLitre volumeMl) ascending
  have followed := onUiRemoveGlassVolume_spec ascending mirrors codec order
    glassId volumeMl
  refine (allShown_changed meets allShown followed.store
    followed.entries).mpr ?_
  intro glass known active
  rw [followed.store] at known
  obtain ⟨before, isKnown⟩ := known_of_changed meets known
  obtain ⟨volumes, nextKnown, members⟩ := meets.find_addressed .finished
    (fun volumes other absent =>
      and_iff_right_of_imp fun member same => absent (same ▸ member))
    isKnown
  obtain rfl := Option.some.inj (nextKnown.symm.trans known)
  obtain ⟨volume, member⟩ := List.exists_mem_of_ne_nil _ active
  exact allShown glassId before isKnown
    (List.ne_nil_of_mem ((members volume).mp member).2)

end Volumes

/-- A step goes on showing every glass with an active volume exactly when it
keeps the offers. -/
theorem allShown_step {watched next : Watched Byte} {action : Action}
    (inStep : InStep watched) (allShown : AllShown watched.bridge)
    (stepped : step codec watched action = some next) :
    AllShown next.bridge ↔ KeepsOffers watched action := by
  obtain ⟨ascending, mirrors, -⟩ := inStep
  obtain rfl := Option.some.inj stepped
  cases action with
  | addGlass glassId =>
      exact iff_of_true (allShown_addGlass allShown glassId) trivial
  | removeGlass glassId =>
      exact allShown_removeGlass allShown mirrors.distinct glassId
  | addGlassVolume glassId volumeMl order =>
      exact allShown_addGlassVolume ascending mirrors allShown codec order
        glassId volumeMl
  | removeGlassVolume glassId volumeMl order =>
      exact iff_of_true (allShown_removeGlassVolume ascending mirrors allShown
        codec order glassId volumeMl) trivial

/-- The offers survive a restart at every time of a run exactly when no step
removes a shown glass with active volumes or adds a volume to a glass that is
not shown. -/
theorem survivesRestart_iff_keepsOffers (undoes : codec.UndoesBuilder)
    (noActive : ∀ glass ∈ glasses, glass.activeVolumes = [])
    (order : GlassOrder) (file : File Byte) (actions : List Action) :
    LabelledRun.Always (step codec) (SurvivesRestart glasses codec)
        (Bridge.start glasses codec order file).watch actions ↔
      LabelledRun.EveryStep (step codec) KeepsOffers
        (Bridge.start glasses codec order file).watch actions := by
  have keptAtStart : Kept glasses codec
      (Bridge.start glasses codec order file).watch :=
    ⟨inStep_start noActive order file,
      GlassStore.persisted_init noActive file⟩
  refine LabelledRun.always_iff_everyStep
    (fun _ _ _ kept _ stepped => kept_step undoes kept stepped)
    (fun watched action next kept survives stepped => ?_) keptAtStart
    ((survivesRestart_iff noActive keptAtStart).mpr
      (allShown_start noActive order file))
  rw [survivesRestart_iff noActive (kept_step undoes kept stepped)]
  exact allShown_step kept.inStep
    ((survivesRestart_iff noActive kept).mp survives) stepped

theorem survivesRestart_iff_keepsOffers_removedAndShown :
    LabelledRun.Always (step JsonToken.codec)
        (SurvivesRestart GlassStore.twoGlasses JsonToken.codec)
        (Bridge.start GlassStore.twoGlasses JsonToken.codec .stored
          .missing).watch removedAndShown ↔
      LabelledRun.EveryStep (step JsonToken.codec) KeepsOffers
        (Bridge.start GlassStore.twoGlasses JsonToken.codec .stored
          .missing).watch removedAndShown :=
  survivesRestart_iff_keepsOffers JsonToken.codec_undoesBuilder (by decide)
    .stored .missing removedAndShown

/-- A store in which the highball glass can be ordered with 300 ml. -/
def highballStore : GlassStore where
  glasses :=
    [⟨"highball", "Highball", [3 / 10], [3 / 10]⟩,
      ⟨"wine", "Wine glass", [1 / 5], []⟩]
  distinct := by decide

def highballFile : File JsonToken :=
  .content (highballStore.savedText JsonToken.codec .stored)

/-- A glass that is removed comes back with the next start. -/
theorem not_survivesRestart_removed :
    ¬ LabelledRun.Always (step JsonToken.codec)
      (SurvivesRestart GlassStore.twoGlasses JsonToken.codec)
      (Bridge.start GlassStore.twoGlasses JsonToken.codec .stored
        highballFile).watch [.removeGlass "highball"] := by
  intro always
  have noActive : ∀ glass ∈ GlassStore.twoGlasses,
      glass.activeVolumes = [] := by decide
  have undoes := JsonToken.codec_undoesBuilder
  have kept : Kept GlassStore.twoGlasses JsonToken.codec
      (Bridge.start GlassStore.twoGlasses JsonToken.codec .stored
        highballFile).watch :=
    ⟨inStep_start noActive .stored highballFile,
      GlassStore.persisted_init noActive highballFile⟩
  have allShown : AllShown (Bridge.start GlassStore.twoGlasses
      JsonToken.codec .stored highballFile) :=
    allShown_start noActive .stored highballFile
  have survives := always _ _ List.prefix_rfl rfl
  have keeps := (allShown_step kept.inStep allShown rfl).mp
    ((survivesRestart_iff noActive (kept_step undoes kept rfl)).mp survives)
  have ascending : highballStore.AllAscending := by
    unfold GlassStore.AllAscending AscendingVector.Ascending
    decide
  have loaded : (Bridge.start GlassStore.twoGlasses JsonToken.codec .stored
      highballFile).store = highballStore :=
    GlassStore.loadGlassActiveVolumes_saved undoes ascending rfl .stored
  have known : (Bridge.start GlassStore.twoGlasses JsonToken.codec .stored
      highballFile).store.find "highball" =
        some ⟨"highball", "Highball", [3 / 10], [3 / 10]⟩ := by
    rw [loaded]
    rfl
  exact absurd (keeps (allShown _ _ known (by decide)) _ known) (by decide)

end GlassContext

end CocktailMaker
