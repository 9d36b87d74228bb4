import CocktailMaker.PodStates

/-!
# The list of Pods as a mirror of the live Pod states

The list on the screen should have a row for every id that a live Pod state
has, and the row should show such a state.  A row is found by its id, so two
states with the same id share it, and a state whose id changes leaves its old
row behind.
-/

namespace CocktailMaker

namespace PodList

open KeyedRows LabelledRun

section Rows

@[simp]
theorem recounted_congr {first second : GuiPod}
    (sameDispensers : first.dispensers = second.dispensers) (info : PodInfo) :
    Recounted first info ↔ Recounted second info := by
  simp only [Recounted, sameDispensers]

/-- The dispensers are listed again only when their number differs. -/
theorem applyStateToUi_dispensers (guiPod : GuiPod) (pod : PodStateData) :
    (applyStateToUi guiPod pod).1.dispensers =
      if Recounted guiPod pod.info then some (dispenserModel pod.info)
      else guiPod.dispensers := by
  have listed (stated : GuiPod)
      (same : stated.dispensers = guiPod.dispensers) :
      (if Recounted stated pod.info then
          { stated with dispensers := some (dispenserModel pod.info) }
        else stated).dispensers =
        if Recounted guiPod pod.info then some (dispenserModel pod.info)
        else guiPod.dispensers := by
    simp only [recounted_congr same]
    split
    case isTrue recounted => rfl
    case isFalse keeps => exact same
  -- Neither the id nor the connection state is about the dispensers.
  refine listed _ ?_
  split <;> split <;> rfl

theorem mem_updatePod {pods : List GuiPod} (wellFormed : WellFormed pods)
    (pod : PodStateData) (row : GuiPod) :
    row ∈ (updatePod pods pod).1 ↔
      (row ∈ pods ∧ row.id ≠ pod.info.id) ∨
      (∃ guiPod ∈ pods, guiPod.id = pod.info.id ∧
        row = (applyStateToUi guiPod pod).1) ∨
      ((∀ guiPod ∈ pods, guiPod.id ≠ pod.info.id) ∧ pod.info.id ≠ "" ∧
        row = (applyStateToUi {} pod).1) := by
  have replaced {before after : List GuiPod} {guiPod : GuiPod}
      (split : pods = before ++ guiPod :: after)
      (sameId : guiPod.id = pod.info.id) :
      row ∈ before ++ (applyStateToUi guiPod pod).1 :: after ↔
        (row ∈ pods ∧ row.id ≠ pod.info.id) ∨
        (∃ guiPod ∈ pods, guiPod.id = pod.info.id ∧
          row = (applyStateToUi guiPod pod).1) ∨
        ((∀ guiPod ∈ pods, guiPod.id ≠ pod.info.id) ∧ pod.info.id ≠ "" ∧
          row = (applyStateToUi {} pod).1) := by
    have member : guiPod ∈ pods := by simp [split]
    have distinct := wellFormed.distinct
    rw [mem_replaced_iff (split ▸ distinct), ← split, sameId]
    refine or_congr_right ⟨?_, ?_⟩
    · exact fun isApplied => .inl ⟨guiPod, member, sameId, isApplied⟩
    · rintro (⟨other, otherMember, otherId, isApplied⟩ | ⟨absent, -⟩)
      · rwa [row_eq_of_key_eq distinct otherMember member
          (otherId.trans sameId.symm)] at isApplied
      · exact absurd sameId (absent guiPod member)
  have cases := updated pods pod
  generalize updatePod pods pod = result at cases ⊢
  cases cases with
  | changed split sameId report => exact replaced split sameId
  | unchanged split sameId same =>
      have kept := replaced split sameId
      rwa [same, ← split] at kept
  | undiscovered noId =>
      refine ⟨fun member => .inl ⟨member, ?_⟩, ?_⟩
      · exact noId ▸ wellFormed.named row member
      · rintro (⟨member, -⟩ | ⟨guiPod, member, sameId, -⟩ | ⟨-, hasId, -⟩)
        · exact member
        · exact absurd (sameId.trans noId) (wellFormed.named guiPod member)
        · exact absurd noId hasId
  | added absent discovered =>
      rw [List.mem_append, List.mem_singleton]
      constructor
      · rintro (member | isNew)
        · exact .inl ⟨member, absent row member⟩
        · exact .inr (.inr ⟨absent, discovered, isNew⟩)
      · rintro (⟨member, -⟩ | ⟨guiPod, member, sameId, -⟩ | ⟨-, -, isNew⟩)
        · exact .inl member
        · exact absurd sameId (absent guiPod member)
        · exact .inr isNew

theorem mem_removePod {pods : List GuiPod} (pod : PodStateData)
    (row : GuiPod) :
    row ∈ (removePod pods pod).1 ↔ row ∈ pods ∧ row.id ≠ pod.info.id := by
  have mem_kept : row ∈ pods.filter (fun uiPod => uiPod.id ≠ pod.info.id) ↔
      row ∈ pods ∧ row.id ≠ pod.info.id := by
    simp
  simp only [removePod]
  split
  case isTrue noneRemoved =>
    have kept : pods.filter (fun uiPod => uiPod.id ≠ pod.info.id) = pods :=
      List.filter_sublist.eq_of_length_le
        (Nat.sub_eq_zero_iff_le.mp noneRemoved)
    rwa [kept] at mem_kept
  case isFalse someRemoved => exact mem_kept

end Rows

section Mirror

/-- The row shows the state. -/
structure Shows (row : GuiPod) (pod : PodStateData) : Prop where
  id : row.id = pod.info.id
  connectionState : row.connectionState = pod.connectionState
  dispensers : row.dispensers = some (dispenserModel pod.info)

instance (row : GuiPod) (pod : PodStateData) : Decidable (Shows row pod) :=
  decidable_of_iff (row.id = pod.info.id ∧
      row.connectionState = pod.connectionState ∧
      row.dispensers = some (dispenserModel pod.info))
    ⟨fun ⟨id, state, dispensers⟩ => ⟨id, state, dispensers⟩,
      fun ⟨id, state, dispensers⟩ => ⟨id, state, dispensers⟩⟩

/-- Every id of a live state has one row, which shows a live state with the
id, and there are no other rows. -/
structure Mirrors (live : List PodStateData) (rows : List GuiPod) : Prop where
  wellFormed : WellFormed rows
  listed : ∀ pod ∈ live, pod.info.id ≠ "" → ∃ row ∈ rows, row.id = pod.info.id
  shown : ∀ row ∈ rows, ∃ pod ∈ live, Shows row pod

instance (live : List PodStateData) (rows : List GuiPod) :
    Decidable (Mirrors live rows) :=
  decidable_of_iff (WellFormed rows ∧
      (∀ pod ∈ live, pod.info.id ≠ "" →
        ∃ row ∈ rows, row.id = pod.info.id) ∧
      ∀ row ∈ rows, ∃ pod ∈ live, Shows row pod)
    ⟨fun ⟨wellFormed, listed, shown⟩ => ⟨wellFormed, listed, shown⟩,
      fun ⟨wellFormed, listed, shown⟩ => ⟨wellFormed, listed, shown⟩⟩

theorem Mirrors.perm {first second : List PodStateData} {rows : List GuiPod}
    (mirrors : Mirrors first rows) (perm : first.Perm second) :
    Mirrors second rows where
  wellFormed := mirrors.wellFormed
  listed pod isLive := mirrors.listed pod (perm.mem_iff.mpr isLive)
  shown row member := by
    obtain ⟨pod, isLive, shows⟩ := mirrors.shown row member
    exact ⟨pod, perm.mem_iff.mp isLive, shows⟩

theorem Mirrors.cons_undiscovered {live : List PodStateData}
    {rows : List GuiPod} (mirrors : Mirrors live rows) {pod : PodStateData}
    (undiscovered : pod.info.id = "") : Mirrors (pod :: live) rows where
  wellFormed := mirrors.wellFormed
  listed other isLive discovered := by
    rcases List.mem_cons.mp isLive with rfl | isOther
    · exact absurd undiscovered discovered
    · exact mirrors.listed other isOther discovered
  shown row member := by
    obtain ⟨other, isLive, shows⟩ := mirrors.shown row member
    exact ⟨other, List.mem_cons_of_mem _ isLive, shows⟩

/-- A state can take on other data: no row is left that no state has, and the
dispensers of the row it comes to are those of a state. -/
structure Renewable (rows : List GuiPod) (others : List PodStateData)
    (pod renewed : PodStateData) : Prop where
  left : pod.info.id ≠ renewed.info.id →
    ∀ row ∈ rows, row.id = pod.info.id → ∃ other ∈ others, Shows row other
  joined : ∀ row ∈ rows, row.id = renewed.info.id →
    Recounted row renewed.info ∨
      row.dispensers = some (dispenserModel renewed.info) ∨
      ∃ other ∈ others, other.info.id = renewed.info.id ∧
        other.connectionState = renewed.connectionState ∧
        row.dispensers = some (dispenserModel other.info)

/-- Every row stays or is replaced by one with the same id. -/
theorem exists_row_updatePod {rows : List GuiPod} (wellFormed : WellFormed rows)
    (pod : PodStateData) {row : GuiPod} (member : row ∈ rows) :
    ∃ updatedRow ∈ (updatePod rows pod).1, updatedRow.id = row.id := by
  by_cases sameId : row.id = pod.info.id
  · refine ⟨(applyStateToUi row pod).1, ?_, ?_⟩
    · exact (mem_updatePod wellFormed pod _).mpr
        (.inr (.inl ⟨row, member, sameId, rfl⟩))
    · rw [applyStateToUi_id, sameId]
  · exact ⟨row, (mem_updatePod wellFormed pod row).mpr (.inl ⟨member, sameId⟩),
      rfl⟩

theorem exists_row_of_updatePod {rows : List GuiPod}
    (wellFormed : WellFormed rows) {pod : PodStateData}
    (discovered : pod.info.id ≠ "") :
    ∃ row ∈ (updatePod rows pod).1, row.id = pod.info.id := by
  by_cases present : ∃ row ∈ rows, row.id = pod.info.id
  · obtain ⟨row, member, sameId⟩ := present
    obtain ⟨updatedRow, updatedMember, same⟩ :=
      exists_row_updatePod wellFormed pod member
    exact ⟨updatedRow, updatedMember, same.trans sameId⟩
  · have absent : ∀ row ∈ rows, row.id ≠ pod.info.id :=
      fun row member same => present ⟨row, member, same⟩
    exact ⟨_, (mem_updatePod wellFormed pod _).mpr
      (.inr (.inr ⟨absent, discovered, rfl⟩)), applyStateToUi_id _ _⟩

/-- The row that a state has been applied to shows a state. -/
theorem applied_shown_iff {row : GuiPod} {renewed : PodStateData}
    {others : List PodStateData} :
    (∃ pod ∈ renewed :: others, Shows (applyStateToUi row renewed).1 pod) ↔
      Recounted row renewed.info ∨
        row.dispensers = some (dispenserModel renewed.info) ∨
        ∃ other ∈ others, other.info.id = renewed.info.id ∧
          other.connectionState = renewed.connectionState ∧
          row.dispensers = some (dispenserModel other.info) := by
  have dispensers := applyStateToUi_dispensers row renewed
  constructor
  · rintro ⟨pod, member, sameId, sameState, sameDispensers⟩
    by_cases recounted : Recounted row renewed.info
    · exact .inl recounted
    · rw [dispensers, if_neg recounted] at sameDispensers
      rw [applyStateToUi_id] at sameId
      rw [applyStateToUi_connectionState] at sameState
      rcases List.mem_cons.mp member with rfl | isOther
      · exact .inr (.inl sameDispensers)
      · exact .inr (.inr ⟨pod, isOther, sameId.symm, sameState.symm,
          sameDispensers⟩)
  · have shownBy (pod : PodStateData) (member : pod ∈ renewed :: others)
        (sameId : pod.info.id = renewed.info.id)
        (sameState : pod.connectionState = renewed.connectionState)
        (sameDispensers : (applyStateToUi row renewed).1.dispensers =
          some (dispenserModel pod.info)) :
        ∃ pod ∈ renewed :: others,
          Shows (applyStateToUi row renewed).1 pod :=
      ⟨pod, member, (applyStateToUi_id _ _).trans sameId.symm,
        (applyStateToUi_connectionState _ _).trans sameState.symm,
        sameDispensers⟩
    by_cases recounted : Recounted row renewed.info
    · rw [if_pos recounted] at dispensers
      exact fun _ => shownBy renewed List.mem_cons_self rfl rfl dispensers
    · rw [if_neg recounted] at dispensers
      rintro (again | same | ⟨other, isOther, sameId, sameState, same⟩)
      · exact absurd again recounted
      · exact shownBy renewed List.mem_cons_self rfl rfl
          (dispensers.trans same)
      · exact shownBy other (List.mem_cons_of_mem _ isOther) sameId sameState
          (dispensers.trans same)

theorem shows_inserted (pod : PodStateData) :
    Shows (applyStateToUi {} pod).1 pod where
  id := applyStateToUi_id _ _
  connectionState := applyStateToUi_connectionState _ _
  dispensers := by
    rw [applyStateToUi_dispensers]
    exact if_pos nofun

theorem mirrors_renewed_iff {rows : List GuiPod} {others : List PodStateData}
    {pod : PodStateData} (mirrors : Mirrors (pod :: others) rows)
    (renewed : PodStateData) :
    Mirrors (renewed :: others) (updatePod rows renewed).1 ↔
      Renewable rows others pod renewed := by
  have wellFormed := mirrors.wellFormed
  constructor
  · intro after
    constructor
    · intro moved row member sameId
      have differs : row.id ≠ renewed.info.id := sameId ▸ moved
      obtain ⟨shownPod, live, shows⟩ := after.shown row
        ((mem_updatePod wellFormed renewed row).mpr (.inl ⟨member, differs⟩))
      rcases List.mem_cons.mp live with rfl | isOther
      · exact absurd shows.id differs
      · exact ⟨shownPod, isOther, shows⟩
    · intro row member sameId
      exact applied_shown_iff.mp (after.shown _
        ((mem_updatePod wellFormed renewed _).mpr
          (.inr (.inl ⟨row, member, sameId, rfl⟩))))
  · rintro ⟨left, joined⟩
    refine ⟨wellFormed.updatePod renewed, ?_, ?_⟩
    · intro live isLive discovered
      rcases List.mem_cons.mp isLive with rfl | isOther
      · exact exists_row_of_updatePod wellFormed discovered
      · obtain ⟨row, member, sameId⟩ :=
          mirrors.listed live (List.mem_cons_of_mem _ isOther) discovered
        obtain ⟨updatedRow, updatedMember, same⟩ :=
          exists_row_updatePod wellFormed renewed member
        exact ⟨updatedRow, updatedMember, same.trans sameId⟩
    · intro row member
      rcases (mem_updatePod wellFormed renewed row).mp member with
        ⟨inRows, differs⟩ | ⟨earlier, inRows, sameId, rfl⟩ | ⟨-, -, rfl⟩
      · obtain ⟨shownPod, live, shows⟩ := mirrors.shown row inRows
        rcases List.mem_cons.mp live with rfl | isOther
        · -- The row has shown the state that is renewed.
          have moved : shownPod.info.id ≠ renewed.info.id := shows.id ▸ differs
          obtain ⟨other, isOther, showsOther⟩ := left moved row inRows shows.id
          exact ⟨other, List.mem_cons_of_mem _ isOther, showsOther⟩
        · exact ⟨shownPod, List.mem_cons_of_mem _ isOther, shows⟩
      · exact applied_shown_iff.mpr (joined earlier inRows sameId)
      · exact ⟨renewed, List.mem_cons_self, shows_inserted renewed⟩

theorem mirrors_destroyed_iff {rows : List GuiPod} {others : List PodStateData}
    {pod : PodStateData} (mirrors : Mirrors (pod :: others) rows) :
    Mirrors others (removePod (updatePod rows pod).1 pod).1 ↔
      (pod.info.id ≠ "" → ∀ other ∈ others, other.info.id ≠ pod.info.id) := by
  have wellFormed := mirrors.wellFormed
  have remaining (row : GuiPod) :
      row ∈ (removePod (updatePod rows pod).1 pod).1 ↔
        row ∈ rows ∧ row.id ≠ pod.info.id := by
    rw [mem_removePod, mem_updatePod wellFormed]
    constructor
    · rintro ⟨kept | ⟨guiPod, -, -, rfl⟩ | ⟨-, -, rfl⟩, differs⟩
      · exact kept
      · exact absurd (applyStateToUi_id _ _) differs
      · exact absurd (applyStateToUi_id _ _) differs
    · exact fun kept => ⟨.inl kept, kept.2⟩
  constructor
  · intro after discovered other isOther sameId
    obtain ⟨row, member, rowId⟩ :=
      after.listed other isOther (sameId ▸ discovered)
    exact ((remaining row).mp member).2 (rowId.trans sameId)
  · intro alone
    refine ⟨(wellFormed.updatePod pod).removePod pod, ?_, ?_⟩
    · intro other isOther discovered
      obtain ⟨row, member, rowId⟩ :=
        mirrors.listed other (List.mem_cons_of_mem _ isOther) discovered
      refine ⟨row, (remaining row).mpr ⟨member, fun same => ?_⟩, rowId⟩
      have sameId : other.info.id = pod.info.id := rowId.symm.trans same
      exact alone (sameId ▸ discovered) other isOther sameId
    · intro row member
      obtain ⟨inRows, differs⟩ := (remaining row).mp member
      obtain ⟨shownPod, live, shows⟩ := mirrors.shown row inRows
      rcases List.mem_cons.mp live with rfl | isOther
      · exact absurd shows.id differs
      · exact ⟨shownPod, isOther, shows⟩

end Mirror

section MainResult

/-- The data of all live states but the one at the address. -/
def others (address : Address) (pods : List LivePod) : List PodStateData :=
  (pods.filter fun pod => pod.address ≠ address).map LivePod.data

/-- The list on the screen mirrors the live states. -/
def MirrorsStates (station : Station) : Prop :=
  Mirrors (station.pods.map LivePod.data) station.shown.pods

instance (station : Station) : Decidable (MirrorsStates station) :=
  inferInstanceAs (Decidable (Mirrors _ _))

/-- The state that an event changes shares its row with no other state, as far
as the change of the row matters. -/
def Unshared (station : Station) : Event → Prop
  | .operation (.createPodState _) => True
  | .operation (.updateInfo address info) =>
      ∀ pod ∈ station.pods, pod.address = address →
        Renewable station.shown.pods (others address station.pods) pod.data
          { pod.data with info := info }
  | .operation (.updateState address state) =>
      ∀ pod ∈ station.pods, pod.address = address →
        Renewable station.shown.pods (others address station.pods) pod.data
          { pod.data with connectionState := state.toGui }
  | .operation (.destroy address) =>
      ∀ pod ∈ station.pods, pod.address = address → pod.data.info.id ≠ "" →
        ∀ other ∈ others address station.pods,
          other.info.id ≠ pod.data.info.id
  | .runClosure => True

theorem perm_data (before after : List LivePod) (pod : LivePod) :
    ((before ++ pod :: after).map LivePod.data).Perm
      (pod.data :: (before ++ after).map LivePod.data) :=
  List.perm_middle.map LivePod.data

section OneState

variable {station : Station} {before after : List LivePod} {pod : LivePod}
  (distinct : DistinctAddresses station)
  (split : station.pods = before ++ pod :: after)

include split

theorem mirrors_of_mirrorsStates (mirrors : MirrorsStates station) :
    Mirrors (pod.data :: (before ++ after).map LivePod.data)
      station.shown.pods := by
  rw [MirrorsStates, split] at mirrors
  exact mirrors.perm (perm_data before after pod)

include distinct

theorem others_eq :
    others pod.address station.pods = (before ++ after).map LivePod.data := by
  rw [DistinctAddresses, split] at distinct
  rw [others, split, filter_key_ne distinct]

theorem forall_at_address {Property : LivePod → Prop} :
    (∀ other ∈ station.pods, other.address = pod.address → Property other) ↔
      Property pod := by
  have member : pod ∈ station.pods := by simp [split]
  constructor
  · exact fun holds => holds pod member rfl
  · intro holds other otherMember sameAddress
    rwa [row_eq_of_key_eq distinct otherMember member sameAddress]

end OneState

theorem mirrorsStates_step_iff {station next : Station} {event : Event}
    (distinct : DistinctAddresses station) (mirrors : MirrorsStates station)
    (stepped : Stepped station event next) :
    MirrorsStates next ↔ Unshared station event := by
  have toLive (before after : List LivePod) (pod : LivePod)
      (rows : List GuiPod) :
      Mirrors ((before ++ pod :: after).map LivePod.data) rows ↔
        Mirrors (pod.data :: (before ++ after).map LivePod.data) rows :=
    ⟨fun mirrors => mirrors.perm (perm_data before after pod),
      fun mirrors => mirrors.perm (perm_data before after pod).symm⟩
  cases stepped with
  | created address fresh pods shown =>
      refine iff_of_true ?_ trivial
      rw [MirrorsStates, pods, shown, toLive, List.append_nil]
      exact mirrors.cons_undiscovered rfl
  | infoUpdated info split pods shown =>
      rw [Unshared, forall_at_address distinct split, others_eq distinct split,
        MirrorsStates, pods, shown, toLive]
      exact mirrors_renewed_iff
        (mirrors_of_mirrorsStates split mirrors) _
  | stateUpdated state split pods shown =>
      rw [Unshared, forall_at_address distinct split, others_eq distinct split,
        MirrorsStates, shown, pods, toLive]
      exact mirrors_renewed_iff
        (mirrors_of_mirrorsStates split mirrors) _
  | destroyed split pods shown =>
      rw [Unshared, forall_at_address distinct split, others_eq distinct split,
        MirrorsStates, shown, pods]
      exact mirrors_destroyed_iff
        (mirrors_of_mirrorsStates split mirrors)
  | closureRun pods shown =>
      refine iff_of_true ?_ trivial
      rw [MirrorsStates, pods, shown]
      exact mirrors

/-- The list of Pods mirrors the live Pod states exactly as long as no state is
destroyed while another one has its id, no id changes unless another state
keeps the row, and a row whose number of dispensers stays the same shows the
right ones. -/
theorem podList_mirrors_iff_unshared (events : List Event) :
    Always step MirrorsStates {} events ↔
      EveryStep step Unshared {} events := by
  have preserved (station : Station) (event : Event) (next : Station)
      (distinct : DistinctAddresses station) (_ : MirrorsStates station)
      (isStep : step station event = some next) : DistinctAddresses next :=
    distinct.step (stepped_of_step distinct isStep)
  have exactly (station : Station) (event : Event) (next : Station)
      (distinct : DistinctAddresses station) (mirrors : MirrorsStates station)
      (isStep : step station event = some next) :
      MirrorsStates next ↔ Unshared station event :=
    mirrorsStates_step_iff distinct mirrors (stepped_of_step distinct isStep)
  have distinctAtStart : DistinctAddresses {} := List.nodup_nil
  have mirrorsAtStart : MirrorsStates {} :=
    ⟨⟨List.nodup_nil, nofun⟩, nofun, nofun⟩
  exact always_iff_everyStep preserved exactly distinctAtStart mirrorsAtStart

/-- A Pod is plugged in again before its old state is destroyed. -/
theorem podList_not_always_mirrors :
    ¬ ∀ events, Always step MirrorsStates {} events := by
  intro always
  have replugged := always
    [.operation (.createPodState 1),
      .operation (.updateInfo 1 ⟨"gin", 1, 0⟩),
      .operation (.createPodState 2),
      .operation (.updateInfo 2 ⟨"gin", 1, 0⟩),
      .operation (.destroy 1)]
  exact absurd replugged (by decide +kernel)

end MainResult

end PodList

end CocktailMaker
