import CocktailMaker.PodUiModel
import CocktailMaker.StationConfig

/-!
# Creating the dispensers of a Pod

`create_dispenser` compares an id with the numbers of pumps and valves, and the
screen lists the ids from zero on.  The two agree from zero on.  There is no
lower bound in `create_dispenser`: it makes a pump of every negative id, and an
id from the mapping file may be negative.
-/

namespace CocktailMaker

namespace CreateDispenser

open PodList

structure DispenserNotFoundError where
  podId : PodId
  dispenserId : DispenserId
  deriving DecidableEq

/-- The `Dispenser` of a Pod, with the type it was made as. -/
structure PodDispenserImpl where
  podId : PodId
  dispenserId : DispenserId
  type : DispenserType
  deriving DecidableEq

/-- `Pod::create_dispenser`.  The sum of the two counts does not overflow. -/
def createDispenser (info : PodInfo) (dispenserId : DispenserId) :
    Except DispenserNotFoundError PodDispenserImpl :=
  if dispenserId ≥ info.numPumps + info.numValves then
    .error ⟨info.id, dispenserId⟩
  else if dispenserId ≥ info.numPumps then
    .ok ⟨info.id, dispenserId, .valve⟩
  else .ok ⟨info.id, dispenserId, .pump⟩

/-- The ids that can be created are those of the list, with the same type, and
any other id is not found. -/
structure MatchesList (info : PodInfo) (dispenserId : DispenserId) :
    Prop where
  succeeds : (∃ dispenser, createDispenser info dispenserId = .ok dispenser) ↔
    ∃ entry ∈ dispenserModel info, entry.id = dispenserId
  typed : ∀ type,
    createDispenser info dispenserId = .ok ⟨info.id, dispenserId, type⟩ ↔
      ⟨dispenserId, type⟩ ∈ dispenserModel info
  otherwise : (∀ entry ∈ dispenserModel info, entry.id ≠ dispenserId) →
    createDispenser info dispenserId = .error ⟨info.id, dispenserId⟩

theorem applyStateToUi_dispensers (pod : PodStateData) :
    (applyStateToUi {} pod).1.dispensers = some (dispenserModel pod.info) := by
  have recounted (guiPod : GuiPod) (unlisted : guiPod.dispensers = none) :
      Recounted guiPod pod.info := by
    simp [Recounted, unlisted]
  simp only [applyStateToUi]
  rw [if_pos]
  split <;> split <;> exact recounted _ rfl

variable {info : PodInfo}

theorem mem_pumps {entry : Dispenser} :
    entry ∈ pumps info ↔
      entry.type = .pump ∧ 0 ≤ entry.id ∧ entry.id < info.numPumps := by
  simp only [pumps, List.mem_map, List.bind_eq_flatMap, List.mem_flatMap,
    List.pure_def, List.mem_singleton, List.mem_range]
  constructor
  · rintro ⟨_, ⟨i, inRange, rfl⟩, rfl⟩
    exact ⟨rfl, by simp only; omega, by simp only; omega⟩
  · rintro ⟨type, atLeast, below⟩
    exact ⟨entry.id, ⟨entry.id.toNat, by omega, by omega⟩, by rw [← type]⟩

theorem mem_valves {entry : Dispenser} :
    entry ∈ valves info ↔ entry.type = .valve ∧ info.numPumps ≤ entry.id ∧
      entry.id < info.numPumps + info.numValves := by
  simp only [valves, List.mem_map, List.bind_eq_flatMap, List.mem_flatMap,
    List.pure_def, List.mem_singleton, List.mem_range]
  constructor
  · rintro ⟨_, ⟨i, inRange, rfl⟩, rfl⟩
    exact ⟨rfl, by simp only; omega, by simp only; omega⟩
  · rintro ⟨type, atLeast, below⟩
    refine ⟨entry.id - info.numPumps,
      ⟨(entry.id - info.numPumps).toNat, by omega, by omega⟩, ?_⟩
    rw [← type, add_sub_cancel]

theorem mem_dispenserModel {entry : Dispenser} :
    entry ∈ dispenserModel info ↔
      (entry.type = .pump ∧ 0 ≤ entry.id ∧ entry.id < info.numPumps) ∨
        (entry.type = .valve ∧ info.numPumps ≤ entry.id ∧
          entry.id < info.numPumps + info.numValves) := by
  rw [dispenserModel, List.mem_append, mem_pumps, mem_valves]

/-- The three ranges of ids that `create_dispenser` tells apart. -/
theorem createDispenser_cases (info : PodInfo) (dispenserId : DispenserId) :
    (info.numPumps + info.numValves ≤ dispenserId ∧
        createDispenser info dispenserId = .error ⟨info.id, dispenserId⟩) ∨
      (dispenserId < info.numPumps + info.numValves ∧
        info.numPumps ≤ dispenserId ∧
        createDispenser info dispenserId =
          .ok ⟨info.id, dispenserId, .valve⟩) ∨
      (dispenserId < info.numPumps + info.numValves ∧
        dispenserId < info.numPumps ∧
        createDispenser info dispenserId =
          .ok ⟨info.id, dispenserId, .pump⟩) := by
  unfold createDispenser
  by_cases outside : dispenserId ≥ info.numPumps + info.numValves
  · exact .inl ⟨outside, if_pos outside⟩
  · rw [if_neg outside]
    by_cases behindPumps : dispenserId ≥ info.numPumps
    · exact .inr (.inl ⟨not_le.mp outside, behindPumps, if_pos behindPumps⟩)
    · exact .inr (.inr ⟨not_le.mp outside, not_le.mp behindPumps,
        if_neg behindPumps⟩)

variable {dispenserId : DispenserId}

theorem createDispenser_shape {dispenser : PodDispenserImpl}
    (created : createDispenser info dispenserId = .ok dispenser) :
    dispenser = ⟨info.id, dispenserId, dispenser.type⟩ := by
  obtain ⟨-, result⟩ | ⟨-, -, result⟩ | ⟨-, -, result⟩ :=
    createDispenser_cases info dispenserId <;>
    rw [result] at created <;> cases created <;> rfl

theorem matchesList_of_listed {type : DispenserType}
    (created : createDispenser info dispenserId =
      .ok ⟨info.id, dispenserId, type⟩)
    (listed : ⟨dispenserId, type⟩ ∈ dispenserModel info)
    (once : ∀ other, ⟨dispenserId, other⟩ ∈ dispenserModel info →
      other = type) : MatchesList info dispenserId where
  succeeds := iff_of_true ⟨_, created⟩ ⟨_, listed, rfl⟩
  typed other := by
    rw [created]
    constructor
    · intro same
      cases same
      exact listed
    · intro otherListed
      rw [once other otherListed]
  otherwise unlisted := absurd rfl (unlisted _ listed)

theorem matchesList_of_unlisted
    (refused : createDispenser info dispenserId =
      .error ⟨info.id, dispenserId⟩)
    (unlisted : ∀ type, ⟨dispenserId, type⟩ ∉ dispenserModel info) :
    MatchesList info dispenserId where
  succeeds := by
    rw [refused]
    refine iff_of_false nofun ?_
    rintro ⟨entry, member, rfl⟩
    exact unlisted entry.type member
  typed type := by
    rw [refused]
    exact iff_of_false nofun (unlisted type)
  otherwise _ := refused

theorem matchesList_of_nonneg (someValves : 0 ≤ info.numValves)
    (nonneg : 0 ≤ dispenserId) : MatchesList info dispenserId := by
  obtain ⟨outside, result⟩ | ⟨inside, isValve, result⟩ |
    ⟨inside, isPump, result⟩ := createDispenser_cases info dispenserId
  · refine matchesList_of_unlisted result fun type => ?_
    rw [mem_dispenserModel]
    simp only
    omega
  · refine matchesList_of_listed result
      (mem_dispenserModel.mpr (.inr ⟨rfl, isValve, inside⟩)) fun other => ?_
    rw [mem_dispenserModel]
    rintro (⟨-, -, below⟩ | ⟨type, -⟩)
    · exact absurd below (not_lt.mpr isValve)
    · exact type
  · refine matchesList_of_listed result
      (mem_dispenserModel.mpr (.inl ⟨rfl, nonneg, isPump⟩)) fun other => ?_
    rw [mem_dispenserModel]
    rintro (⟨type, -⟩ | ⟨-, behind, -⟩)
    · exact type
    · exact absurd isPump (not_lt.mpr behind)

/-- No negative id is listed, but a pump is created for each. -/
theorem not_matchesList_of_neg (somePumps : 0 ≤ info.numPumps)
    (someValves : 0 ≤ info.numValves) {dispenserId : Int}
    (negative : dispenserId < 0) : ¬ MatchesList info dispenserId := by
  intro matchesList
  obtain ⟨outside, -⟩ | ⟨-, isValve, -⟩ | ⟨-, -, result⟩ :=
    createDispenser_cases info dispenserId
  · omega
  · omega
  · obtain ⟨entry, member, rfl⟩ := matchesList.succeeds.mp ⟨_, result⟩
    rw [mem_dispenserModel] at member
    omega

/-- The dispensers that can be created are those that are listed exactly for
the ids that are not negative. -/
theorem matchesList_iff (somePumps : 0 ≤ info.numPumps)
    (someValves : 0 ≤ info.numValves) (dispenserId : DispenserId) :
    MatchesList info dispenserId ↔ 0 ≤ dispenserId := by
  refine ⟨fun matchesList => ?_, matchesList_of_nonneg someValves⟩
  by_contra negative
  exact not_matchesList_of_neg somePumps someValves (not_le.mp negative)
    matchesList

def twoPumps : PodInfo where
  id := "pod"
  numPumps := 2
  numValves := 1

theorem matchesList_iff_twoPumps : MatchesList twoPumps 2 ↔ (0 : Int) ≤ 2 :=
  matchesList_iff (by decide) (by decide) 2

/-- A pump is created for the id -1. -/
theorem not_matchesList_twoPumps : ¬ MatchesList twoPumps (-1) :=
  not_matchesList_of_neg (by decide) (by decide) (by decide)

section Dispatch

/-- `dispenser_of_pod`: the first Pod with the id that is still there answers.
A Pod that is gone has left an expired pointer. -/
def dispenserOfPod (podId : PodId) (dispenserId : DispenserId) :
    List (Option PodInfo) → Except DispenserNotFoundError PodDispenserImpl
  | [] => .error ⟨podId, dispenserId⟩
  | some info :: pods =>
      if info.id = podId then createDispenser info dispenserId
      else dispenserOfPod podId dispenserId pods
  | none :: pods => dispenserOfPod podId dispenserId pods

/-- The errors that `create_dispenser_for_ingredient` throws. -/
inductive DispatchError
  | ingredientNotAssigned (error : IngredientNotAssignedError)
  | dispenserNotFound (error : DispenserNotFoundError)
  deriving DecidableEq

/-- The Pod that answers is registered under the id, and it is asked for the
dispenser. -/
theorem dispenserOfPod_eq_ok {podId : PodId} {dispenserId : DispenserId}
    {pods : List (Option PodInfo)} {dispenser : PodDispenserImpl}
    (found : dispenserOfPod podId dispenserId pods = .ok dispenser) :
    ∃ info, some info ∈ pods ∧ info.id = podId ∧
      createDispenser info dispenserId = .ok dispenser := by
  induction pods with
  | nil => cases found
  | cons pod pods ih =>
      cases pod with
      | none =>
          obtain ⟨info, member, rest⟩ := ih found
          exact ⟨info, List.mem_cons_of_mem _ member, rest⟩
      | some first =>
          unfold dispenserOfPod at found
          split at found
          · next isPod => exact ⟨first, List.mem_cons_self, isPod, found⟩
          · obtain ⟨info, member, rest⟩ := ih found
            exact ⟨info, List.mem_cons_of_mem _ member, rest⟩

end Dispatch

end CreateDispenser

end CocktailMaker
