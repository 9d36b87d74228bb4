import CocktailMaker.KeyedRows
import CocktailMaker.LabelledRun
import CocktailMaker.PodMessage

/-!
# The list of Pods on the screen

`PodUiModel` holds a row for every Pod that has an id.  It tells its observers
which rows have been added, removed or changed.  An observer that follows these
notifications keeps a copy of the rows as long as only the last row is removed.
-/

namespace CocktailMaker

namespace PodList

open KeyedRows LabelledRun

/-- The part of `PodInfo` that is shown. -/
structure PodInfo where
  id : PodId := ""
  numPumps : Int := 0
  numValves : Int := 0
  deriving DecidableEq

/-- The enumeration `gui::ConnectionState`. -/
inductive ConnectionState
  | disconnected
  | connecting
  | connected
  deriving DecidableEq

structure PodStateData where
  info : PodInfo := {}
  connectionState : ConnectionState := .disconnected
  deriving DecidableEq

inductive DispenserType
  | pump
  | valve
  deriving DecidableEq

structure Dispenser where
  id : Int
  type : DispenserType
  deriving DecidableEq

/-- A row of the list. -/
structure GuiPod where
  id : PodId := ""
  connectionState : ConnectionState := .disconnected
  dispensers : Option (List Dispenser) := none
  deriving DecidableEq

inductive Notification
  | rowAdded (index count : Nat)
  | rowRemoved (index count : Nat)
  | rowChanged (row : Nat)
  deriving DecidableEq

section Model

def pumps (info : PodInfo) : List Dispenser :=
  (List.range info.numPumps.toNat).map fun i => ⟨i, .pump⟩

def valves (info : PodInfo) : List Dispenser :=
  (List.range info.numValves.toNat).map fun i => ⟨info.numPumps + i, .valve⟩

/-- The dispensers of a Pod: its pumps and then its valves. -/
def dispenserModel (info : PodInfo) : List Dispenser :=
  pumps info ++ valves info

/-- The dispensers of a row need to be listed again. -/
def Recounted (guiPod : GuiPod) (info : PodInfo) : Prop :=
  ∀ dispensers ∈ guiPod.dispensers,
    (dispensers.length : Int) ≠ info.numPumps + info.numValves

instance (guiPod : GuiPod) (info : PodInfo) :
    Decidable (Recounted guiPod info) :=
  inferInstanceAs (Decidable (∀ _ ∈ guiPod.dispensers, _))

def applyStateToUi (guiPod : GuiPod) (statePod : PodStateData) :
    GuiPod × Bool :=
  let renamed := guiPod.id ≠ statePod.info.id
  let named :=
    if renamed then { guiPod with id := statePod.info.id } else guiPod
  let reconnected := named.connectionState ≠ statePod.connectionState
  let stated :=
    if reconnected then
      { named with connectionState := statePod.connectionState }
    else named
  let recounted := Recounted stated statePod.info
  let listed :=
    if recounted then
      { stated with dispensers := some (dispenserModel statePod.info) }
    else stated
  (listed, renamed ∨ reconnected ∨ recounted)

/-- The first row with the id of the Pod. -/
def findGuiPod (pod : PodStateData) : List GuiPod → Option (Nat × GuiPod)
  | [] => none
  | uiPod :: pods =>
      if uiPod.id = pod.info.id then some (0, uiPod)
      else (findGuiPod pod pods).map fun (row, found) => (row + 1, found)

def updatePod (pods : List GuiPod) (pod : PodStateData) :
    List GuiPod × List Notification :=
  match findGuiPod pod pods with
  | some (row, guiPod) =>
      let (applied, changed) := applyStateToUi guiPod pod
      (pods.set row applied, if changed then [.rowChanged row] else [])
  | none =>
      -- A Pod without an id has not been discovered yet.
      if pod.info.id = "" then (pods, [])
      else
        let (inserted, _) := applyStateToUi {} pod
        (pods ++ [inserted], [.rowAdded pods.length 1])

/-- The rows that stay are moved to the front before the rest is erased. -/
def removePod (pods : List GuiPod) (pod : PodStateData) :
    List GuiPod × List Notification :=
  let kept := pods.filter fun uiPod => uiPod.id ≠ pod.info.id
  let removedCount := pods.length - kept.length
  if removedCount = 0 then (pods, [])
  else (kept, [.rowRemoved kept.length removedCount])

end Model

section Observer

/-- What an observer does, which can read the rows of the model. -/
def Notification.apply (pods observed : List GuiPod) :
    Notification → List GuiPod
  | .rowAdded index count =>
      observed.take index ++ (pods.drop index).take count ++
        observed.drop index
  | .rowRemoved index count =>
      observed.take index ++ observed.drop (index + count)
  | .rowChanged row =>
      match pods[row]? with
      | some guiPod => observed.set row guiPod
      | none => observed

/-- The rows of the model and those that the observer has. -/
structure Observed where
  pods : List GuiPod
  observed : List GuiPod

inductive ModelCall
  | updatePod (pod : PodStateData)
  | removePod (pod : PodStateData)

def ModelCall.perform (pods : List GuiPod) :
    ModelCall → List GuiPod × List Notification
  | .updatePod pod => PodList.updatePod pods pod
  | .removePod pod => PodList.removePod pods pod

/-- A call, after which the observer has applied all notifications. -/
def observe (state : Observed) (call : ModelCall) : Option Observed :=
  let (pods, notifications) := call.perform state.pods
  some
    { pods := pods
      observed := notifications.foldl (Notification.apply pods)
        state.observed }

end Observer

section Applied

theorem applyStateToUi_of_unchanged {guiPod : GuiPod} {pod : PodStateData}
    (unchanged : (applyStateToUi guiPod pod).2 = false) :
    (applyStateToUi guiPod pod).1 = guiPod := by
  simp only [applyStateToUi, decide_eq_false_iff_not, not_or] at unchanged ⊢
  obtain ⟨sameId, sameState, sameCount⟩ := unchanged
  rw [if_neg sameCount, if_neg sameState, if_neg sameId]

@[simp]
theorem applyStateToUi_id (guiPod : GuiPod) (pod : PodStateData) :
    (applyStateToUi guiPod pod).1.id = pod.info.id := by
  simp only [applyStateToUi]
  split <;> split <;> split <;> simp_all

@[simp]
theorem applyStateToUi_connectionState (guiPod : GuiPod) (pod : PodStateData) :
    (applyStateToUi guiPod pod).1.connectionState = pod.connectionState := by
  simp only [applyStateToUi]
  split <;> split <;> split <;> simp_all

theorem findGuiPod_eq_none {pod : PodStateData} {pods : List GuiPod}
    (notFound : findGuiPod pod pods = none) :
    ∀ guiPod ∈ pods, guiPod.id ≠ pod.info.id := by
  induction pods with
  | nil => simp
  | cons uiPod pods ih =>
      simp only [findGuiPod] at notFound
      split at notFound
      case isTrue same => cases notFound
      case isFalse differs =>
        exact List.forall_mem_cons.mpr
          ⟨differs, ih (Option.map_eq_none_iff.mp notFound)⟩

theorem findGuiPod_eq_some {pod : PodStateData} {pods : List GuiPod}
    {row : Nat} {guiPod : GuiPod}
    (found : findGuiPod pod pods = some (row, guiPod)) :
    ∃ before after, pods = before ++ guiPod :: after ∧ before.length = row ∧
      guiPod.id = pod.info.id := by
  induction pods generalizing row with
  | nil => cases found
  | cons uiPod pods ih =>
      simp only [findGuiPod] at found
      split at found
      case isTrue same =>
        obtain ⟨rfl, rfl⟩ : 0 = row ∧ uiPod = guiPod := by simpa using found
        exact ⟨[], pods, rfl, rfl, same⟩
      case isFalse differs =>
        obtain ⟨⟨earlier, other⟩, foundLater, same⟩ :=
          Option.map_eq_some_iff.mp found
        obtain ⟨rfl, rfl⟩ : earlier + 1 = row ∧ other = guiPod := by
          simpa using same
        obtain ⟨before, after, rfl, rfl, sameId⟩ := ih foundLater
        exact ⟨uiPod :: before, after, rfl, rfl, sameId⟩

/-- What `update_pod` does with the rows and what it reports. -/
inductive Updated (pods : List GuiPod) (pod : PodStateData) :
    List GuiPod × List Notification → Prop
  | changed {before after : List GuiPod} {guiPod : GuiPod}
      (split : pods = before ++ guiPod :: after)
      (sameId : guiPod.id = pod.info.id)
      (report : (applyStateToUi guiPod pod).2 = true) :
      Updated pods pod
        (before ++ (applyStateToUi guiPod pod).1 :: after,
          [.rowChanged before.length])
  | unchanged {before after : List GuiPod} {guiPod : GuiPod}
      (split : pods = before ++ guiPod :: after)
      (sameId : guiPod.id = pod.info.id)
      (same : (applyStateToUi guiPod pod).1 = guiPod) :
      Updated pods pod (pods, [])
  | undiscovered (noId : pod.info.id = "") : Updated pods pod (pods, [])
  | added (absent : ∀ guiPod ∈ pods, guiPod.id ≠ pod.info.id)
      (discovered : pod.info.id ≠ "") :
      Updated pods pod
        (pods ++ [(applyStateToUi {} pod).1], [.rowAdded pods.length 1])

theorem updated (pods : List GuiPod) (pod : PodStateData) :
    Updated pods pod (updatePod pods pod) := by
  unfold updatePod
  cases found : findGuiPod pod pods with
  | none =>
      by_cases noId : pod.info.id = ""
      · simp only [if_pos noId]
        exact .undiscovered noId
      · simp only [if_neg noId]
        exact .added (findGuiPod_eq_none found) noId
  | some place =>
      obtain ⟨row, guiPod⟩ := place
      obtain ⟨before, after, rfl, rfl, sameId⟩ := findGuiPod_eq_some found
      cases report : (applyStateToUi guiPod pod).2 with
      | true =>
          simpa [report] using Updated.changed rfl sameId report
      | false =>
          have same := applyStateToUi_of_unchanged report
          simpa [report, same] using Updated.unchanged rfl sameId same

/-- The ids of the rows differ and none is empty. -/
structure WellFormed (pods : List GuiPod) : Prop where
  distinct : (pods.map GuiPod.id).Nodup
  named : ∀ guiPod ∈ pods, guiPod.id ≠ ""

instance (pods : List GuiPod) : Decidable (WellFormed pods) :=
  decidable_of_iff ((pods.map GuiPod.id).Nodup ∧
      ∀ guiPod ∈ pods, guiPod.id ≠ "")
    ⟨fun ⟨distinct, named⟩ => ⟨distinct, named⟩,
      fun ⟨distinct, named⟩ => ⟨distinct, named⟩⟩

theorem WellFormed.updatePod {pods : List GuiPod}
    (wellFormed : WellFormed pods) (pod : PodStateData) :
    WellFormed (updatePod pods pod).1 := by
  obtain ⟨distinct, named⟩ := wellFormed
  have cases := updated pods pod
  generalize PodList.updatePod pods pod = result at cases ⊢
  cases cases with
  | @changed before after guiPod split sameId report =>
      subst split
      have sameIds : (before ++ (applyStateToUi guiPod pod).1 :: after).map
          GuiPod.id = (before ++ guiPod :: after).map GuiPod.id := by
        simp [sameId]
      refine ⟨sameIds ▸ distinct, fun other member => ?_⟩
      have isId : other.id ∈ (before ++ guiPod :: after).map GuiPod.id :=
        sameIds ▸ List.mem_map_of_mem member
      obtain ⟨row, inRows, sameAsRow⟩ := List.mem_map.mp isId
      exact sameAsRow ▸ named row inRows
  | unchanged => exact ⟨distinct, named⟩
  | undiscovered => exact ⟨distinct, named⟩
  | added absent discovered =>
      constructor
      · rw [List.map_append, List.nodup_append]
        refine ⟨distinct, by simp, ?_⟩
        intro id isId other isOther
        obtain ⟨guiPod, member, rfl⟩ := List.mem_map.mp isId
        rw [List.map_singleton, List.mem_singleton, applyStateToUi_id]
          at isOther
        exact isOther ▸ absent guiPod member
      · intro guiPod member
        rcases List.mem_append.mp member with inRows | isNew
        · exact named guiPod inRows
        · rw [List.mem_singleton.mp isNew, applyStateToUi_id]
          exact discovered

/-- What `remove_pod` does with the rows and what it reports. -/
inductive Removed (pods : List GuiPod) (pod : PodStateData) :
    List GuiPod × List Notification → Prop
  | absent (absent : ∀ guiPod ∈ pods, guiPod.id ≠ pod.info.id) :
      Removed pods pod (pods, [])
  | erased {before after : List GuiPod} {guiPod : GuiPod}
      (split : pods = before ++ guiPod :: after)
      (sameId : guiPod.id = pod.info.id) :
      Removed pods pod
        (before ++ after, [.rowRemoved (before ++ after).length 1])

theorem removed {pods : List GuiPod} (wellFormed : WellFormed pods)
    (pod : PodStateData) : Removed pods pod (removePod pods pod) := by
  by_cases present : ∃ guiPod ∈ pods, guiPod.id = pod.info.id
  · obtain ⟨guiPod, member, sameId⟩ := present
    obtain ⟨before, after, rfl⟩ := List.append_of_mem member
    have kept := filter_key_ne wellFormed.distinct
    rw [sameId] at kept
    have removedOne : (before ++ guiPod :: after).length -
        (before ++ after).length = 1 := by
      simp
      omega
    simp only [removePod, kept, removedOne, Nat.one_ne_zero, if_false]
    exact .erased rfl sameId
  · have absent : ∀ guiPod ∈ pods, guiPod.id ≠ pod.info.id :=
      fun guiPod member same => present ⟨guiPod, member, same⟩
    have kept : pods.filter (fun uiPod => uiPod.id ≠ pod.info.id) = pods :=
      List.filter_eq_self.mpr fun guiPod member => by
        simpa using absent guiPod member
    simp only [removePod, kept, Nat.sub_self, if_true]
    exact .absent absent

theorem WellFormed.removePod {pods : List GuiPod}
    (wellFormed : WellFormed pods) (pod : PodStateData) :
    WellFormed (removePod pods pod).1 := by
  obtain ⟨distinct, named⟩ := wellFormed
  have cases := removed ⟨distinct, named⟩ pod
  generalize PodList.removePod pods pod = result at cases ⊢
  cases cases with
  | absent => exact ⟨distinct, named⟩
  | @erased before after guiPod split sameId =>
      subst split
      refine ⟨distinct_others distinct, fun other member => named other ?_⟩
      exact ((List.sublist_cons_self guiPod after).append_left before).subset
        member

theorem WellFormed.perform {pods : List GuiPod}
    (wellFormed : WellFormed pods) (call : ModelCall) :
    WellFormed (call.perform pods).1 := by
  cases call with
  | updatePod pod => exact wellFormed.updatePod pod
  | removePod pod => exact wellFormed.removePod pod

end Applied

section MainResult

/-- The observer has the rows of the model. -/
def Matches (state : Observed) : Prop :=
  state.observed = state.pods

instance (state : Observed) : Decidable (Matches state) :=
  inferInstanceAs (Decidable (_ = _))

/-- A row that is removed is the last one. -/
def RemovesLast (state : Observed) : ModelCall → Prop
  | .updatePod _ => True
  | .removePod pod =>
      ∀ (row : Nat) (guiPod : GuiPod), state.pods[row]? = some guiPod →
        guiPod.id = pod.info.id → row + 1 = state.pods.length

theorem foldl_apply_updatePod (pods : List GuiPod) (pod : PodStateData) :
    (updatePod pods pod).2.foldl (Notification.apply (updatePod pods pod).1)
      pods = (updatePod pods pod).1 := by
  have cases := updated pods pod
  generalize updatePod pods pod = result at cases ⊢
  cases cases with
  | changed split sameId report =>
      subst split
      simp [Notification.apply]
  | unchanged => rfl
  | undiscovered => rfl
  | added absent discovered => simp [Notification.apply]

/-- What `remove_pod` reports is that the last row is gone. -/
theorem foldl_apply_removePod_iff {pods : List GuiPod}
    (wellFormed : WellFormed pods) (pod : PodStateData) :
    (removePod pods pod).2.foldl (Notification.apply (removePod pods pod).1)
        pods = (removePod pods pod).1 ↔
      ∀ (row : Nat) (guiPod : GuiPod), pods[row]? = some guiPod →
        guiPod.id = pod.info.id → row + 1 = pods.length := by
  have cases := removed wellFormed pod
  generalize removePod pods pod = result at cases ⊢
  cases cases with
  | absent absent =>
      refine ⟨fun _ row guiPod found sameId => ?_, fun _ => rfl⟩
      exact absurd sameId (absent guiPod (List.mem_of_getElem? found))
  | @erased before after guiPod split sameId =>
      subst split
      have distinct := wellFormed.distinct
      have found : (before ++ guiPod :: after)[before.length]? = some guiPod :=
        by simp
      rcases List.eq_nil_or_concat after with rfl | ⟨middle, last, rfl⟩
      · refine ⟨fun _ row other foundOther sameOther => ?_, fun _ => ?_⟩
        · rw [index_eq_of_key_eq distinct foundOther found
            (sameOther.trans sameId.symm)]
          simp
        · simp [Notification.apply]
      · -- The observer keeps the row that has been removed.
        constructor
        · intro same
          have kept : guiPod ∈ before ++ (middle ++ [last]) := by
            rw [List.concat_eq_append] at same
            change _ = before ++ (middle ++ [last]) at same
            rw [← same]
            simp [Notification.apply, List.take_append]
          exact absurd rfl (key_ne_of_mem_others
            (List.concat_eq_append ▸ distinct) kept)
        · intro isLast
          have := isLast before.length guiPod found sameId
          simp at this

theorem observe_eq_some {state next : Observed} {call : ModelCall} :
    observe state call = some next ↔
      next = ⟨(call.perform state.pods).1,
        (call.perform state.pods).2.foldl
          (Notification.apply (call.perform state.pods).1) state.observed⟩ :=
  Option.some_inj.trans eq_comm

theorem matches_observe_iff {state next : Observed} {call : ModelCall}
    (wellFormed : WellFormed state.pods) (same : Matches state)
    (stepped : observe state call = some next) :
    Matches next ↔ RemovesLast state call := by
  rw [observe_eq_some.mp stepped, Matches]
  rw [Matches] at same
  rw [same]
  cases call with
  | updatePod pod =>
      exact iff_of_true (foldl_apply_updatePod state.pods pod) trivial
  | removePod pod => exact foldl_apply_removePod_iff wellFormed pod

theorem wellFormed_foldl_perform (calls : List ModelCall) :
    WellFormed (calls.foldl (fun pods call => (call.perform pods).1) []) := by
  induction calls using List.reverseRecOn with
  | nil => exact ⟨List.nodup_nil, by simp⟩
  | append_singleton calls call ih =>
      rw [List.foldl_append]
      exact ih.perform call

/-- The notifications of the Pod list describe its changes exactly as long as
every row that is removed is the last one.  The observer may start at any
time. -/
theorem observer_matches_iff_removes_last (earlier calls : List ModelCall) :
    let pods := earlier.foldl (fun pods call => (call.perform pods).1) []
    Always observe Matches ⟨pods, pods⟩ calls ↔
      EveryStep observe RemovesLast ⟨pods, pods⟩ calls := by
  intro pods
  have preserved (state : Observed) (call : ModelCall) (next : Observed)
      (wellFormed : WellFormed state.pods) (_ : Matches state)
      (stepped : observe state call = some next) : WellFormed next.pods :=
    observe_eq_some.mp stepped ▸ wellFormed.perform call
  have exactly (state : Observed) (call : ModelCall) (next : Observed)
      (wellFormed : WellFormed state.pods) (same : Matches state)
      (stepped : observe state call = some next) :
      Matches next ↔ RemovesLast state call :=
    matches_observe_iff wellFormed same stepped
  have sameAtStart : Matches ⟨pods, pods⟩ := rfl
  exact always_iff_everyStep preserved exactly
    (wellFormed_foldl_perform earlier) sameAtStart

/-- Two Pods appear and the first one is removed. -/
theorem observer_not_matches :
    ¬ ∀ calls, Always observe Matches ⟨[], []⟩ calls := by
  intro always
  have removal := always
    [.updatePod ⟨⟨"gin", 1, 0⟩, .connected⟩,
      .updatePod ⟨⟨"rum", 1, 0⟩, .connected⟩,
      .removePod ⟨⟨"gin", 1, 0⟩, .connected⟩]
  exact absurd removal (by decide +kernel)

end MainResult

end PodList

end CocktailMaker
