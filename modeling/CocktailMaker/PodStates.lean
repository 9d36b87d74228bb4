import CocktailMaker.PodUiModel

/-!
# The live Pod states and the screen

`StationStateBridge` keeps track of the Pod states by their addresses.  What
they report reaches the list of Pods and the flag `station_ready` through
closures that the event loop of the user interface runs in order.  A closure
holds a copy of the data, so the screen is that of the last closure whenever
it runs.
-/

namespace CocktailMaker

namespace PodList

open KeyedRows LabelledRun

/-- The enumeration `PodState::ConnectionState`. -/
inductive PodConnection
  | unknown
  | connecting
  | connected
  | disconnected
  deriving DecidableEq

def PodConnection.toGui : PodConnection → ConnectionState
  | .unknown => .disconnected
  | .disconnected => .disconnected
  | .connecting => .connecting
  | .connected => .connected

abbrev Address := Nat

/-- A `PodStateImpl` that has not been destroyed. -/
structure LivePod where
  address : Address
  data : PodStateData := {}
  deriving DecidableEq

/-- A closure given to `invoke_from_event_loop`. -/
inductive Closure
  | updatePod (pod : PodStateData)
  | removePod (pod : PodStateData)
  | setStationReady (connected : Bool)

/-- What the closures change. -/
structure Screen where
  pods : List GuiPod := []
  stationReady : Bool := false

def Closure.run (screen : Screen) : Closure → Screen
  | .updatePod pod =>
      { screen with pods := (PodList.updatePod screen.pods pod).1 }
  | .removePod pod =>
      { screen with pods := (PodList.removePod screen.pods pod).1 }
  | .setStationReady connected => { screen with stationReady := connected }

structure Station where
  pods : List LivePod := []
  queue : List Closure := []
  screen : Screen := {}

inductive Operation
  | createPodState (address : Address)
  | updateInfo (address : Address) (info : PodInfo)
  | updateState (address : Address) (state : PodConnection)
  | destroy (address : Address)

inductive Event
  | operation (operation : Operation)
  | runClosure

section Bridge

def findPod (address : Address) (pods : List LivePod) : Option LivePod :=
  pods.find? fun pod => pod.address = address

/-- Assign the members of the state at the address. -/
def assign (address : Address) (data : PodStateData) (pods : List LivePod) :
    List LivePod :=
  pods.map fun pod =>
    if pod.address = address then { pod with data := data } else pod

def allConnected (pods : List LivePod) : Bool :=
  !pods.isEmpty && pods.all fun pod => pod.data.connectionState = .connected

/-- The closures that `pod_connection_state_changed` queues. -/
def podConnectionStateChanged (pods : List LivePod) (pod : PodStateData) :
    List Closure :=
  [.updatePod pod, .setStationReady (allConnected pods)]

/-- The state is no longer tracked when the others are evaluated. -/
def podAboutToRemoved (pods : List LivePod) (pod : PodStateData) :
    List Closure :=
  podConnectionStateChanged pods pod ++ [.removePod pod]

/-- The states after an operation and the closures that it queues. -/
def Operation.perform (pods : List LivePod) :
    Operation → Option (List LivePod × List Closure)
  | .createPodState address =>
      if address ∈ pods.map LivePod.address then none
      else some (pods ++ [{ address := address }], [])
  | .updateInfo address info =>
      (findPod address pods).map fun pod =>
        let data := { pod.data with info := info }
        (assign address data pods, [.updatePod data])
  | .updateState address state =>
      (findPod address pods).map fun pod =>
        let data := { pod.data with connectionState := state.toGui }
        let assigned := assign address data pods
        (assigned, podConnectionStateChanged assigned data)
  | .destroy address =>
      (findPod address pods).map fun pod =>
        let kept := pods.filter fun other => other.address ≠ address
        (kept, podAboutToRemoved kept pod.data)

def step (station : Station) : Event → Option Station
  | .operation operation =>
      (operation.perform station.pods).map fun (pods, closures) =>
        { station with pods := pods, queue := station.queue ++ closures }
  | .runClosure =>
      match station.queue with
      | [] => none
      | closure :: queue =>
          some
            { station with queue := queue, screen := closure.run station.screen }

/-- The screen once the queued closures have run. -/
def Station.shown (station : Station) : Screen :=
  station.queue.foldl Closure.run station.screen

end Bridge

section Steps

/-- What an event does to the states and to the screen that follows. -/
inductive Stepped (station : Station) : Event → Station → Prop
  | created {next : Station} (address : Address)
      (fresh : address ∉ station.pods.map LivePod.address)
      (pods : next.pods = station.pods ++ [{ address := address }])
      (shown : next.shown = station.shown) :
      Stepped station (.operation (.createPodState address)) next
  | infoUpdated {next : Station} {before after : List LivePod} {pod : LivePod}
      (info : PodInfo) (split : station.pods = before ++ pod :: after)
      (pods : next.pods = before ++
        { pod with data.info := info } :: after)
      (shown : next.shown =
        (Closure.updatePod { pod.data with info := info }).run
          station.shown) :
      Stepped station (.operation (.updateInfo pod.address info)) next
  | stateUpdated {next : Station} {before after : List LivePod}
      {pod : LivePod} (state : PodConnection)
      (split : station.pods = before ++ pod :: after)
      (pods : next.pods = before ++
        { pod with data.connectionState := state.toGui } :: after)
      (shown : next.shown =
        { pods := (updatePod station.shown.pods
            { pod.data with connectionState := state.toGui }).1
          stationReady := allConnected next.pods }) :
      Stepped station (.operation (.updateState pod.address state)) next
  | destroyed {next : Station} {before after : List LivePod} {pod : LivePod}
      (split : station.pods = before ++ pod :: after)
      (pods : next.pods = before ++ after)
      (shown : next.shown =
        { pods := (removePod (updatePod station.shown.pods pod.data).1
            pod.data).1
          stationReady := allConnected next.pods }) :
      Stepped station (.operation (.destroy pod.address)) next
  | closureRun {next : Station} (pods : next.pods = station.pods)
      (shown : next.shown = station.shown) :
      Stepped station .runClosure next

/-- The states are at different addresses. -/
def DistinctAddresses (station : Station) : Prop :=
  (station.pods.map LivePod.address).Nodup

theorem exists_split_of_findPod {address : Address} {pods : List LivePod}
    {pod : LivePod} (distinct : (pods.map LivePod.address).Nodup)
    (found : findPod address pods = some pod) :
    pod.address = address ∧
      ∃ before after, pods = before ++ pod :: after ∧
        (∀ data, assign address data pods =
          before ++ { pod with data := data } :: after) ∧
        pods.filter (fun other => other.address ≠ address) =
          before ++ after := by
  have atAddress : pod.address = address := by
    simpa using List.find?_some found
  subst atAddress
  obtain ⟨before, after, rfl⟩ :=
    List.append_of_mem (List.mem_of_find?_eq_some found)
  refine ⟨rfl, before, after, rfl, fun data => ?_, filter_key_ne distinct⟩
  have unchanged (part : List LivePod)
      (others : ∀ other ∈ part, other ∈ before ++ after) :
      (part.map fun other =>
        if other.address = pod.address then { other with data := data }
        else other) = part := by
    refine (List.map_congr_left fun other member => ?_).trans (List.map_id' _)
    exact if_neg (key_ne_of_mem_others distinct (others other member))
  simp only [assign, List.map_append, List.map_cons, if_true]
  rw [unchanged before fun other member => List.mem_append_left _ member,
    unchanged after fun other member => List.mem_append_right _ member]

theorem shown_queue_append (pods : List LivePod) (queue : List Closure)
    (screen : Screen) (closures : List Closure) :
    Station.shown ⟨pods, queue ++ closures, screen⟩ =
      closures.foldl Closure.run (queue.foldl Closure.run screen) :=
  List.foldl_append

theorem stepped_of_step {station next : Station} {event : Event}
    (distinct : DistinctAddresses station)
    (isStep : step station event = some next) :
    Stepped station event next := by
  cases event with
  | runClosure =>
      simp only [step] at isStep
      split at isStep
      · cases isStep
      · next closure queue queued =>
          injection isStep with same
          subst same
          refine .closureRun rfl ?_
          rw [Station.shown, Station.shown, queued]
          rfl
  | operation operation =>
      obtain ⟨⟨pods, closures⟩, performed, rfl⟩ :=
        Option.map_eq_some_iff.mp isStep
      cases operation with
      | createPodState address =>
          simp only [Operation.perform] at performed
          split at performed
          case isTrue taken => cases performed
          case isFalse fresh =>
            injection performed with same
            injection same with samePods sameClosures
            subst samePods sameClosures
            exact .created address fresh rfl (shown_queue_append _ _ _ _)
      | updateInfo address info =>
          obtain ⟨pod, found, same⟩ := Option.map_eq_some_iff.mp performed
          injection same with samePods sameClosures
          subst samePods sameClosures
          obtain ⟨rfl, before, after, split, assigned, -⟩ :=
            exists_split_of_findPod distinct found
          exact .infoUpdated info split (assigned _)
            (shown_queue_append _ _ _ _)
      | updateState address state =>
          obtain ⟨pod, found, same⟩ := Option.map_eq_some_iff.mp performed
          injection same with samePods sameClosures
          subst samePods sameClosures
          obtain ⟨rfl, before, after, split, assigned, -⟩ :=
            exists_split_of_findPod distinct found
          exact .stateUpdated state split (assigned _)
            (shown_queue_append _ _ _ _)
      | destroy address =>
          obtain ⟨pod, found, same⟩ := Option.map_eq_some_iff.mp performed
          injection same with samePods sameClosures
          subst samePods sameClosures
          obtain ⟨rfl, before, after, split, -, kept⟩ :=
            exists_split_of_findPod distinct found
          exact .destroyed split kept (shown_queue_append _ _ _ _)

theorem DistinctAddresses.step {station next : Station} {event : Event}
    (distinct : DistinctAddresses station)
    (stepped : Stepped station event next) : DistinctAddresses next := by
  unfold DistinctAddresses at *
  cases stepped with
  | created address fresh pods =>
      rw [pods, List.map_append, List.nodup_append]
      refine ⟨distinct, by simp, fun taken isTaken other isNew same => ?_⟩
      rw [List.map_singleton, List.mem_singleton] at isNew
      obtain rfl : taken = address := same.trans isNew
      exact fresh isTaken
  | infoUpdated info split pods =>
      rw [pods]
      rw [split] at distinct
      simpa using distinct
  | stateUpdated state split pods =>
      rw [pods]
      rw [split] at distinct
      simpa using distinct
  | destroyed split pods =>
      rw [pods]
      rw [split] at distinct
      exact distinct_others distinct
  | closureRun pods => exact pods ▸ distinct

end Steps

section Readiness

/-- There is a Pod state and every one is connected. -/
def AllConnected (pods : List LivePod) : Prop :=
  pods ≠ [] ∧ ∀ pod ∈ pods, pod.data.connectionState = .connected

instance (pods : List LivePod) : Decidable (AllConnected pods) :=
  inferInstanceAs (Decidable (_ ∧ _))

/-- The flag on the screen tells whether all Pods are connected. -/
def TellsReadiness (station : Station) : Prop :=
  station.shown.stationReady = true ↔ AllConnected station.pods

instance (station : Station) : Decidable (TellsReadiness station) :=
  inferInstanceAs (Decidable (_ ↔ _))

/-- A Pod state that is created does not find all others connected. -/
def CreatedUnready (station : Station) (event : Event) : Prop :=
  ∀ address, event = .operation (.createPodState address) →
    ¬ AllConnected station.pods

@[simp]
theorem allConnected_eq_true {pods : List LivePod} :
    allConnected pods = true ↔ AllConnected pods := by
  simp [allConnected, AllConnected]

theorem allConnected_congr {before after : List LivePod} {pod other : LivePod}
    (sameState : other.data.connectionState = pod.data.connectionState) :
    AllConnected (before ++ other :: after) ↔
      AllConnected (before ++ pod :: after) := by
  simp [AllConnected, or_imp, forall_and, sameState]

theorem not_allConnected_created (pods : List LivePod) (address : Address) :
    ¬ AllConnected (pods ++ [{ address := address }]) := by
  rintro ⟨-, connected⟩
  exact nomatch connected { address := address } (by simp)

theorem tellsReadiness_step_iff {station next : Station} {event : Event}
    (tells : TellsReadiness station) (stepped : Stepped station event next) :
    TellsReadiness next ↔ CreatedUnready station event := by
  unfold TellsReadiness at *
  cases stepped with
  | created address fresh pods shown =>
      rw [shown, pods, tells]
      constructor
      · exact fun right _ _ => fun ready =>
          not_allConnected_created _ _ (right.mp ready)
      · exact fun unready => iff_of_false (unready address rfl)
          (not_allConnected_created _ _)
  | infoUpdated info split pods shown =>
      refine iff_of_true ?_ fun address => nofun
      rw [shown, pods, Closure.run, tells, split]
      refine (allConnected_congr ?_).symm
      rfl
  | stateUpdated state split pods shown =>
      refine iff_of_true ?_ fun address => nofun
      rw [shown]
      exact allConnected_eq_true
  | destroyed split pods shown =>
      refine iff_of_true ?_ fun address => nofun
      rw [shown]
      exact allConnected_eq_true
  | closureRun pods shown =>
      refine iff_of_true ?_ fun address => nofun
      rw [shown, pods]
      exact tells

/-- `station_ready` tells whether all Pods are connected, exactly as long as no
Pod state is created while it is set. -/
theorem stationReady_iff_created_unready (events : List Event) :
    Always step TellsReadiness {} events ↔
      EveryStep step CreatedUnready {} events := by
  have preserved (station : Station) (event : Event) (next : Station)
      (distinct : DistinctAddresses station) (_ : TellsReadiness station)
      (isStep : step station event = some next) : DistinctAddresses next :=
    distinct.step (stepped_of_step distinct isStep)
  have exactly (station : Station) (event : Event) (next : Station)
      (distinct : DistinctAddresses station) (tells : TellsReadiness station)
      (isStep : step station event = some next) :
      TellsReadiness next ↔ CreatedUnready station event :=
    tellsReadiness_step_iff tells (stepped_of_step distinct isStep)
  have distinctAtStart : DistinctAddresses {} := List.nodup_nil
  have tellsAtStart : TellsReadiness {} := by decide
  exact always_iff_everyStep preserved exactly distinctAtStart tellsAtStart

/-- A second Pod state is created while the first one is connected. -/
theorem stationReady_not_always_right :
    ¬ ∀ events, Always step TellsReadiness {} events := by
  intro always
  have created := always
    [.operation (.createPodState 1), .operation (.updateState 1 .connected),
      .operation (.createPodState 2)]
  exact absurd created (by decide +kernel)

end Readiness

end PodList

end CocktailMaker
