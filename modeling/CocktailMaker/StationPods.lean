import CocktailMaker.CreateDispenser
import CocktailMaker.PodMirror
import CocktailMaker.PodMonitor

/-!
# The Pods of the station

Discovery reports a Pod, `run_pod` runs it, and while it runs it is in the
`PodRegistry`, which is asked for dispensers and for the Pods to stop.  The
registry holds weak pointers; commands under way keep a Pod alive behind the
end of its task.  What the Pods report goes to the screen through their
`PodState`.  This file puts the three together and follows them over every
order of their steps.
-/

namespace CocktailMaker

namespace StationPods

open LabelledRun KeyedRows PodList PodMonitor CreateDispenser

/-- Where `run_pod` is for a Pod.  The `EntryGuard` lives while the task
runs. -/
inductive TaskStage
  | spawned
  | running
  | completed
  deriving DecidableEq

/-- A Pod that has not been destroyed.  `holders` counts the commands that have
locked a weak pointer to it. -/
structure StationPod where
  address : Address
  stage : TaskStage := .spawned
  pod : PodRun := {}
  holders : Nat := 0
  deriving DecidableEq

/-- The weak pointers of the registry, the Pods, and the screen with its
`PodState`s. -/
structure System where
  registry : List Address := []
  pods : List StationPod := []
  bridge : PodList.Station := {}

/-- Discovery reports a Pod; its task begins; its monitor takes a step; its run
has completed; a command locks or releases it; the event loop runs a closure. -/
inductive Event
  | discovered (address : Address)
  | begin (address : Address)
  | monitor (address : Address) (event : PodMonitor.Event)
  | completed (address : Address)
  | hold (address : Address)
  | release (address : Address)
  | runClosure

section Registry

/-- `register_pod`, which asserts that the Pod is not registered. -/
def registerPod (registry : List Address) (address : Address) :
    Option (List Address) :=
  if address ∈ registry then none else some (registry ++ [address])

def unregisterPod (registry : List Address) (address : Address) :
    List Address :=
  registry.filter fun other => other ≠ address

/-- `weak_ptr::lock` -/
def lock (pods : List StationPod) (address : Address) : Option StationPod :=
  find StationPod.address address pods

/-- `dispenser_of_pod` -/
def dispenserOfPod (pods : List StationPod) (podId : PodId)
    (dispenserId : DispenserId) :
    List Address → Except DispenserNotFoundError PodDispenserImpl
  | [] => .error ⟨podId, dispenserId⟩
  | weakPod :: registry =>
      match lock pods weakPod with
      | some pod =>
          if pod.pod.info.id = podId then
            createDispenser pod.pod.info dispenserId
          else dispenserOfPod pods podId dispenserId registry
      | none => dispenserOfPod pods podId dispenserId registry

/-- The Pods that `force_safe_state_all_pods` commands. -/
def lockedPods (system : System) : List StationPod :=
  system.registry.filterMap (lock system.pods)

end Registry

section Steps

instance (pod : PodRun) : Decidable pod.Completed :=
  match isPhase : pod.phase with
  | .finished ending =>
      decidable_of_iff (pod.sessionRunning = false)
        ⟨fun ended => ⟨ended, ending, isPhase⟩, fun completed => completed.1⟩
  | .notBegun | .acquiring _ | .waitingReady | .pinging _ | .pausing =>
      isFalse fun completed => by simp [PodRun.Completed, isPhase] at completed

/-- What a call of the `PodState` at the address does. -/
def operationOf (address : Address) : PodStateCall → Operation
  | .updateState state => .updateState address state
  | .updateInfo info => .updateInfo address info

/-- The operations are performed one after the other. -/
def tell (bridge : PodList.Station) (operations : List Operation) :
    Option PodList.Station :=
  run PodList.step bridge (operations.map PodList.Event.operation)

/-- The Pod is destroyed with the last pointer to it, and its `PodState` with
it. -/
def settle (system : System) (pod : StationPod) : Option System :=
  if pod.stage = .completed ∧ pod.holders = 0 then
    (tell system.bridge [.destroy pod.address]).map fun bridge =>
      { system with
        pods := system.pods.filter fun other => other.address ≠ pod.address
        bridge }
  else
    some { system with pods := replace StationPod.address pod system.pods }

def step (system : System) : Event → Option System
  | .discovered address =>
      if address ∈ system.pods.map StationPod.address then none
      else
        (tell system.bridge [.createPodState address]).map fun bridge =>
          { system with pods := system.pods ++ [{ address }], bridge }
  | .begin address => do
      let pod ← lock system.pods address
      guard (pod.stage = .spawned)
      let registry ← registerPod system.registry address
      settle { system with registry } { pod with stage := .running }
  | .monitor address event => do
      let pod ← lock system.pods address
      guard (pod.stage = .running)
      let (next, calls) ← pod.pod.step event
      let bridge ← tell system.bridge (calls.map (operationOf address))
      settle { system with bridge } { pod with pod := next }
  | .completed address => do
      let pod ← lock system.pods address
      guard (pod.stage = .running ∧ pod.pod.Completed)
      let registry := unregisterPod system.registry address
      settle { system with registry } { pod with stage := .completed }
  | .hold address => do
      let pod ← lock system.pods address
      settle system { pod with holders := pod.holders + 1 }
  | .release address => do
      let pod ← lock system.pods address
      guard (0 < pod.holders)
      settle system { pod with holders := pod.holders - 1 }
  | .runClosure =>
      (PodList.step system.bridge .runClosure).map fun bridge =>
        { system with bridge }

/-- How a step changes one Pod: it stays, or it is destroyed. -/
inductive Settled (system : System) (before after : List StationPod)
    (pod : StationPod) : System → Prop
  | stays (alive : pod.stage = .completed → 0 < pod.holders) :
      Settled system before after pod
        { system with pods := before ++ pod :: after }
  | destroyed {bridge : PodList.Station} (completed : pod.stage = .completed)
      (told : tell system.bridge [.destroy pod.address] = some bridge) :
      Settled system before after pod
        { system with pods := before ++ after, bridge }

/-- What a step does. -/
inductive Stepped (system : System) : Event → System → Prop
  | discovered {bridge : PodList.Station} (address : Address)
      (fresh : address ∉ system.pods.map StationPod.address)
      (told : tell system.bridge [.createPodState address] = some bridge) :
      Stepped system (.discovered address)
        { system with pods := system.pods ++ [{ address }], bridge }
  | begun {next : System} {before after : List StationPod} {pod : StationPod}
      {registry : List Address} (split : system.pods = before ++ pod :: after)
      (spawned : pod.stage = .spawned)
      (registered : registerPod system.registry pod.address = some registry)
      (settled : Settled { system with registry } before after
        { pod with stage := .running } next) :
      Stepped system (.begin pod.address) next
  | monitored {next : System} {before after : List StationPod}
      {pod : StationPod} {event : PodMonitor.Event} {podNext : PodRun}
      {calls : List PodStateCall} {bridge : PodList.Station}
      (split : system.pods = before ++ pod :: after)
      (running : pod.stage = .running)
      (stepped : pod.pod.step event = some (podNext, calls))
      (told : tell system.bridge (calls.map (operationOf pod.address)) =
        some bridge)
      (settled : Settled { system with bridge } before after
        { pod with pod := podNext } next) :
      Stepped system (.monitor pod.address event) next
  | ended {next : System} {before after : List StationPod} {pod : StationPod}
      (split : system.pods = before ++ pod :: after)
      (running : pod.stage = .running) (completed : pod.pod.Completed)
      (settled : Settled { system with
          registry := unregisterPod system.registry pod.address }
        before after { pod with stage := .completed } next) :
      Stepped system (.completed pod.address) next
  | held {next : System} {before after : List StationPod} {pod : StationPod}
      (split : system.pods = before ++ pod :: after)
      (settled : Settled system before after
        { pod with holders := pod.holders + 1 } next) :
      Stepped system (.hold pod.address) next
  | released {next : System} {before after : List StationPod}
      {pod : StationPod} (split : system.pods = before ++ pod :: after)
      (isHeld : 0 < pod.holders)
      (settled : Settled system before after
        { pod with holders := pod.holders - 1 } next) :
      Stepped system (.release pod.address) next
  | closureRun {bridge : PodList.Station}
      (ran : PodList.step system.bridge .runClosure = some bridge) :
      Stepped system .runClosure { system with bridge }

variable {system next : System}

theorem settled_of_settle {before after : List StationPod}
    {pod replacement : StationPod}
    (split : system.pods = before ++ pod :: after)
    (distinct : (system.pods.map StationPod.address).Nodup)
    (sameAddress : replacement.address = pod.address)
    (isSettled : settle system replacement = some next) :
    Settled system before after replacement next := by
  rw [split] at distinct
  unfold settle at isSettled
  split at isSettled
  case isTrue last =>
    obtain ⟨bridge, told, rfl⟩ := Option.map_eq_some_iff.mp isSettled
    simp only [sameAddress, split, filter_key_ne distinct]
    exact .destroyed last.1 told
  case isFalse alive =>
    obtain rfl := Option.some.inj isSettled
    rw [split, replace_split distinct sameAddress]
    refine .stays fun completed => Nat.pos_of_ne_zero fun unheld => ?_
    exact alive ⟨completed, unheld⟩

theorem exists_split_of_lock {address : Address} {pods : List StationPod}
    {pod : StationPod} (locked : lock pods address = some pod) :
    pod.address = address ∧ ∃ before after, pods = before ++ pod :: after :=
  exists_split_of_find locked

theorem stepped_of_step
    (distinct : (system.pods.map StationPod.address).Nodup) {event : Event}
    (isStep : step system event = some next) : Stepped system event next := by
  cases event with
  | discovered address =>
      simp only [step] at isStep
      split at isStep
      case isTrue taken => cases isStep
      case isFalse fresh =>
        obtain ⟨bridge, told, rfl⟩ := Option.map_eq_some_iff.mp isStep
        exact .discovered address fresh told
  | begin address =>
      simp only [step, Option.bind_eq_bind, Option.bind_eq_some_iff] at isStep
      obtain ⟨pod, locked, ⟨⟩, guarded, registry, registered, settled⟩ := isStep
      obtain ⟨rfl, before, after, split⟩ := exists_split_of_lock locked
      have spawned : pod.stage = .spawned := by simpa using guarded
      exact .begun split spawned registered
        (settled_of_settle split distinct rfl settled)
  | monitor address event =>
      simp only [step, Option.bind_eq_bind, Option.bind_eq_some_iff] at isStep
      obtain ⟨pod, locked, ⟨⟩, guarded, ⟨podNext, calls⟩, stepped, bridge, told,
        settled⟩ := isStep
      obtain ⟨rfl, before, after, split⟩ := exists_split_of_lock locked
      have running : pod.stage = .running := by simpa using guarded
      exact .monitored split running stepped told
        (settled_of_settle split distinct rfl settled)
  | completed address =>
      simp only [step, Option.bind_eq_bind, Option.bind_eq_some_iff] at isStep
      obtain ⟨pod, locked, ⟨⟩, guarded, settled⟩ := isStep
      obtain ⟨rfl, before, after, split⟩ := exists_split_of_lock locked
      have ends : pod.stage = .running ∧ pod.pod.Completed := by
        simpa using guarded
      exact .ended split ends.1 ends.2
        (settled_of_settle split distinct rfl settled)
  | hold address =>
      simp only [step, Option.bind_eq_bind, Option.bind_eq_some_iff] at isStep
      obtain ⟨pod, locked, settled⟩ := isStep
      obtain ⟨rfl, before, after, split⟩ := exists_split_of_lock locked
      exact .held split (settled_of_settle split distinct rfl settled)
  | release address =>
      simp only [step, Option.bind_eq_bind, Option.bind_eq_some_iff] at isStep
      obtain ⟨pod, locked, ⟨⟩, guarded, settled⟩ := isStep
      obtain ⟨rfl, before, after, split⟩ := exists_split_of_lock locked
      have isHeld : 0 < pod.holders := by simpa using guarded
      exact .released split isHeld
        (settled_of_settle split distinct rfl settled)
  | runClosure =>
      obtain ⟨bridge, ran, rfl⟩ := Option.map_eq_some_iff.mp isStep
      exact .closureRun ran

end Steps

section Calls

/-- What the calls of a `PodState` leave in its data. -/
def applyCall (data : PodStateData) : PodStateCall → PodStateData
  | .updateState state => { data with connectionState := state.toGui }
  | .updateInfo info => { data with info }

/-- What a Pod shows in a phase of its monitor. -/
def connection : PodMonitor.Phase → ConnectionState
  | .notBegun | .finished _ => .disconnected
  | .acquiring _ => .connecting
  | .waitingReady | .pinging _ | .pausing => .connected

def dataOf (pod : PodRun) : PodStateData := ⟨pod.info, connection pod.phase⟩

/-- The `PodStateImpl` that a Pod reports to. -/
def StationPod.state (pod : StationPod) : LivePod :=
  ⟨pod.address, dataOf pod.pod⟩

theorem connection_of_request {phase : PodMonitor.Phase}
    {request : RetriedRequest} {retry : Nat}
    (isRequest : phase.request = some (request, retry)) :
    connection phase.again = connection phase := by
  obtain ⟨rfl, -⟩ | ⟨rfl, -⟩ :=
    PodMonitor.Phase.request_eq_some isRequest <;> rfl

/-- The data of the `PodState` follow the monitor. -/
theorem foldl_applyCall {pod next : PodRun} {event : PodMonitor.Event}
    {calls : List PodStateCall}
    (stepped : PodMonitor.Stepped pod event next calls) :
    calls.foldl applyCall (dataOf pod) = dataOf next := by
  cases stepped with
  | begun phase => rfl
  | acquired message info phase answers => rfl
  | ponged phase => rw [dataOf, dataOf, phase]; rfl
  | unexpected message phase differs => rfl
  | retried phase left =>
      rw [dataOf, dataOf, connection_of_request phase]
      rfl
  | gaveUp phase exhausted => rfl
  | closed phase ended => rfl
  | passed phase ready => rw [dataOf, dataOf, phase]; rfl
  | paused phase => rw [dataOf, dataOf, phase]; rfl
  | stopped phase requested => rfl
  | sessionEnded running => rfl
  | stopRequested => rfl

/-- A monitor reports nothing, a state, or the device info that it has waited
for. -/
theorem calls_cases {pod next : PodRun} {event : PodMonitor.Event}
    {calls : List PodStateCall}
    (stepped : PodMonitor.Stepped pod event next calls) :
    (next.info = pod.info ∧
        (calls = [] ∨ ∃ state, calls = [.updateState state])) ∨
      (pod.phase.Undiscovered ∧
        calls = [.updateInfo next.info, .updateState .connected]) := by
  cases stepped with
  | begun phase => exact .inl ⟨rfl, .inr ⟨_, rfl⟩⟩
  | acquired message info phase answers =>
      exact .inr ⟨by rw [phase]; trivial, rfl⟩
  | ponged phase => exact .inl ⟨rfl, .inl rfl⟩
  | unexpected message phase differs => exact .inl ⟨rfl, .inr ⟨_, rfl⟩⟩
  | retried phase left => exact .inl ⟨rfl, .inl rfl⟩
  | gaveUp phase exhausted => exact .inl ⟨rfl, .inr ⟨_, rfl⟩⟩
  | closed phase ended => exact .inl ⟨rfl, .inr ⟨_, rfl⟩⟩
  | passed phase ready => exact .inl ⟨rfl, .inl rfl⟩
  | paused phase => exact .inl ⟨rfl, .inl rfl⟩
  | stopped phase requested => exact .inl ⟨rfl, .inr ⟨_, rfl⟩⟩
  | sessionEnded running => exact .inl ⟨rfl, .inl rfl⟩
  | stopRequested => exact .inl ⟨rfl, .inl rfl⟩

section Bridge

variable {bridge next : PodList.Station} {before after : List LivePod}
  {pod : LivePod}
  (split : bridge.pods = before ++ pod :: after)
  (distinct : DistinctAddresses bridge)

include split distinct

theorem findPod_eq : findPod pod.address bridge.pods = some pod :=
  find_of_mem distinct (by simp [split])

theorem assign_eq (data : PodStateData) :
    assign pod.address data bridge.pods =
      before ++ { pod with data } :: after := by
  have replaced : assign pod.address data bridge.pods =
      replace LivePod.address { pod with data } bridge.pods := by
    refine List.map_congr_left fun other member => ?_
    by_cases same : other.address = pod.address
    · rw [if_pos same, if_pos same, ← same]
    · rw [if_neg same, if_neg same]
  rw [DistinctAddresses, split] at distinct
  rw [replaced, split]
  exact replace_split distinct rfl

theorem exists_step_call (call : PodStateCall) :
    ∃ next, PodList.step bridge
        (.operation (operationOf pod.address call)) = some next ∧
      next.pods = before ++ { pod with data := applyCall pod.data call } ::
        after := by
  have found := findPod_eq split distinct
  cases call with
  | updateState state =>
      simp only [PodList.step, operationOf, Operation.perform, found,
        Option.map_some, Option.some.injEq, exists_eq_left']
      exact assign_eq split distinct _
  | updateInfo info =>
      simp only [PodList.step, operationOf, Operation.perform, found,
        Option.map_some, Option.some.injEq, exists_eq_left']
      exact assign_eq split distinct _

omit distinct in
theorem distinct_replaced {replacement : LivePod}
    (pods : next.pods = before ++ replacement :: after)
    (sameAddress : replacement.address = pod.address)
    (distinct : DistinctAddresses bridge) : DistinctAddresses next := by
  unfold DistinctAddresses at *
  rw [split] at distinct
  rw [pods]
  simpa [sameAddress] using distinct

end Bridge

theorem exists_tell_calls (calls : List PodStateCall)
    {bridge : PodList.Station} {before after : List LivePod} {pod : LivePod}
    (split : bridge.pods = before ++ pod :: after)
    (distinct : DistinctAddresses bridge) :
    ∃ next, tell bridge (calls.map (operationOf pod.address)) = some next ∧
      next.pods = before ++
        { pod with data := calls.foldl applyCall pod.data } :: after := by
  induction calls generalizing bridge pod with
  | nil => exact ⟨bridge, rfl, split⟩
  | cons call calls ih =>
      obtain ⟨middle, stepped, pods⟩ := exists_step_call split distinct call
      have distinctMiddle : DistinctAddresses middle :=
        distinct_replaced split pods rfl distinct
      obtain ⟨next, told, nextPods⟩ := ih pods distinctMiddle
      exact ⟨next, run_cons_eq_some.mpr ⟨middle, stepped, told⟩, nextPods⟩

theorem tell_created {bridge next : PodList.Station} {address : Address}
    (told : tell bridge [.createPodState address] = some next) :
    next.pods = bridge.pods ++ [{ address := address }] := by
  obtain ⟨middle, stepped, ended⟩ := run_cons_eq_some.mp told
  obtain rfl := Option.some.inj ended
  obtain ⟨⟨pods, closures⟩, performed, rfl⟩ := Option.map_eq_some_iff.mp stepped
  obtain ⟨-, created⟩ := Option.ite_none_left_eq_some.mp performed
  cases created
  rfl

theorem tell_destroyed {bridge next : PodList.Station}
    {before after : List LivePod} {pod : LivePod}
    (split : bridge.pods = before ++ pod :: after)
    (distinct : DistinctAddresses bridge)
    (told : tell bridge [.destroy pod.address] = some next) :
    next.pods = before ++ after := by
  obtain ⟨middle, stepped, ended⟩ := run_cons_eq_some.mp told
  obtain rfl := Option.some.inj ended
  obtain ⟨⟨pods, closures⟩, performed, rfl⟩ := Option.map_eq_some_iff.mp stepped
  simp only [Operation.perform, findPod_eq split distinct, Option.map_some,
    Option.some.injEq] at performed
  cases performed
  rw [DistinctAddresses, split] at distinct
  exact split ▸ filter_key_ne distinct

end Calls

section Invariant

/-- The invariant of one Pod. -/
structure PodConsistent (pod : StationPod) : Prop where
  monitored : ∃ calls, PodMonitor.Consistent pod.pod calls
  spawned : pod.stage = .spawned → pod.pod = {}
  completed : pod.stage = .completed → pod.pod.Completed

/-- The invariant of the Pods: the screen has their `PodState`s, and the
registry has those whose task runs. -/
structure Consistent (system : System) : Prop where
  distinct : (system.pods.map StationPod.address).Nodup
  mirrored : system.bridge.pods = system.pods.map StationPod.state
  pods : ∀ pod ∈ system.pods, PodConsistent pod
  held : ∀ pod ∈ system.pods, pod.stage = .completed → 0 < pod.holders
  once : system.registry.Nodup
  alive : ∀ address ∈ system.registry,
    address ∈ system.pods.map StationPod.address
  registered : ∀ pod ∈ system.pods,
    (pod.address ∈ system.registry ↔ pod.stage = .running)

theorem consistent_initial : Consistent {} where
  distinct := List.nodup_nil
  mirrored := rfl
  pods _ member := absurd member List.not_mem_nil
  held _ member := absurd member List.not_mem_nil
  once := List.nodup_nil
  alive _ member := absurd member List.not_mem_nil
  registered _ member := absurd member List.not_mem_nil

variable {system next : System}

theorem Consistent.distinctAddresses (consistent : Consistent system) :
    DistinctAddresses system.bridge := by
  rw [DistinctAddresses, consistent.mirrored, List.map_map]
  exact consistent.distinct

/-- A change of one Pod, with what the registry and the screen make of it. -/
structure Changed (system changed : System) (before after : List StationPod)
    (pod replacement : StationPod) : Prop where
  split : system.pods = before ++ pod :: after
  sameAddress : replacement.address = pod.address
  mirrored : changed.bridge.pods =
    (before ++ replacement :: after).map StationPod.state
  consistent : PodConsistent replacement
  once : changed.registry.Nodup
  others : ∀ address, address ≠ pod.address →
    (address ∈ changed.registry ↔ address ∈ system.registry)
  registered : pod.address ∈ changed.registry ↔ replacement.stage = .running

theorem Changed.distinctAddresses {changed : System}
    {before after : List StationPod} {pod replacement : StationPod}
    (change : Changed system changed before after pod replacement)
    (distinct : (system.pods.map StationPod.address).Nodup) :
    DistinctAddresses changed.bridge := by
  have sameAddresses : (before ++ replacement :: after).map
      (LivePod.address ∘ StationPod.state) =
      (before ++ pod :: after).map StationPod.address := by
    simp [StationPod.state, change.sameAddress, Function.comp_def]
  rw [DistinctAddresses, change.mirrored, List.map_map, sameAddresses,
    ← change.split]
  exact distinct

theorem Consistent.settled {changed : System} {before after : List StationPod}
    {pod replacement : StationPod} (consistent : Consistent system)
    (change : Changed system changed before after pod replacement)
    (settled : Settled changed before after replacement next) :
    Consistent next := by
  have distinct := consistent.distinct
  rw [change.split] at distinct
  have others (other : StationPod) (member : other ∈ before ++ after) :
      other ∈ system.pods ∧ other.address ≠ pod.address := by
    refine ⟨?_, key_ne_of_mem_others distinct member⟩
    rw [change.split]
    simp only [List.mem_append, List.mem_cons] at member ⊢
    tauto
  have registered (other : StationPod) (member : other ∈ before ++ after) :
      other.address ∈ changed.registry ↔ other.stage = .running := by
    obtain ⟨inPods, differs⟩ := others other member
    rw [change.others other.address differs]
    exact consistent.registered other inPods
  cases settled with
  | stays holds =>
      have mem_cases {other : StationPod}
          (member : other ∈ before ++ replacement :: after) :
          other = replacement ∨ other ∈ before ++ after := by
        simp only [List.mem_append, List.mem_cons] at member ⊢
        tauto
      constructor
      case distinct => simpa [change.sameAddress] using distinct
      case mirrored => exact change.mirrored
      case pods =>
        intro other member
        obtain rfl | isOther := mem_cases member
        · exact change.consistent
        · exact consistent.pods other (others other isOther).1
      case held =>
        intro other member
        obtain rfl | isOther := mem_cases member
        · exact holds
        · exact consistent.held other (others other isOther).1
      case once => exact change.once
      case alive =>
        intro address isRegistered
        by_cases same : address = pod.address
        · simp [same, change.sameAddress]
        · have inPods :=
            consistent.alive address ((change.others address same).mp isRegistered)
          simpa [change.split, same, change.sameAddress] using inPods
      case registered =>
        intro other member
        obtain rfl | isOther := mem_cases member
        · rw [change.sameAddress]
          exact change.registered
        · exact registered other isOther
  | destroyed completed told =>
      have mirrored := change.mirrored
      rw [List.map_append, List.map_cons] at mirrored
      constructor
      case distinct => exact distinct_others distinct
      case mirrored =>
        rw [List.map_append]
        exact tell_destroyed mirrored
          (change.distinctAddresses consistent.distinct) told
      case pods =>
        exact fun other member => consistent.pods other (others other member).1
      case held =>
        exact fun other member => consistent.held other (others other member).1
      case once => exact change.once
      case alive =>
        intro address isRegistered
        have differs : address ≠ pod.address := by
          rintro rfl
          have running := change.registered.mp isRegistered
          rw [completed] at running
          cases running
        have inPods := consistent.alive address
          ((change.others address differs).mp isRegistered)
        simpa [change.split, differs] using inPods
      case registered => exact registered

theorem registerPod_eq_some {registry registered : List Address}
    {address : Address} :
    registerPod registry address = some registered ↔
      address ∉ registry ∧ registered = registry ++ [address] := by
  rw [registerPod, Option.ite_none_left_eq_some, Option.some.injEq,
    eq_comm]

/-- A Pod keeps its `PodState` unless its monitor takes a step. -/
theorem mirrored_of_same {before after : List StationPod}
    {pod replacement : StationPod} (consistent : Consistent system)
    (split : system.pods = before ++ pod :: after)
    (same : replacement.state = pod.state) :
    system.bridge.pods =
      (before ++ replacement :: after).map StationPod.state := by
  rw [consistent.mirrored, split]
  simp [same]

theorem Consistent.changed_unregistered {before after : List StationPod}
    {pod replacement : StationPod} {bridge : PodList.Station}
    (consistent : Consistent system)
    (split : system.pods = before ++ pod :: after)
    (sameAddress : replacement.address = pod.address)
    (sameStage : replacement.stage = pod.stage)
    (mirrored : bridge.pods =
      (before ++ replacement :: after).map StationPod.state)
    (podConsistent : PodConsistent replacement) :
    Changed system { system with bridge } before after pod replacement where
  split := split
  sameAddress := sameAddress
  mirrored := mirrored
  consistent := podConsistent
  once := consistent.once
  others _ _ := Iff.rfl
  registered := by
    rw [sameStage]
    exact consistent.registered pod (by simp [split])

theorem Consistent.changed_registry {before after : List StationPod}
    {pod : StationPod} {registry : List Address} {stage : TaskStage}
    (consistent : Consistent system)
    (split : system.pods = before ++ pod :: after)
    (podConsistent : PodConsistent { pod with stage })
    (once : registry.Nodup)
    (others : ∀ address, address ≠ pod.address →
      (address ∈ registry ↔ address ∈ system.registry))
    (registered : pod.address ∈ registry ↔ stage = .running) :
    Changed system { system with registry } before after pod
      { pod with stage } where
  split := split
  sameAddress := rfl
  mirrored := by
    have same : ({ pod with stage } : StationPod).state = pod.state := rfl
    have mirrored := mirrored_of_same consistent split same
    exact mirrored
  consistent := podConsistent
  once := once
  others := others
  registered := registered

/-- The screen hears of a step through the monitor of a running Pod only. -/
def Reports (system changed : System) (pod replacement : StationPod) : Prop :=
  (changed.bridge = system.bridge ∧ replacement.pod = pod.pod) ∨
    (replacement.stage = .running ∧
      ∃ event calls,
        PodMonitor.Stepped pod.pod event replacement.pod calls ∧
          tell system.bridge (calls.map (operationOf pod.address)) =
            some changed.bridge)

/-- A step adds a Pod, changes one, or runs a closure. -/
inductive Effect (system : System) : System → Prop
  | discovered {bridge : PodList.Station} (address : Address)
      (fresh : address ∉ system.pods.map StationPod.address)
      (told : tell system.bridge [.createPodState address] = some bridge) :
      Effect system
        { system with
          pods := system.pods ++ [{ address := address }], bridge }
  | changed {changed next : System} {before after : List StationPod}
      {pod replacement : StationPod}
      (change : Changed system changed before after pod replacement)
      (reports : Reports system changed pod replacement)
      (settled : Settled changed before after replacement next) :
      Effect system next
  | closureRun {bridge : PodList.Station}
      (ran : PodList.step system.bridge .runClosure = some bridge) :
      Effect system { system with bridge }

theorem Consistent.effect {event : Event} (consistent : Consistent system)
    (stepped : Stepped system event next) : Effect system next := by
  cases stepped with
  | discovered address fresh told => exact .discovered address fresh told
  | closureRun ran => exact .closureRun ran
  | @begun _ before after pod registry split spawned registered settled =>
      obtain ⟨absent, rfl⟩ := registerPod_eq_some.mp registered
      have member : pod ∈ system.pods := by simp [split]
      have podConsistent := consistent.pods pod member
      have change : Changed system
          { system with registry := system.registry ++ [pod.address] } before
          after pod { pod with stage := .running } := by
        refine consistent.changed_registry split ?_ ?_ ?_ ?_
        · exact ⟨podConsistent.monitored, nofun, nofun⟩
        · rw [List.nodup_append]
          refine ⟨consistent.once, by simp, fun taken isTaken new isNew => ?_⟩
          rintro rfl
          obtain rfl : taken = pod.address := by simpa using isNew
          exact absent isTaken
        · exact fun address differs => by simp [differs]
        · simp
      exact .changed change (.inl ⟨rfl, rfl⟩) settled
  | @monitored _ before after pod event podNext calls bridge split running
      podStepped told settled =>
      have member : pod ∈ system.pods := by simp [split]
      have monitorStepped := PodMonitor.stepped_of_step podStepped
      have podConsistent := consistent.pods pod member
      obtain ⟨earlier, monitored⟩ := podConsistent.monitored
      have mirrored := consistent.mirrored
      rw [split, List.map_append, List.map_cons] at mirrored
      obtain ⟨bridgeNext, toldAgain, pods⟩ :=
        exists_tell_calls calls mirrored consistent.distinctAddresses
      obtain rfl : bridgeNext = bridge :=
        Option.some.inj (toldAgain.symm.trans told)
      have change : Changed system { system with bridge := bridgeNext } before
          after pod { pod with pod := podNext } := by
        refine consistent.changed_unregistered split rfl rfl ?_ ?_
        · rw [pods, List.map_append, List.map_cons]
          have sameData : calls.foldl applyCall pod.state.data =
              dataOf podNext := foldl_applyCall monitorStepped
          rw [sameData]
          rfl
        · refine ⟨⟨_, monitored.step monitorStepped⟩, ?_, ?_⟩
          · intro spawned
            cases running.symm.trans spawned
          · intro completed
            cases running.symm.trans completed
      exact .changed change
        (.inr ⟨running, event, calls, monitorStepped, told⟩) settled
  | @ended _ before after pod split running completed settled =>
      have member : pod ∈ system.pods := by simp [split]
      have podConsistent := consistent.pods pod member
      have change : Changed system
          { system with
            registry := unregisterPod system.registry pod.address } before after
          pod { pod with stage := .completed } := by
        refine consistent.changed_registry split ?_ ?_ ?_ ?_
        · exact ⟨podConsistent.monitored, nofun, fun _ => completed⟩
        · exact consistent.once.filter _
        · exact fun address differs => by simp [unregisterPod, differs]
        · simp [unregisterPod]
      exact .changed change (.inl ⟨rfl, rfl⟩) settled
  | @held _ before after pod split settled =>
      have member : pod ∈ system.pods := by simp [split]
      obtain ⟨monitored, spawned, completed⟩ := consistent.pods pod member
      have change : Changed system system before after pod
          { pod with holders := pod.holders + 1 } :=
        consistent.changed_unregistered split rfl rfl
          (mirrored_of_same consistent split rfl) ⟨monitored, spawned, completed⟩
      exact .changed change (.inl ⟨rfl, rfl⟩) settled
  | @released _ before after pod split isHeld settled =>
      have member : pod ∈ system.pods := by simp [split]
      obtain ⟨monitored, spawned, completed⟩ := consistent.pods pod member
      have change : Changed system system before after pod
          { pod with holders := pod.holders - 1 } :=
        consistent.changed_unregistered split rfl rfl
          (mirrored_of_same consistent split rfl) ⟨monitored, spawned, completed⟩
      exact .changed change (.inl ⟨rfl, rfl⟩) settled

theorem Consistent.discovered {address : Address} {bridge : PodList.Station}
    (consistent : Consistent system)
    (fresh : address ∉ system.pods.map StationPod.address)
    (told : tell system.bridge [.createPodState address] = some bridge) :
    Consistent { system with
      pods := system.pods ++ [{ address := address }], bridge } := by
  have unregistered : address ∉ system.registry :=
    fun isRegistered => fresh (consistent.alive address isRegistered)
  have created : PodConsistent { address := address } :=
    ⟨⟨[], PodMonitor.consistent_initial⟩, fun _ => rfl, nofun⟩
  constructor
  case distinct =>
    rw [List.map_append, List.nodup_append]
    refine ⟨consistent.distinct, by simp, fun taken isTaken new isNew => ?_⟩
    rintro rfl
    obtain rfl : taken = address := by simpa using isNew
    exact fresh isTaken
  case mirrored =>
    rw [tell_created told, consistent.mirrored, List.map_append]
    rfl
  case pods =>
    exact List.forall_mem_append.mpr
      ⟨consistent.pods, List.forall_mem_singleton.mpr created⟩
  case held =>
    exact List.forall_mem_append.mpr
      ⟨consistent.held, List.forall_mem_singleton.mpr nofun⟩
  case once => exact consistent.once
  case alive =>
    intro other isRegistered
    rw [List.map_append]
    exact List.mem_append_left _ (consistent.alive other isRegistered)
  case registered =>
    exact List.forall_mem_append.mpr ⟨consistent.registered,
      List.forall_mem_singleton.mpr (iff_of_false unregistered nofun)⟩

theorem Consistent.step (consistent : Consistent system)
    (effect : Effect system next) : Consistent next := by
  cases effect with
  | discovered address fresh told => exact consistent.discovered fresh told
  | changed change reports settled => exact consistent.settled change settled
  | @closureRun bridge ran =>
      have samePods : bridge.pods = system.bridge.pods := by
        cases PodList.stepped_of_step consistent.distinctAddresses ran
        assumption
      exact { consistent with
        mirrored := samePods.trans consistent.mirrored }

theorem consistent_of_run {events : List Event}
    (ran : run step {} events = some system) : Consistent system :=
  invariant_of_run Consistent
    (fun _ _ _ consistent isStep =>
      consistent.step
        (consistent.effect (stepped_of_step consistent.distinct isStep)))
    consistent_initial ran

end Invariant

section Registered

variable {system : System}

/-- The registry has the Pods whose tasks run, and no task finds its Pod
registered when it begins. -/
structure RegistersRunning (system : System) : Prop where
  assertion : ∀ pod ∈ system.pods, pod.stage = .spawned →
    ∃ registry, registerPod system.registry pod.address = some registry
  locked : (lockedPods system).map StationPod.address = system.registry
  once : system.registry.Nodup
  running : ∀ pod, pod ∈ lockedPods system ↔
    pod ∈ system.pods ∧ pod.stage = .running

theorem Consistent.lock_of_mem (consistent : Consistent system)
    {pod : StationPod} (member : pod ∈ system.pods) :
    lock system.pods pod.address = some pod :=
  find_of_mem consistent.distinct member

theorem Consistent.mem_lockedPods (consistent : Consistent system)
    (pod : StationPod) :
    pod ∈ lockedPods system ↔ pod ∈ system.pods ∧ pod.stage = .running := by
  rw [lockedPods, List.mem_filterMap]
  constructor
  · rintro ⟨address, isRegistered, locked⟩
    obtain ⟨rfl, before, after, split⟩ := exists_split_of_lock locked
    have member : pod ∈ system.pods := by simp [split]
    exact ⟨member, (consistent.registered pod member).mp isRegistered⟩
  · rintro ⟨member, running⟩
    exact ⟨pod.address, (consistent.registered pod member).mpr running,
      consistent.lock_of_mem member⟩

theorem Consistent.map_lockedPods (consistent : Consistent system) :
    (lockedPods system).map StationPod.address = system.registry := by
  have alive := consistent.alive
  rw [lockedPods]
  generalize system.registry = registry at alive
  induction registry with
  | nil => rfl
  | cons address registry ih =>
      obtain ⟨isAlive, restAlive⟩ := List.forall_mem_cons.mp alive
      obtain ⟨pod, member, rfl⟩ := List.mem_map.mp isAlive
      rw [List.filterMap_cons, consistent.lock_of_mem member, List.map_cons,
        ih restAlive]

theorem Consistent.registersRunning (consistent : Consistent system) :
    RegistersRunning system where
  assertion pod member spawned := by
    refine ⟨_, registerPod_eq_some.mpr ⟨fun isRegistered => ?_, rfl⟩⟩
    have running := (consistent.registered pod member).mp isRegistered
    cases spawned.symm.trans running
  locked := consistent.map_lockedPods
  once := consistent.once
  running := consistent.mem_lockedPods

/-- The screen takes whatever a running Pod reports. -/
theorem exists_monitor (consistent : Consistent system)
    {pod : StationPod} (member : pod ∈ system.pods)
    (running : pod.stage = .running) {event : PodMonitor.Event}
    {next : PodRun} {calls : List PodStateCall}
    (stepped : pod.pod.step event = some (next, calls)) :
    ∃ after, step system (.monitor pod.address event) = some after := by
  obtain ⟨before, after, split⟩ := List.append_of_mem member
  have mirrored := consistent.mirrored
  rw [split, List.map_append, List.map_cons] at mirrored
  obtain ⟨bridge, told, -⟩ :=
    exists_tell_calls calls mirrored consistent.distinctAddresses
  have told : tell system.bridge (calls.map (operationOf pod.address)) =
      some bridge := told
  simp [step, consistent.lock_of_mem member, running, stepped, told, settle]

/-- In every order of steps, `register_pod` never meets a Pod that is
registered, every weak pointer of the registry can be locked, the Pods that
`force_safe_state_all_pods` commands are those whose tasks run, each of them
once, and no step of a running Pod is lost on its `PodState`. -/
theorem registry_registers_running {events : List Event}
    (ran : run step {} events = some system) :
    RegistersRunning system ∧
      ∀ pod ∈ system.pods, pod.stage = .running →
        ∀ event, (pod.pod.step event).isSome = true →
          ∃ after, step system (.monitor pod.address event) = some after := by
  have consistent := consistent_of_run ran
  refine ⟨consistent.registersRunning, fun pod member running event steps => ?_⟩
  obtain ⟨⟨next, calls⟩, stepped⟩ := Option.isSome_iff_exists.mp steps
  exact exists_monitor consistent member running stepped

/-- A Pod that is over is kept by a command, while the next one begins. -/
theorem registry_registers_running_held :
    ∃ system, RegistersRunning system ∧ system.registry = [2] ∧
      system.pods.map StationPod.address = [1, 2] := by
  have ran : (run step {} [.discovered 1, .begin 1, .hold 1,
      .monitor 1 .begin, .discovered 2, .monitor 1 .sessionEnds,
      .monitor 1 .stopped, .completed 1, .begin 2]).isSome = true := by
    decide
  obtain ⟨system, ran⟩ := Option.isSome_iff_exists.mp ran
  have registry : (run step {} [.discovered 1, .begin 1, .hold 1,
      .monitor 1 .begin, .discovered 2, .monitor 1 .sessionEnds,
      .monitor 1 .stopped, .completed 1, .begin 2]).map
        (fun system => (system.registry,
          system.pods.map StationPod.address)) = some ([2], [1, 2]) := by
    decide
  rw [ran, Option.map_some, Option.some.injEq, Prod.mk.injEq] at registry
  exact ⟨system, (registry_registers_running ran).1, registry⟩

end Registered

section Screen

/-- No two Pods that have not been destroyed report the same id. -/
def DistinctIds (system : System) : Prop :=
  ∀ pod ∈ system.pods, ∀ other ∈ system.pods, pod.pod.info.id ≠ "" →
    other.pod.info.id = pod.pod.info.id → other.address = pod.address

instance : DecidablePred DistinctIds :=
  fun system => inferInstanceAs
    (Decidable (∀ pod ∈ system.pods, ∀ other ∈ system.pods, _))

/-- A state that shares its id with no other one can take on other data, when
it keeps its info or had none. -/
theorem renewable_of_alone {rows : List GuiPod} {others : List PodStateData}
    {pod renewed : PodStateData} (mirrors : Mirrors (pod :: others) rows)
    (known : renewed.info = pod.info ∨ pod.info.id = "")
    (alone : renewed.info.id ≠ "" →
      ∀ other ∈ others, other.info.id ≠ renewed.info.id) :
    Renewable rows others pod renewed where
  left differs row member sameId := by
    obtain same | unnamed := known
    · exact absurd (congrArg PodInfo.id same.symm) differs
    · exact absurd (sameId.trans unnamed)
        (mirrors.wellFormed.named row member)
  joined row member sameId := by
    have named := mirrors.wellFormed.named row member
    obtain ⟨shown, live, shows⟩ := mirrors.shown row member
    rcases List.mem_cons.mp live with rfl | isOther
    · obtain same | unnamed := known
      · exact .inr (.inl (same ▸ shows.dispensers))
      · exact absurd (shows.id.trans unnamed) named
    · exact absurd (shows.id.symm.trans sameId)
        (alone (sameId ▸ named) shown isOther)

section Calls

variable {bridge next : PodList.Station} {before after : List LivePod}
  {pod : LivePod}
  (split : bridge.pods = before ++ pod :: after)
  (distinct : DistinctAddresses bridge) (mirrors : MirrorsStates bridge)

include split distinct mirrors

theorem mirrors_call (call : PodStateCall)
    (known : (applyCall pod.data call).info = pod.data.info ∨
      pod.data.info.id = "")
    (alone : (applyCall pod.data call).info.id ≠ "" →
      ∀ other ∈ before ++ after,
        other.data.info.id ≠ (applyCall pod.data call).info.id)
    (stepped : PodList.step bridge
      (.operation (operationOf pod.address call)) = some next) :
    MirrorsStates next := by
  have renewable := renewable_of_alone
    (mirrors_of_mirrorsStates split mirrors) known fun named other isOther => by
      obtain ⟨live, member, rfl⟩ := List.mem_map.mp isOther
      exact alone named live member
  refine (mirrorsStates_step_iff distinct mirrors
    (PodList.stepped_of_step distinct stepped)).mpr ?_
  cases call with
  | updateState state =>
      refine (forall_at_address distinct split).mpr ?_
      rw [others_eq distinct split]
      exact renewable
  | updateInfo info =>
      refine (forall_at_address distinct split).mpr ?_
      rw [others_eq distinct split]
      exact renewable

theorem mirrors_destroyed
    (alone : pod.data.info.id ≠ "" →
      ∀ other ∈ before ++ after, other.data.info.id ≠ pod.data.info.id)
    (told : tell bridge [.destroy pod.address] = some next) :
    MirrorsStates next := by
  obtain ⟨middle, stepped, ended⟩ := run_cons_eq_some.mp told
  obtain rfl := Option.some.inj ended
  refine (mirrorsStates_step_iff distinct mirrors
    (PodList.stepped_of_step distinct stepped)).mpr ?_
  refine (forall_at_address distinct split).mpr fun named other isOther => ?_
  rw [others_eq distinct split] at isOther
  obtain ⟨live, member, rfl⟩ := List.mem_map.mp isOther
  exact alone named live member

end Calls

variable {system next : System}

theorem alone_of_distinctIds {before after : List StationPod}
    {pod : StationPod} (distinctIds : DistinctIds system)
    (distinct : (system.pods.map StationPod.address).Nodup)
    (split : system.pods = before ++ pod :: after)
    (named : (dataOf pod.pod).info.id ≠ "") :
    ∀ other ∈ before.map StationPod.state ++ after.map StationPod.state,
      other.data.info.id ≠ (dataOf pod.pod).info.id := by
  rw [← List.map_append]
  intro other isOther sameId
  obtain ⟨live, member, rfl⟩ := List.mem_map.mp isOther
  rw [split] at distinct
  have inPods : live ∈ system.pods := by
    rw [split]
    simp only [List.mem_append, List.mem_cons] at member ⊢
    tauto
  exact key_ne_of_mem_others distinct member
    (distinctIds pod (by simp [split]) live inPods named sameId)

/-- What a Pod reports in one step of its monitor is mirrored, when its id is
its own before and after the step. -/
theorem mirrors_tell {bridge next : PodList.Station}
    {before after : List LivePod} {pod : LivePod} {run podNext : PodRun}
    {event : PodMonitor.Event} {calls : List PodStateCall}
    (split : bridge.pods = before ++ pod :: after)
    (distinct : DistinctAddresses bridge) (mirrors : MirrorsStates bridge)
    (data : pod.data = dataOf run)
    (stepped : PodMonitor.Stepped run event podNext calls)
    (undiscovered : run.phase.Undiscovered → run.info = {})
    (alone : podNext.info.id ≠ "" →
      ∀ other ∈ before ++ after, other.data.info.id ≠ podNext.info.id)
    (told : tell bridge (calls.map (operationOf pod.address)) = some next) :
    MirrorsStates next := by
  obtain ⟨sameInfo, rfl | ⟨state, rfl⟩⟩ | ⟨isUndiscovered, rfl⟩ :=
    calls_cases stepped
  · obtain rfl := Option.some.inj told
    exact mirrors
  · obtain ⟨middle, isStep, ended⟩ := run_cons_eq_some.mp told
    obtain rfl := Option.some.inj ended
    have infoNow : pod.data.info = podNext.info := by rw [data, sameInfo]; rfl
    refine mirrors_call split distinct mirrors (.updateState state) (.inl rfl)
      ?_ isStep
    simp only [applyCall, infoNow]
    exact alone
  · obtain ⟨middle, firstStep, rest⟩ := run_cons_eq_some.mp told
    obtain ⟨last, secondStep, ended⟩ := run_cons_eq_some.mp rest
    obtain rfl := Option.some.inj ended
    have unnamed : pod.data.info.id = "" := by
      rw [data]
      exact congrArg PodInfo.id (undiscovered isUndiscovered)
    have mirrorsMiddle : MirrorsStates middle :=
      mirrors_call split distinct mirrors (.updateInfo podNext.info)
        (.inr unnamed) alone firstStep
    obtain ⟨again, sameStep, pods⟩ :=
      exists_step_call split distinct (.updateInfo podNext.info)
    obtain rfl : again = middle :=
      Option.some.inj (sameStep.symm.trans firstStep)
    have distinctMiddle : DistinctAddresses again :=
      distinct_replaced split pods rfl distinct
    exact mirrors_call pods distinctMiddle mirrorsMiddle
      (.updateState .connected) (.inl rfl) alone secondStep

/-- What a step adds to the screen is mirrored, when the ids are distinct
before and after it. -/
theorem mirrors_step (consistent : Consistent system)
    (mirrors : MirrorsStates system.bridge) (distinctIds : DistinctIds system)
    (distinctIdsNext : DistinctIds next) (effect : Effect system next) :
    MirrorsStates next.bridge := by
  have distinct := consistent.distinctAddresses
  cases effect with
  | discovered address fresh told =>
      obtain ⟨middle, stepped, ended⟩ := run_cons_eq_some.mp told
      obtain rfl := Option.some.inj ended
      exact (mirrorsStates_step_iff distinct mirrors
        (PodList.stepped_of_step distinct stepped)).mpr trivial
  | closureRun ran =>
      exact (mirrorsStates_step_iff distinct mirrors
        (PodList.stepped_of_step distinct ran)).mpr trivial
  | @changed changed next before after pod replacement change reports settled =>
      have member : pod ∈ system.pods := by simp [change.split]
      have mirrored := consistent.mirrored
      rw [change.split, List.map_append, List.map_cons] at mirrored
      obtain ⟨sameBridge, samePod⟩ | ⟨running, event, calls, stepped, told⟩ :=
        reports
      · rw [← sameBridge] at mirrors
        cases settled with
        | stays holds => exact mirrors
        | destroyed completed told =>
            have changedMirrored := change.mirrored
            rw [List.map_append, List.map_cons] at changedMirrored
            refine mirrors_destroyed changedMirrored
              (change.distinctAddresses consistent.distinct) mirrors ?_ told
            have sameData : replacement.state.data = dataOf pod.pod :=
              congrArg dataOf samePod
            rw [sameData]
            exact alone_of_distinctIds distinctIds consistent.distinct
              change.split
      · cases settled with
        | destroyed completed told => cases running.symm.trans completed
        | stays holds =>
            obtain ⟨earlier, monitored⟩ := (consistent.pods pod member).monitored
            have distinctNext := (consistent.settled change
              (.stays holds)).distinct
            have sameData : replacement.state.data = dataOf replacement.pod :=
              rfl
            exact mirrors_tell mirrored distinct mirrors rfl stepped
              monitored.undiscovered
              (alone_of_distinctIds distinctIdsNext distinctNext rfl) told

theorem mirrors_of_run {events : List Event}
    (unique : Always step DistinctIds {} events)
    (ran : run step {} events = some system) :
    MirrorsStates system.bridge := by
  have mirrorsAtStart : MirrorsStates {} :=
    ⟨⟨List.nodup_nil, nofun⟩, nofun, nofun⟩
  have preserved (state : System) (event : Event) (after : System)
      (holds : Consistent state ∧ MirrorsStates state.bridge)
      (before : DistinctIds state) (distinctAfter : DistinctIds after)
      (isStep : step state event = some after) :
      Consistent after ∧ MirrorsStates after.bridge := by
    obtain ⟨consistent, mirrors⟩ := holds
    have effect :=
      consistent.effect (stepped_of_step consistent.distinct isStep)
    exact ⟨consistent.step effect,
      mirrors_step consistent mirrors before distinctAfter effect⟩
  exact (invariant_of_always preserved unique
    ⟨consistent_initial, mirrorsAtStart⟩ ran).2

/-- The registry answers for the only running Pod with the id. -/
theorem dispenserOfPod_eq {pods : List StationPod} {pod : StationPod}
    (dispenserId : DispenserId) {registry : List Address}
    (locked : lock pods pod.address = some pod)
    (isRegistered : pod.address ∈ registry)
    (only : ∀ address ∈ registry, ∀ other, lock pods address = some other →
      other.pod.info.id = pod.pod.info.id → other = pod) :
    dispenserOfPod pods pod.pod.info.id dispenserId registry =
      createDispenser pod.pod.info dispenserId := by
  induction registry with
  | nil => exact absurd isRegistered List.not_mem_nil
  | cons address registry ih =>
      obtain ⟨onlyHere, onlyLater⟩ := List.forall_mem_cons.mp only
      unfold dispenserOfPod
      split
      case h_1 other otherLocked =>
        by_cases sameId : other.pod.info.id = pod.pod.info.id
        · rw [if_pos sameId, onlyHere other otherLocked sameId]
        · rw [if_neg sameId]
          refine ih ?_ onlyLater
          refine (List.mem_cons.mp isRegistered).resolve_left ?_
          rintro rfl
          rw [locked, Option.some.injEq] at otherLocked
          exact sameId (otherLocked ▸ rfl)
      case h_2 noneLocked =>
        refine ih ?_ onlyLater
        refine (List.mem_cons.mp isRegistered).resolve_left ?_
        rintro rfl
        cases locked.symm.trans noneLocked

theorem createDispenser_of_listed {info : PodInfo} {entry : PodList.Dispenser}
    (counted : 0 ≤ info.numValves) (listed : entry ∈ dispenserModel info) :
    createDispenser info entry.id = .ok ⟨info.id, entry.id, entry.type⟩ := by
  obtain ⟨id, type⟩ := entry
  rcases mem_dispenserModel.mp listed with
    ⟨isPump, nonneg, below⟩ | ⟨isValve, behind, below⟩
  · obtain rfl : type = .pump := isPump
    rcases createDispenser_cases info id with
      ⟨outside, -⟩ | ⟨-, behind, -⟩ | ⟨-, -, created⟩
    · have fewer : info.numPumps ≤ info.numPumps + info.numValves :=
        le_add_of_nonneg_right counted
      exact absurd below (not_lt.mpr (fewer.trans outside))
    · exact absurd below (not_lt.mpr behind)
    · exact created
  · obtain rfl : type = .valve := isValve
    rcases createDispenser_cases info id with
      ⟨outside, -⟩ | ⟨-, -, created⟩ | ⟨-, before, -⟩
    · exact absurd below (not_lt.mpr outside)
    · exact created
    · exact absurd before (not_lt.mpr behind)

theorem PodConsistent.running_of_connected {pod : StationPod}
    (consistent : PodConsistent pod)
    (connected : connection pod.pod.phase = .connected) :
    pod.stage = .running := by
  cases stage : pod.stage with
  | running => rfl
  | spawned =>
      rw [consistent.spawned stage] at connected
      cases connected
  | completed =>
      obtain ⟨-, ending, finished⟩ := consistent.completed stage
      rw [finished] at connected
      cases connected

/-- As long as no two Pods report the same id at a time, the list on the screen
mirrors the Pods once its closures have run, and every dispenser that it lists
for a connected Pod can be had from the registry, with the type that is
shown. -/
theorem listed_dispensers_available {events : List Event}
    (unique : Always step DistinctIds {} events)
    (ran : run step {} events = some system) :
    MirrorsStates system.bridge ∧
      ∀ row ∈ system.bridge.shown.pods, row.connectionState = .connected →
        ∃ dispensers, row.dispensers = some dispensers ∧
          ∀ entry ∈ dispensers,
            dispenserOfPod system.pods row.id entry.id system.registry =
              .ok ⟨row.id, entry.id, entry.type⟩ := by
  have consistent := consistent_of_run ran
  have mirrors := mirrors_of_run unique ran
  have distinctIds := unique events system List.prefix_rfl ran
  refine ⟨mirrors, fun row member connected => ?_⟩
  have named := mirrors.wellFormed.named row member
  obtain ⟨data, live, shows⟩ := mirrors.shown row member
  rw [consistent.mirrored, List.map_map] at live
  obtain ⟨pod, isPod, rfl⟩ := List.mem_map.mp live
  have podConsistent := consistent.pods pod isPod
  have running : pod.stage = .running :=
    podConsistent.running_of_connected
      (shows.connectionState.symm.trans connected)
  have sameId : row.id = pod.pod.info.id := shows.id
  obtain ⟨calls, monitored⟩ := podConsistent.monitored
  refine ⟨_, shows.dispensers, fun entry listed => ?_⟩
  have created := createDispenser_of_listed monitored.counted.2 listed
  rw [sameId]
  refine (dispenserOfPod_eq entry.id (consistent.lock_of_mem isPod)
    ((consistent.registered pod isPod).mpr running) ?_).trans created
  intro address isRegistered other locked otherId
  obtain ⟨rfl, before, after, split⟩ := exists_split_of_lock locked
  have isOther : other ∈ system.pods := by simp [split]
  have sameAddress := distinctIds pod isPod other isOther
    (sameId ▸ named) otherId
  exact row_eq_of_key_eq consistent.distinct isOther isPod sameAddress

/-- Two Pods, and the valve of the second one. -/
theorem listed_dispensers_available_two :
    ∃ system : System,
      system.bridge.shown.pods.map GuiPod.id = ["gin", "rum"] ∧
        dispenserOfPod system.pods "rum" 1 system.registry =
          .ok ⟨"rum", 1, .valve⟩ := by
  let events : List Event :=
    [.discovered 1, .discovered 2, .begin 1, .begin 2, .monitor 1 .begin,
      .monitor 2 .begin,
      .monitor 1 (.answer (.message (.deviceInfoResponse "gin" 1 0 0 1 0))),
      .monitor 2 (.answer (.message (.deviceInfoResponse "rum" 1 0 0 1 1)))]
  let rum : GuiPod := ⟨"rum", .connected, some [⟨0, .pump⟩, ⟨1, .valve⟩]⟩
  have unique : Always step DistinctIds {} events := by decide
  have ran : (run step {} events).isSome = true := by decide
  obtain ⟨system, ran⟩ := Option.isSome_iff_exists.mp ran
  have rows : (run step {} events).map
      (fun system : System => system.bridge.shown.pods) =
      some [⟨"gin", .connected, some [⟨0, .pump⟩]⟩, rum] := by
    decide
  rw [ran, Option.map_some, Option.some.injEq] at rows
  obtain ⟨-, available⟩ := listed_dispensers_available unique ran
  obtain ⟨dispensers, listed, found⟩ :=
    available rum (by rw [rows]; decide) rfl
  obtain rfl := Option.some.inj listed
  exact ⟨system, by rw [rows]; rfl, found ⟨1, .valve⟩ (by decide)⟩

end Screen

end StationPods

end CocktailMaker
