import Mathlib.Data.List.Nodup
import CocktailMaker.LabelledRun
import CocktailMaker.PortTable

/-!
# Discovery of serial pods

`SerialPodDiscovery::discover` scans the connected ttys once and then handles
the events of a udev monitor, one after the other and in the order in which the
kernel caused them.  The monitor exists before the scan, so ttys come and go
while their events wait in its queue.  Handling an event looks at what is
present then: the device whose event it was may be gone by that time, or a
later one may have taken its devnode.

The sessions that discovery opens run on their own.  They end when their tty
stops answering, which need not coincide with any event of the monitor.
-/

namespace CocktailMaker

namespace SerialPodDiscovery

open LabelledRun

/-- What sysfs tells about a USB tty. -/
structure UsbAttributes where
  vendorId : String
  productId : String
  deviceSerial : Option String
  interfaceName : Option String
  interfaceNumber : Option String
  deriving DecidableEq, Repr

/-- The protocol port of a pod. -/
def protocolTty : UsbAttributes :=
  ⟨targetVid, targetPid, some "2A01", some protocolInterfaceName, none⟩

/-- A tty of the kernel.  Each plugging of a device is a new incarnation of its
devnode. -/
structure Tty where
  incarnation : Nat
  /-- udev has finished to set it up. -/
  initialized : Bool
  /-- Absent for a tty that does not belong to a USB device. -/
  usb : Option UsbAttributes
  deriving DecidableEq, Repr

inductive UdevAction
  | add
  | remove
  | other
  deriving DecidableEq, Repr

structure UdevEvent where
  action : UdevAction
  devnode : String
  deriving DecidableEq, Repr

/-- A pod session on a protocol port, or the stream of a log port. -/
structure PortSession where
  number : Nat
  role : PortRole
  identity : PodHardwareId
  devnode : String
  incarnation : Nat
  deriving DecidableEq, Repr

structure DiscoveryState where
  present : String → Option Tty
  /-- How many ttys have been plugged so far. -/
  plugged : Nat
  /-- What is queued at the udev monitor. -/
  queue : List UdevEvent
  /-- The ports of the scan that are still to be handled; absent before the
  scan. -/
  scanned : Option (List PodPort)
  pods : PortTable
  logs : PortTable
  /-- The sessions that have not ended. -/
  running : List PortSession
  opened : Nat
  /-- The sessions whose pod has sent its device info. -/
  ready : List Nat

/-- The monitor has just been created, with some ttys connected already and
with events that udev has yet to report for them. -/
def DiscoveryState.start (connected : String → Option Tty)
    (unreported : List UdevEvent) : DiscoveryState where
  present devnode :=
    (connected devnode).map fun tty => { tty with incarnation := 0 }
  plugged := 1
  queue := unreported
  scanned := none
  pods := ∅
  logs := ∅
  running := []
  opened := 0
  ready := []

def describeUsbTty (devnode : String) (tty : Tty) : Option UsbTtyInfo :=
  tty.usb.map fun usb =>
    ⟨devnode, usb.vendorId, usb.productId, usb.deviceSerial,
      usb.interfaceName, usb.interfaceNumber⟩

def matchPodPort (devnode : String) (tty : Tty) : Option PodPort := do
  let info ← describeUsbTty devnode tty
  guard (isPodDevice info)
  let role ← portRole info
  return ⟨role, info⟩

namespace DiscoveryState

def table (state : DiscoveryState) : PortRole → PortTable
  | .protocol => state.pods
  | .log => state.logs

def setTable (state : DiscoveryState) (table : PortTable) :
    PortRole → DiscoveryState
  | .protocol => { state with pods := table }
  | .log => { state with logs := table }

/-- The ports that a scan finds on the listed devnodes.  A tty that udev still
sets up is left to the monitor. -/
def scanConnected (state : DiscoveryState) (devnodes : List String) :
    List PodPort :=
  devnodes.filterMap fun devnode => do
    let tty ← state.present devnode
    let port ← matchPodPort devnode tty
    guard tty.initialized
    return port

/-- The incarnation of the tty that is present under a devnode. -/
def incarnationAt (state : DiscoveryState) (devnode : String) : Option Nat :=
  (state.present devnode).map Tty.incarnation

/-- The incarnation behind the port that has been opened.  Only what is present
can be opened, and even then opening or configuring it may fail. -/
def openAndConfigure (state : DiscoveryState) (devnode : String)
    (succeeds : Bool) : Option Nat :=
  if succeeds then state.incarnationAt devnode else none

/-- Claim the identity of a port in the table of its role, open it and start its
session.  The claim is dropped when the port cannot be opened. -/
def openPort (state : DiscoveryState) (role : PortRole) (info : UsbTtyInfo)
    (succeeds : Bool) : DiscoveryState :=
  let identity := podIdentity info
  match (state.table role).claim identity info.devnode with
  | none => state
  | some claimed =>
      match state.openAndConfigure info.devnode succeeds with
      | none => state.setTable (claimed.erase identity) role
      | some incarnation =>
          { state.setTable claimed role with
            running := state.running ++
              [⟨state.opened, role, identity, info.devnode, incarnation⟩]
            opened := state.opened + 1 }

/-- Open a protocol port; its session is run by `run_pod`. -/
def openPod (state : DiscoveryState) (info : UsbTtyInfo) (succeeds : Bool) :
    DiscoveryState :=
  state.openPort .protocol info succeeds

def startLogStream (state : DiscoveryState) (info : UsbTtyInfo)
    (succeeds : Bool) : DiscoveryState :=
  state.openPort .log info succeeds

def handlePort (state : DiscoveryState) (port : PodPort) (succeeds : Bool) :
    DiscoveryState :=
  match port.role with
  | .log => state.startLogStream port.info succeeds
  | .protocol => state.openPod port.info succeeds

theorem handlePort_eq (state : DiscoveryState) (port : PodPort)
    (succeeds : Bool) :
    state.handlePort port succeeds =
      state.openPort port.role port.info succeeds := by
  rcases port with ⟨role, info⟩
  cases role <;> rfl

/-- Release the devnode in one of the tables. -/
def release (state : DiscoveryState) (devnode : String) (role : PortRole) :
    DiscoveryState :=
  match (state.table role).releaseByDevnode devnode with
  | none => state
  | some (_, table) => state.setTable table role

def forgetRemovedPort (state : DiscoveryState) (devnode : String) :
    DiscoveryState :=
  (state.release devnode .protocol).release devnode .log

/-- The port that an event is about, as far as it is present. -/
def portAt (state : DiscoveryState) (devnode : String) : Option PodPort :=
  (state.present devnode).bind (matchPodPort devnode)

def handleEvent (state : DiscoveryState) (event : UdevEvent)
    (succeeds : Bool) : DiscoveryState :=
  match event.action with
  | .remove => state.forgetRemovedPort event.devnode
  | .add =>
      match state.portAt event.devnode with
      | none => state
      | some port => state.handlePort port succeeds
  | .other => state

end DiscoveryState

/-- Why a session ends. -/
inductive EndReason
  | readError
  | bufferLimit
  | deviceInfoRetriesExhausted
  | keepAliveRetriesExhausted
  deriving DecidableEq, Repr

/-- A log stream ends only with its tty.  Device info is requested until it
arrives, and after that the session is kept alive. -/
def EndReason.applies (reason : EndReason) (role : PortRole) (ready : Bool) :
    Bool :=
  match reason with
  | .readError => true
  | .bufferLimit => role == .protocol
  | .deviceInfoRetriesExhausted => role == .protocol && !ready
  | .keepAliveRetriesExhausted => role == .protocol && ready

inductive Event
  | plug (devnode : String) (usb : Option UsbAttributes)
  | finishSetup (devnode : String)
  | unplug (devnode : String)
  | change (devnode : String)
  | scan (devnodes : List String)
  | handleScanned (succeeds : Bool)
  | handleQueued (succeeds : Bool)
  | receiveDeviceInfo (session : Nat)
  | endSession (session : Nat) (reason : EndReason)

open DiscoveryState

def step (state : DiscoveryState) : Event → Option DiscoveryState
  | .plug devnode usb =>
      match state.present devnode with
      | some _ => none
      | none => some
          { state with
            present := Function.update state.present devnode
              (some ⟨state.plugged, false, usb⟩)
            plugged := state.plugged + 1
            queue := state.queue ++ [⟨.add, devnode⟩] }
  | .finishSetup devnode =>
      (state.present devnode).map fun tty =>
        { state with
          present := Function.update state.present devnode
            (some { tty with initialized := true }) }
  | .unplug devnode =>
      (state.present devnode).map fun _ =>
        { state with
          present := Function.update state.present devnode none
          queue := state.queue ++ [⟨.remove, devnode⟩] }
  | .change devnode =>
      some { state with queue := state.queue ++ [⟨.other, devnode⟩] }
  | .scan devnodes =>
      if state.scanned = none ∧ devnodes.Nodup then
        some { state with scanned := some (state.scanConnected devnodes) }
      else none
  | .handleScanned succeeds =>
      match state.scanned with
      | some (port :: rest) =>
          some ({ state with scanned := some rest }.handlePort port succeeds)
      | _ => none
  | .handleQueued succeeds =>
      match state.scanned, state.queue with
      | some [], event :: rest =>
          some ({ state with queue := rest }.handleEvent event succeeds)
      | _, _ => none
  | .receiveDeviceInfo session =>
      if ∃ running ∈ state.running, running.number = session ∧
          running.role = .protocol then
        some { state with ready := session :: state.ready }
      else none
  | .endSession session reason =>
      if ∃ running ∈ state.running, running.number = session ∧
          reason.applies running.role (state.ready.contains session) then
        some
          { state with
            running := state.running.filter fun running =>
              running.number ≠ session }
      else none

/-! ### What a step does to the tables -/

/-- The outcome of opening a port that an event handles. -/
def Event.succeeds : Event → Bool
  | .handleScanned succeeds | .handleQueued succeeds => succeeds
  | _ => false

/-- The event of the monitor that is handled next, once the scan is done. -/
def DiscoveryState.nextQueued (state : DiscoveryState) : Option UdevEvent :=
  if state.scanned = some [] then state.queue.head? else none

/-- The port that the event hands to `handle_port`. -/
def handledPort (state : DiscoveryState) : Event → Option PodPort
  | .handleScanned _ => state.scanned.bind List.head?
  | .handleQueued _ =>
      state.nextQueued.bind fun event =>
        if event.action = .add then state.portAt event.devnode else none
  | _ => none

/-- The event tries to open a port with this role and identity. -/
def Attempts (state : DiscoveryState) (event : Event) (role : PortRole)
    (id : PodHardwareId) : Prop :=
  ∃ port, handledPort state event = some port ∧ port.role = role ∧
    port.identity = id

/-- The attempt is refused, since the table holds the identity. -/
def Refuses (state : DiscoveryState) (event : Event) (role : PortRole)
    (id : PodHardwareId) : Prop :=
  Attempts state event role id ∧ id ∈ state.table role

/-- The event opens a port with this role and identity. -/
def Opens (state : DiscoveryState) (event : Event) (role : PortRole)
    (id : PodHardwareId) : Prop :=
  ∃ port, handledPort state event = some port ∧ port.role = role ∧
    port.identity = id ∧ id ∉ state.table role ∧
      (state.openAndConfigure port.info.devnode event.succeeds).isSome = true

/-- The event removes the entry of this identity. -/
def Frees (state : DiscoveryState) (event : Event) (role : PortRole)
    (id : PodHardwareId) : Prop :=
  ∃ succeeds devnode table, event = .handleQueued succeeds ∧
    state.nextQueued = some ⟨.remove, devnode⟩ ∧
      (state.table role).releaseByDevnode devnode = some (id, table)

/-- Handling a port has given it an entry and a session. -/
structure GetsSession (state next : DiscoveryState) (role : PortRole)
    (info : UsbTtyInfo) (succeeds : Bool) : Prop where
  absent : podIdentity info ∉ state.table role
  session : ∃ incarnation,
    state.openAndConfigure info.devnode succeeds = some incarnation ∧
      next.running = state.running ++
        [⟨state.opened, role, podIdentity info, info.devnode, incarnation⟩]
  held : ∀ other id, id ∈ next.table other ↔
    other = role ∧ id = podIdentity info ∨ id ∈ state.table other

/-- The port was refused or could not be opened, and nothing has changed. -/
structure StaysClosed (state next : DiscoveryState) (role : PortRole)
    (info : UsbTtyInfo) (succeeds : Bool) : Prop where
  reason : podIdentity info ∈ state.table role ∨
    state.openAndConfigure info.devnode succeeds = none
  running : next.running = state.running
  held : ∀ other id, id ∈ next.table other ↔ id ∈ state.table other

section Tables

variable {state : DiscoveryState}

theorem table_setTable (table : PortTable) (role other : PortRole) :
    (state.setTable table role).table other =
      if other = role then table else state.table other := by
  cases role <;> cases other <;> rfl

@[simp]
theorem setTable_running (table : PortTable) (role : PortRole) :
    (state.setTable table role).running = state.running := by
  cases role <;> rfl

@[simp]
theorem setTable_present (table : PortTable) (role : PortRole) :
    (state.setTable table role).present = state.present := by
  cases role <;> rfl

@[simp]
theorem setTable_plugged (table : PortTable) (role : PortRole) :
    (state.setTable table role).plugged = state.plugged := by
  cases role <;> rfl

theorem openPort_cases (state : DiscoveryState) (role : PortRole)
    (info : UsbTtyInfo) (succeeds : Bool) :
    GetsSession state (state.openPort role info succeeds) role info succeeds ∨
      StaysClosed state (state.openPort role info succeeds) role info
        succeeds := by
  unfold openPort
  cases claimed : (state.table role).claim (podIdentity info) info.devnode with
  | none =>
      right
      exact ⟨.inl (PortTable.claim_eq_none_iff.mp claimed), by simp [claimed],
        by simp [claimed]⟩
  | some table =>
      obtain ⟨absent, held⟩ := PortTable.mem_of_claim_eq_some claimed
      cases outcome : state.openAndConfigure info.devnode succeeds with
      | none =>
          right
          refine ⟨.inr outcome, by simp [claimed], ?_⟩
          intro other id
          simp only [claimed, table_setTable]
          split
          case isTrue same =>
            rw [same, PortTable.mem_erase_of_claim_eq_some claimed]
          case isFalse => rfl
      | some incarnation =>
          left
          refine ⟨absent, ⟨incarnation, outcome, by simp [claimed]⟩, ?_⟩
          intro other id
          simp only [claimed]
          change id ∈ (state.setTable table role).table other ↔ _
          rw [table_setTable]
          split
          case isTrue same => simp [same, held]
          case isFalse distinct => simp [distinct]

@[simp]
theorem openPort_present (role : PortRole) (info : UsbTtyInfo)
    (succeeds : Bool) :
    (state.openPort role info succeeds).present = state.present := by
  simp only [openPort]
  split
  · rfl
  · split <;> simp

@[simp]
theorem openPort_plugged (role : PortRole) (info : UsbTtyInfo)
    (succeeds : Bool) :
    (state.openPort role info succeeds).plugged = state.plugged := by
  simp only [openPort]
  split
  · rfl
  · split <;> simp

@[simp]
theorem release_present (devnode : String) (role : PortRole) :
    (state.release devnode role).present = state.present := by
  unfold release
  split <;> simp

@[simp]
theorem release_plugged (devnode : String) (role : PortRole) :
    (state.release devnode role).plugged = state.plugged := by
  unfold release
  split <;> simp

@[simp]
theorem release_running (devnode : String) (role : PortRole) :
    (state.release devnode role).running = state.running := by
  unfold release
  split <;> simp

theorem table_release_of_ne {devnode : String} {role other : PortRole}
    (distinct : other ≠ role) :
    (state.release devnode role).table other = state.table other := by
  unfold release
  split
  · rfl
  · rw [table_setTable, if_neg distinct]

theorem mem_release {devnode : String} {role other : PortRole}
    {id : PodHardwareId} :
    id ∈ (state.release devnode role).table other ↔
      id ∈ state.table other ∧ ¬(other = role ∧ ∃ table,
        (state.table role).releaseByDevnode devnode = some (id, table)) := by
  unfold release
  cases released : (state.table role).releaseByDevnode devnode with
  | none => simp
  | some found =>
      obtain ⟨freed, table⟩ := found
      obtain ⟨-, held⟩ := PortTable.mem_of_releaseByDevnode_eq_some released
      simp only [table_setTable]
      by_cases same : other = role
      · subst other
        simp [held, and_comm, eq_comm]
      · simp [same]

/-- Each of the two tables releases the devnode on its own. -/
theorem mem_forgetRemovedPort {devnode : String} {role : PortRole}
    {id : PodHardwareId} :
    id ∈ (state.forgetRemovedPort devnode).table role ↔
      id ∈ state.table role ∧ ¬∃ table,
        (state.table role).releaseByDevnode devnode = some (id, table) := by
  rw [forgetRemovedPort, mem_release, mem_release,
    table_release_of_ne (by simp : PortRole.log ≠ .protocol)]
  cases role <;> simp

end Tables

section Steps

variable {state next : DiscoveryState} {event : Event}

theorem nextQueued_eq_some {head : UdevEvent}
    (queued : state.nextQueued = some head) :
    state.scanned = some [] ∧ ∃ rest, state.queue = head :: rest := by
  simp only [nextQueued, Option.ite_none_right_eq_some] at queued
  exact ⟨queued.1, List.head?_eq_some_iff.mp queued.2⟩

/-- An event that handles a port does nothing else to the tables and sessions. -/
theorem step_eq_openPort {port : PodPort}
    (handled : handledPort state event = some port)
    (stepped : step state event = some next) :
    ∃ queue scanned, next =
      { state with queue := queue, scanned := scanned }.openPort port.role
        port.info event.succeeds := by
  cases event with
  | handleScanned succeeds =>
      obtain ⟨ports, scanned, first⟩ := Option.bind_eq_some_iff.mp handled
      obtain ⟨rest, rfl⟩ := List.head?_eq_some_iff.mp first
      simp only [step, scanned, handlePort_eq, Option.some.injEq] at stepped
      exact ⟨_, _, stepped.symm⟩
  | handleQueued succeeds =>
      simp only [handledPort, Option.bind_eq_some_iff,
        Option.ite_none_right_eq_some] at handled
      obtain ⟨head, queued, isAdd, found⟩ := handled
      obtain ⟨scanned, rest, queue⟩ := nextQueued_eq_some queued
      have stillFound : portAt { state with queue := rest, scanned := some [] }
          head.devnode = some port := found
      simp only [step, scanned, queue, handleEvent, isAdd, stillFound,
        handlePort_eq, Option.some.injEq] at stepped
      exact ⟨_, _, stepped.symm⟩
  | _ => simp [handledPort] at handled

/-- What becomes of the port that an event handles. -/
theorem step_port_cases {port : PodPort}
    (handled : handledPort state event = some port)
    (stepped : step state event = some next) :
    next.present = state.present ∧
      (GetsSession state next port.role port.info event.succeeds ∨
        StaysClosed state next port.role port.info event.succeeds) := by
  obtain ⟨queue, scanned, rfl⟩ := step_eq_openPort handled stepped
  refine ⟨by simp, ?_⟩
  rcases openPort_cases { state with queue := queue, scanned := scanned }
    port.role port.info event.succeeds with opened | closed
  · exact .inl ⟨opened.absent, opened.session, opened.held⟩
  · exact .inr ⟨closed.reason, closed.running, closed.held⟩

/-- Only handling what the monitor or the scan reports touches the tables, and
nothing else starts a session. -/
theorem step_keeps_table (unhandled : handledPort state event = none)
    (notQueued : ∀ succeeds, event ≠ .handleQueued succeeds)
    (stepped : step state event = some next) :
    next.table = state.table ∧
      (next.running = state.running ∨ ∃ number reason,
        event = .endSession number reason ∧
          List.Sublist next.running state.running) := by
  cases event with
  | plug devnode usb =>
      cases present : state.present devnode <;>
        simp only [step, present, reduceCtorEq, Option.some.injEq] at stepped
      exact stepped ▸ ⟨rfl, .inl rfl⟩
  | finishSetup devnode =>
      obtain ⟨tty, -, rfl⟩ := Option.map_eq_some_iff.mp stepped
      exact ⟨rfl, .inl rfl⟩
  | unplug devnode =>
      obtain ⟨tty, -, rfl⟩ := Option.map_eq_some_iff.mp stepped
      exact ⟨rfl, .inl rfl⟩
  | change devnode =>
      exact Option.some.inj stepped ▸ ⟨rfl, .inl rfl⟩
  | scan devnodes =>
      simp only [step, Option.ite_none_right_eq_some] at stepped
      exact Option.some.inj stepped.2 ▸ ⟨rfl, .inl rfl⟩
  | handleScanned succeeds =>
      rcases scanned : state.scanned with - | - | ⟨port, rest⟩
      · simp [step, scanned] at stepped
      · simp [step, scanned] at stepped
      · simp [handledPort, scanned] at unhandled
  | handleQueued succeeds => exact absurd rfl (notQueued succeeds)
  | receiveDeviceInfo session =>
      simp only [step, Option.ite_none_right_eq_some] at stepped
      exact Option.some.inj stepped.2 ▸ ⟨rfl, .inl rfl⟩
  | endSession number reason =>
      simp only [step, Option.ite_none_right_eq_some] at stepped
      exact Option.some.inj stepped.2 ▸
        ⟨rfl, .inr ⟨number, reason, rfl, List.filter_sublist⟩⟩

theorem step_handleQueued_eq_some {succeeds : Bool}
    (stepped : step state (.handleQueued succeeds) = some next) :
    ∃ head rest, state.nextQueued = some head ∧
      next = { state with queue := rest }.handleEvent head succeeds := by
  rcases scanned : state.scanned with - | - | ⟨port, ports⟩
  · simp [step, scanned] at stepped
  · cases queue : state.queue with
    | nil => simp [step, scanned, queue] at stepped
    | cons head rest =>
        refine ⟨head, rest, by simp [nextQueued, scanned, queue], ?_⟩
        simpa [step, scanned, queue, eq_comm] using stepped
  · simp [step, scanned] at stepped

theorem frees_iff {succeeds : Bool} {head : UdevEvent} {role : PortRole}
    {id : PodHardwareId} (queued : state.nextQueued = some head) :
    Frees state (.handleQueued succeeds) role id ↔
      head.action = .remove ∧ ∃ table,
        (state.table role).releaseByDevnode head.devnode = some (id, table) := by
  rcases head with ⟨action, devnode⟩
  simp only [Frees, queued, Event.handleQueued.injEq, Option.some.injEq,
    UdevEvent.mk.injEq]
  constructor
  · rintro ⟨_, _, table, -, ⟨isRemove, rfl⟩, released⟩
    exact ⟨isRemove, table, released⟩
  · rintro ⟨isRemove, table, released⟩
    exact ⟨_, _, table, rfl, ⟨isRemove, rfl⟩, released⟩

/-- An event of the monitor that hands out no port removes at most the entries
that it frees. -/
theorem step_handleQueued {succeeds : Bool}
    (unhandled : handledPort state (.handleQueued succeeds) = none)
    (stepped : step state (.handleQueued succeeds) = some next) :
    next.running = state.running ∧ ∀ role id, id ∈ next.table role ↔
      id ∈ state.table role ∧ ¬Frees state (.handleQueued succeeds) role id := by
  obtain ⟨head, rest, queued, rfl⟩ := step_handleQueued_eq_some stepped
  simp only [frees_iff queued]
  cases action : head.action with
  | add =>
      have absent : state.portAt head.devnode = none := by
        simpa [handledPort, queued, action] using unhandled
      have nothingFound :
          portAt { state with queue := rest } head.devnode = none := absent
      simp only [handleEvent, action, nothingFound, true_and]
      exact fun role id => by simp; rfl
  | remove =>
      simp only [handleEvent, action, true_and]
      exact ⟨by simp [forgetRemovedPort], fun role id => mem_forgetRemovedPort⟩
  | other =>
      simp only [handleEvent, action, true_and]
      exact fun role id => by simp; rfl

theorem not_frees_of_handledPort {port : PodPort}
    (handled : handledPort state event = some port) (role : PortRole)
    (id : PodHardwareId) :
    ¬Frees state event role id := by
  rintro ⟨succeeds, devnode, table, rfl, queued, -⟩
  simp [handledPort, queued] at handled

theorem opens_iff_of_handledPort {port : PodPort}
    (handled : handledPort state event = some port) (role : PortRole)
    (id : PodHardwareId) :
    Opens state event role id ↔ port.role = role ∧ port.identity = id ∧
      id ∉ state.table role ∧
        (state.openAndConfigure port.info.devnode event.succeeds).isSome := by
  simp [Opens, handled]

theorem not_opens_of_unhandled (unhandled : handledPort state event = none)
    (role : PortRole) (id : PodHardwareId) :
    ¬Opens state event role id := by
  simp [Opens, unhandled]

theorem not_frees_of_notQueued
    (notQueued : ∀ succeeds, event ≠ .handleQueued succeeds)
    (role : PortRole) (id : PodHardwareId) :
    ¬Frees state event role id := by
  rintro ⟨succeeds, devnode, table, same, -⟩
  exact notQueued succeeds same

/-- Exactly the identities that an event opens join the table, and exactly
those that it frees leave it. -/
theorem mem_table_step (stepped : step state event = some next)
    (role : PortRole) (id : PodHardwareId) :
    id ∈ next.table role ↔ Opens state event role id ∨
      id ∈ state.table role ∧ ¬Frees state event role id := by
  cases handled : handledPort state event with
  | some port =>
      rw [opens_iff_of_handledPort handled,
        and_iff_left (not_frees_of_handledPort handled role id)]
      rcases (step_port_cases handled stepped).2 with
        ⟨absent, ⟨incarnation, opened, -⟩, held⟩ | ⟨unopened, -, held⟩
      · rw [held]
        constructor
        · rintro (⟨rfl, rfl⟩ | member)
          · exact .inl ⟨rfl, rfl, absent, Option.isSome_of_eq_some opened⟩
          · exact .inr member
        · rintro (⟨rfl, rfl, -, -⟩ | member)
          · exact .inl ⟨rfl, rfl⟩
          · exact .inr member
      · rw [held]
        refine ⟨.inr, ?_⟩
        rintro (⟨rfl, rfl, absent, opened⟩ | member)
        · rcases unopened with held | failed
          · exact absurd held absent
          · simp [failed] at opened
        · exact member
  | none =>
      have notOpened := not_opens_of_unhandled handled role id
      by_cases queued : ∃ succeeds, event = .handleQueued succeeds
      · obtain ⟨succeeds, rfl⟩ := queued
        simpa [notOpened] using (step_handleQueued handled stepped).2 role id
      · have notQueued succeeds : event ≠ .handleQueued succeeds :=
          fun same => queued ⟨succeeds, same⟩
        rw [(step_keeps_table handled notQueued stepped).1]
        simp [notOpened, not_frees_of_notQueued notQueued role id]

/-- The tty of the session is still the one that it was opened on. -/
def DiscoveryState.Present (state : DiscoveryState) (session : PortSession) :
    Prop :=
  state.incarnationAt session.devnode = some session.incarnation

theorem incarnation_of_openAndConfigure {devnode : String} {succeeds : Bool}
    {incarnation : Nat}
    (opened : state.openAndConfigure devnode succeeds = some incarnation) :
    state.incarnationAt devnode = some incarnation := by
  simp only [openAndConfigure, Option.ite_none_right_eq_some] at opened
  exact opened.2

theorem running_of_opens {role : PortRole} {id : PodHardwareId}
    (stepped : step state event = some next)
    (opens : Opens state event role id) :
    ∃ session, session.role = role ∧ session.identity = id ∧
      state.Present session ∧ next.present = state.present ∧
        next.running = state.running ++ [session] := by
  obtain ⟨port, handled, rfl, rfl, absent, opened⟩ := opens
  obtain ⟨present, ⟨-, ⟨incarnation, succeeded, running⟩, -⟩ | ⟨unopened, -⟩⟩ :=
    step_port_cases handled stepped
  · exact ⟨_, rfl, rfl, incarnation_of_openAndConfigure succeeded, present,
      running⟩
  · rcases unopened with refused | failed
    · exact absurd refused absent
    · simp [failed] at opened

theorem running_of_not_opens (stepped : step state event = some next)
    (notOpens : ∀ role id, ¬Opens state event role id) :
    next.running = state.running ∨ ∃ number reason,
      event = .endSession number reason ∧
        List.Sublist next.running state.running := by
  cases handled : handledPort state event with
  | some port =>
      rcases (step_port_cases handled stepped).2 with
        ⟨absent, ⟨incarnation, opened, -⟩, -⟩ | ⟨-, running, -⟩
      · refine absurd ?_ (notOpens port.role port.identity)
        exact ⟨port, handled, rfl, rfl, absent,
          Option.isSome_of_eq_some opened⟩
      · exact .inl running
  | none =>
      by_cases queued : ∃ succeeds, event = .handleQueued succeeds
      · obtain ⟨succeeds, rfl⟩ := queued
        exact .inl (step_handleQueued handled stepped).1
      · exact (step_keeps_table handled
          (fun succeeds same => queued ⟨succeeds, same⟩) stepped).2

theorem running_sublist_of_not_opens (stepped : step state event = some next)
    (notOpens : ∀ role id, ¬Opens state event role id) :
    List.Sublist next.running state.running := by
  rcases running_of_not_opens stepped notOpens with same | ⟨_, _, -, sublist⟩
  · exact same ▸ List.Sublist.refl _
  · exact sublist

theorem exists_step_of_handledPort {port : PodPort}
    (handled : handledPort state event = some port) :
    ∃ next, step state event = some next := by
  cases event with
  | handleScanned succeeds =>
      obtain ⟨ports, scanned, first⟩ := Option.bind_eq_some_iff.mp handled
      obtain ⟨rest, rfl⟩ := List.head?_eq_some_iff.mp first
      simp [step, scanned]
  | handleQueued succeeds =>
      obtain ⟨head, queued, -⟩ := Option.bind_eq_some_iff.mp handled
      obtain ⟨scanned, rest, queue⟩ := nextQueued_eq_some queued
      simp [step, scanned, queue]
  | _ => simp [handledPort] at handled

@[simp]
theorem handleEvent_present (head : UdevEvent) (succeeds : Bool) :
    (state.handleEvent head succeeds).present = state.present := by
  unfold handleEvent
  split
  · simp [forgetRemovedPort]
  · split <;> simp [handlePort_eq]
  · rfl

@[simp]
theorem handleEvent_plugged (head : UdevEvent) (succeeds : Bool) :
    (state.handleEvent head succeeds).plugged = state.plugged := by
  unfold handleEvent
  split
  · simp [forgetRemovedPort]
  · split <;> simp [handlePort_eq]
  · rfl

/-- A devnode keeps its incarnation, loses it or gets a new one. -/
theorem incarnationAt_step (stepped : step state event = some next) :
    state.plugged ≤ next.plugged ∧ ∀ devnode,
      next.incarnationAt devnode = state.incarnationAt devnode ∨
        next.incarnationAt devnode = none ∨
          next.incarnationAt devnode = some state.plugged ∧
            next.plugged = state.plugged + 1 := by
  cases event with
  | plug changed usb =>
      cases present : state.present changed with
      | some tty => simp [step, present] at stepped
      | none =>
          simp only [step, present, Option.some.injEq] at stepped
          subst next
          refine ⟨Nat.le_succ _, fun devnode => ?_⟩
          by_cases same : devnode = changed
          · simp [incarnationAt, same]
          · simp [incarnationAt, same]
  | finishSetup changed =>
      obtain ⟨tty, present, rfl⟩ := Option.map_eq_some_iff.mp stepped
      refine ⟨le_rfl, fun devnode => .inl ?_⟩
      by_cases same : devnode = changed
      · simp [incarnationAt, same, present]
      · simp [incarnationAt, same]
  | unplug changed =>
      obtain ⟨tty, present, rfl⟩ := Option.map_eq_some_iff.mp stepped
      refine ⟨le_rfl, fun devnode => ?_⟩
      by_cases same : devnode = changed
      · simp [incarnationAt, same]
      · simp [incarnationAt, same]
  | change changed =>
      exact Option.some.inj stepped ▸ ⟨le_rfl, fun _ => .inl rfl⟩
  | scan devnodes =>
      simp only [step, Option.ite_none_right_eq_some] at stepped
      exact Option.some.inj stepped.2 ▸ ⟨le_rfl, fun _ => .inl rfl⟩
  | handleScanned succeeds =>
      rcases scanned : state.scanned with - | - | ⟨port, rest⟩
      · simp [step, scanned] at stepped
      · simp [step, scanned] at stepped
      · simp only [step, scanned, handlePort_eq, Option.some.injEq] at stepped
        simp [← stepped, incarnationAt]
  | handleQueued succeeds =>
      obtain ⟨head, rest, -, rfl⟩ := step_handleQueued_eq_some stepped
      simp [incarnationAt]
  | receiveDeviceInfo session =>
      simp only [step, Option.ite_none_right_eq_some] at stepped
      exact Option.some.inj stepped.2 ▸ ⟨le_rfl, fun _ => .inl rfl⟩
  | endSession session reason =>
      simp only [step, Option.ite_none_right_eq_some] at stepped
      exact Option.some.inj stepped.2 ▸ ⟨le_rfl, fun _ => .inl rfl⟩

end Steps

end SerialPodDiscovery

end CocktailMaker
