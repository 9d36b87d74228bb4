import CocktailMaker.LabelledRun
import CocktailMaker.MaintenanceAccess

/-!
# The lockout on the screen

A wrong PIN that starts a lockout also starts a task, which updates the seconds
on the screen until the lockout is over.  The popup takes no PIN while the
screen shows a lockout.  The task runs on the thread of the executor; what it
changes on the screen is a closure for the event loop.
-/

namespace CocktailMaker

namespace OperatorLockout

open LabelledRun MaintenanceAccess OperatorPin

/-- The digits that have been entered, at most six. -/
structure PopupContent where
  enteredPin : List (Fin 10)
  pinLength : Nat
  counted : pinLength = enteredPin.length
  bounded : pinLength ≤ 6

namespace PopupContent

/-- What `reset` leaves. -/
def empty : PopupContent where
  enteredPin := []
  pinLength := 0
  counted := rfl
  bounded := Nat.zero_le 6

def pushDigit (content : PopupContent) (digit : Fin 10) : PopupContent :=
  if short : content.pinLength < 6 then
    { enteredPin := content.enteredPin ++ [digit]
      pinLength := content.pinLength + 1
      counted := by rw [List.length_append, content.counted]; rfl
      bounded := short }
  else content

/-- The PIN as text. -/
def text (content : PopupContent) : String :=
  String.join (content.enteredPin.map fun digit => toString digit.val)

end PopupContent

/-- Where a task is in the loop of `async_handle_operator_lockout`: before its
condition, before the timer is set, or waiting for the timer. -/
inductive LockoutTask
  | checking
  | arming
  | waiting (expiry : TimePoint)
  deriving DecidableEq

/-- The closures of a task: the one in its loop and the one after it. -/
inductive Closure
  | updateSeconds
  | finish
  deriving DecidableEq

structure Station where
  now : TimePoint
  bridge : StationStateBridge := {}
  content : PopupContent := .empty
  tasks : List LockoutTask := []
  queue : List Closure := []

/-- The clock advances, the operator clicks, a task goes on, or the event loop
runs a closure.  `clear` also stands for `Cancel` and for the popup being opened
or closed, which reset the content as well. -/
inductive Event
  | tick (later : TimePoint)
  | navigateTo (target : Page)
  | digit (digit : Fin 10)
  | clear
  | ok
  | resume (index : Nat)
  | runClosure
  deriving DecidableEq

section Model

variable (hmac : String → String → String) (config : OperatorAuthConfig)

def Closure.perform (now : TimePoint) (bridge : StationStateBridge) :
    Closure → StationStateBridge
  | .updateSeconds =>
      { bridge with
        context :=
          { bridge.context with
            operatorLockoutSecondsRemaining :=
              bridge.operatorAuth.lockoutRemaining now } }
  | .finish =>
      { bridge with
        context :=
          { bridge.context with
            operatorLockedOut := bridge.operatorAuth.isLockedOut now
            operatorRemainingAttempts :=
              bridge.operatorAuth.remainingAttempts config
            operatorLockoutSecondsRemaining :=
              bridge.operatorAuth.lockoutRemaining now } }

/-- A task goes on until it waits for its timer or ends. -/
def resumeTask (station : Station) (index : Nat) :
    LockoutTask → Option Station
  | .checking =>
      if station.bridge.operatorAuth.isLockedOut station.now then
        some { station with tasks := station.tasks.set index .arming }
      else
        some
          { station with
            tasks := station.tasks.eraseIdx index
            queue := station.queue ++ [.finish] }
  | .arming =>
      some
        { station with
          tasks := station.tasks.set index
            (.waiting (station.now + nanoseconds 1)) }
  | .waiting expiry =>
      if expiry ≤ station.now then
        some
          { station with
            tasks := station.tasks.set index .checking
            queue := station.queue ++ [.updateSeconds] }
      else none

/-- `on_submit_operator_pin`, with the task that a lockout starts. -/
def submit (station : Station) : Station :=
  let bridge := station.bridge.onSubmitOperatorPin hmac config
    station.content.text station.now
  { station with
    bridge
    content := .empty
    tasks :=
      if bridge.operatorAuth.isLockedOut station.now then
        station.tasks ++ [.checking]
      else station.tasks }

def step (station : Station) : Event → Option Station
  | .tick later =>
      if station.now ≤ later then some { station with now := later } else none
  | .navigateTo target =>
      some { station with bridge := station.bridge.onNavigateTo target }
  | .digit digit =>
      if station.bridge.context.operatorLockedOut then none
      else some { station with content := station.content.pushDigit digit }
  | .clear => some { station with content := .empty }
  | .ok =>
      if ¬ station.bridge.context.operatorLockedOut ∧
          0 < station.content.pinLength then
        some (submit hmac config station)
      else none
  | .resume index =>
      match station.tasks[index]? with
      | some task => resumeTask station index task
      | none => none
  | .runClosure =>
      match station.queue with
      | [] => none
      | closure :: queue =>
          some
            { station with
              bridge := closure.perform config station.now station.bridge
              queue }

end Model

section Remaining

variable {auth : OperatorAuth} {now later : TimePoint}

theorem isLockedOut_false_of_le (advances : now ≤ later)
    (unlocked : auth.isLockedOut now = false) :
    auth.isLockedOut later = false := by
  rw [Bool.eq_false_iff] at unlocked ⊢
  intro locked
  obtain ⟨deadline, armed, before⟩ := isLockedOut_iff.mp locked
  exact unlocked (isLockedOut_iff.mpr
    ⟨deadline, armed, lt_of_le_of_lt advances before⟩)

theorem lockoutRemaining_cases (auth : OperatorAuth) (now : TimePoint) :
    (auth.isLockedOut now = false ∧ auth.lockoutRemaining now = 0) ∨
      ∃ deadline : Int, auth.lockedUntil = some deadline ∧ now < deadline ∧
        auth.lockoutRemaining now = (deadline - now) / 1000000000 := by
  unfold OperatorAuth.isLockedOut OperatorAuth.lockoutRemaining
  cases auth.lockedUntil with
  | none => exact .inl ⟨rfl, rfl⟩
  | some deadline =>
      by_cases before : now < deadline
      · refine .inr ⟨deadline, rfl, before, ?_⟩
        simp only [if_pos before]
        exact Int.tdiv_eq_ediv_of_nonneg (sub_nonneg.mpr before.le)
      · exact .inl ⟨decide_eq_false before, if_neg before⟩

theorem lockoutRemaining_le_of_le (advances : now ≤ later) :
    auth.lockoutRemaining later ≤ auth.lockoutRemaining now := by
  rcases lockoutRemaining_cases auth later with
    ⟨_, none⟩ | ⟨deadline, armed, before, remaining⟩
  · rw [none]
    rcases lockoutRemaining_cases auth now with
      ⟨_, alsoNone⟩ | ⟨other, _, beforeOther, remaining⟩
    · exact alsoNone.ge
    · rw [remaining]
      exact Int.ediv_nonneg (sub_nonneg.mpr beforeOther.le) (by decide)
  · rcases lockoutRemaining_cases auth now with
      ⟨unlocked, _⟩ | ⟨other, armedOther, _, remainingOther⟩
    · have locked := isLockedOut_iff.mpr ⟨deadline, armed, before⟩
      rw [isLockedOut_false_of_le advances unlocked] at locked
      cases locked
    · obtain rfl : deadline = other :=
        Option.some.inj (armed.symm.trans armedOther)
      rw [remaining, remainingOther]
      exact Int.ediv_le_ediv (by decide) (sub_le_sub_left advances deadline)

theorem lockoutRemaining_le_duration {config : OperatorAuthConfig}
    (ends : ∀ deadline, auth.lockedUntil = some deadline →
      deadline ≤ now + config.lockout) :
    auth.lockoutRemaining now ≤ max 0 config.lockoutDuration := by
  rcases lockoutRemaining_cases auth now with
    ⟨_, none⟩ | ⟨deadline, armed, before, remaining⟩
  · exact none.le.trans (le_max_left 0 _)
  · have bound : deadline - now ≤ config.lockoutDuration * 1000000000 :=
      sub_le_iff_le_add'.mpr (ends deadline armed)
    rw [remaining]
    omega

end Remaining

section Bridge

variable {hmac : String → String → String} {config : OperatorAuthConfig}

theorem shown_onNavigateTo (bridge : StationStateBridge) (target : Page) :
    (bridge.onNavigateTo target).operatorAuth = bridge.operatorAuth ∧
      (bridge.onNavigateTo target).context.operatorLockedOut =
        bridge.context.operatorLockedOut ∧
      (bridge.onNavigateTo target).context.operatorLockoutSecondsRemaining =
        bridge.context.operatorLockoutSecondsRemaining := by
  unfold StationStateBridge.onNavigateTo
  split <;> exact ⟨rfl, rfl, rfl⟩

variable (hmac config) in
/-- After a PIN the screen shows the lockout as it is. -/
theorem shown_onSubmitOperatorPin (bridge : StationStateBridge) (pin : String)
    (now : TimePoint) :
    let submitted := bridge.onSubmitOperatorPin hmac config pin now
    submitted.operatorAuth =
        bridge.operatorAuth.next hmac config ⟨pin, now⟩ ∧
      submitted.context.operatorLockedOut =
        submitted.operatorAuth.isLockedOut now ∧
      submitted.context.operatorLockoutSecondsRemaining =
        submitted.operatorAuth.lockoutRemaining now := by
  intro submitted
  simp only [submitted, StationStateBridge.onSubmitOperatorPin]
  split
  case isTrue accepted =>
    obtain ⟨sameAuth, sameFlag, sameSeconds⟩ := shown_onNavigateTo _
      Page.adminAreaPage
    rw [sameAuth, sameFlag, sameSeconds]
    exact ⟨rfl, rfl, rfl⟩
  case isFalse refused => exact ⟨rfl, rfl, rfl⟩

variable (hmac) in
theorem ends_next {auth : OperatorAuth} {now : TimePoint}
    (ends : ∀ deadline, auth.lockedUntil = some deadline →
      deadline ≤ now + config.lockout) (pin : String) :
    ∀ deadline, (auth.next hmac config ⟨pin, now⟩).lockedUntil =
      some deadline → deadline ≤ now + config.lockout := by
  have outcome := outcome hmac config auth ⟨pin, now⟩
  generalize auth.record hmac config ⟨pin, now⟩ = record at outcome
  generalize auth.next hmac config ⟨pin, now⟩ = next at outcome ⊢
  cases outcome with
  | rejected deadline armed early => exact ends
  | accepted unlocked right =>
      intro deadline isDeadline
      cases isDeadline
  | locked unlocked wrong exhausted =>
      intro deadline isDeadline
      exact (Option.some.inj isDeadline).ge
  | counted unlocked wrong remaining => exact ends

end Bridge

section Invariant

variable (config : OperatorAuthConfig)

/-- The task of a lockout that is shown: it runs and has posted nothing but
updates, or it has ended and its last closure is pending. -/
inductive Working : Bool → List LockoutTask → List Closure → Prop
  | running (locked : Bool) (task : LockoutTask) {updates : List Closure}
      (onlyUpdates : ∀ closure ∈ updates, closure = .updateSeconds) :
      Working locked [task] updates
  | ended {updates : List Closure}
      (onlyUpdates : ∀ closure ∈ updates, closure = .updateSeconds) :
      Working false [] (updates ++ [.finish])

/-- What the screen, the task and the clock have to do with each other. -/
structure Consistent (station : Station) : Prop where
  idle : station.bridge.context.operatorLockedOut = false →
    station.bridge.operatorAuth.isLockedOut station.now = false ∧
      station.tasks = [] ∧ station.queue = []
  busy : station.bridge.context.operatorLockedOut = true →
    Working (station.bridge.operatorAuth.isLockedOut station.now)
      station.tasks station.queue
  atLeast : station.bridge.operatorAuth.lockoutRemaining station.now ≤
    station.bridge.context.operatorLockoutSecondsRemaining
  atMost : station.bridge.context.operatorLockoutSecondsRemaining ≤
    max 0 config.lockoutDuration
  ends : ∀ deadline, station.bridge.operatorAuth.lockedUntil = some deadline →
    deadline ≤ station.now + config.lockout

variable {config}

theorem consistent_new (now : TimePoint) :
    Consistent config { now } where
  idle _ := ⟨rfl, rfl, rfl⟩
  busy shown := by cases shown
  atLeast := le_refl 0
  atMost := le_max_left 0 _
  ends deadline armed := by cases armed

/-- The clock may end the lockout, and the task stays what it is. -/
theorem Working.tick {locked later : Bool} {tasks : List LockoutTask}
    {queue : List Closure} (working : Working locked tasks queue)
    (ends : locked = false → later = false) : Working later tasks queue := by
  cases working with
  | running _ task onlyUpdates => exact .running later task onlyUpdates
  | ended onlyUpdates => exact ends rfl ▸ .ended onlyUpdates

theorem Consistent.tick {station : Station}
    (consistent : Consistent config station) {later : TimePoint}
    (advances : station.now ≤ later) :
    Consistent config { station with now := later } where
  idle shown := by
    obtain ⟨unlocked, idle⟩ := consistent.idle shown
    exact ⟨isLockedOut_false_of_le advances unlocked, idle⟩
  busy shown := (consistent.busy shown).tick
    (isLockedOut_false_of_le advances)
  atLeast := (lockoutRemaining_le_of_le advances).trans consistent.atLeast
  atMost := consistent.atMost
  ends deadline armed := (consistent.ends deadline armed).trans
    (add_le_add_left advances _)

theorem Consistent.navigateTo {station : Station}
    (consistent : Consistent config station) (target : Page) :
    Consistent config
      { station with bridge := station.bridge.onNavigateTo target } := by
  obtain ⟨sameAuth, sameFlag, sameSeconds⟩ :=
    shown_onNavigateTo station.bridge target
  constructor
  · simpa only [sameAuth, sameFlag] using consistent.idle
  · simpa only [sameAuth, sameFlag] using consistent.busy
  · simpa only [sameAuth, sameSeconds] using consistent.atLeast
  · simpa only [sameSeconds] using consistent.atMost
  · simpa only [sameAuth] using consistent.ends

/-- A PIN that starts a lockout starts its only task. -/
theorem Consistent.submit {hmac : String → String → String}
    {station : Station} (consistent : Consistent config station)
    (unlocked : station.bridge.context.operatorLockedOut = false) :
    Consistent config (submit hmac config station) := by
  obtain ⟨_, noTask, noClosure⟩ := consistent.idle unlocked
  obtain ⟨isNext, sameFlag, sameSeconds⟩ :=
    shown_onSubmitOperatorPin hmac config station.bridge
      station.content.text station.now
  have ends := ends_next hmac consistent.ends station.content.text
  rw [← isNext] at ends
  unfold OperatorLockout.submit
  constructor
  · intro shown
    simp only at shown ⊢
    rw [sameFlag] at shown
    rw [if_neg (by simp [shown])]
    exact ⟨shown, noTask, noClosure⟩
  · intro shown
    simp only at shown ⊢
    rw [sameFlag] at shown
    rw [if_pos shown, noTask, noClosure]
    exact .running _ _ nofun
  · exact sameSeconds.ge
  · exact sameSeconds.le.trans (lockoutRemaining_le_duration ends)
  · exact ends

theorem Working.of_found {locked : Bool} {tasks : List LockoutTask}
    {queue : List Closure} (working : Working locked tasks queue) {index : Nat}
    {task : LockoutTask} (found : tasks[index]? = some task) :
    index = 0 ∧ tasks = [task] ∧
      ∀ closure ∈ queue, closure = .updateSeconds := by
  cases working with
  | running _ only onlyUpdates =>
      cases index with
      | zero => exact ⟨rfl, Option.some.inj found ▸ rfl, onlyUpdates⟩
      | succ index => cases found
  | ended onlyUpdates => cases found

theorem Consistent.resume {station next : Station}
    (consistent : Consistent config station) {index : Nat}
    {task : LockoutTask} (found : station.tasks[index]? = some task)
    (resumed : resumeTask station index task = some next) :
    Consistent config next := by
  have shown : station.bridge.context.operatorLockedOut = true := by
    by_contra notShown
    rw [(consistent.idle (Bool.eq_false_iff.mpr notShown)).2.1] at found
    cases found
  obtain ⟨rfl, isOnly, onlyUpdates⟩ := (consistent.busy shown).of_found found
  -- Nothing but the tasks and the queue changes.
  have changed (tasks : List LockoutTask) (queue : List Closure)
      (working : Working
        (station.bridge.operatorAuth.isLockedOut station.now) tasks queue) :
      Consistent config { station with tasks, queue } :=
    { idle := fun notShown => by simp [shown] at notShown
      busy := fun _ => working
      atLeast := consistent.atLeast
      atMost := consistent.atMost
      ends := consistent.ends }
  cases task with
  | checking =>
      simp only [resumeTask, isOnly, List.set_cons_zero, List.eraseIdx_zero,
        List.tail_cons] at resumed
      split at resumed
      case isTrue locked =>
        exact Option.some.inj resumed ▸ changed _ _ (.running _ _ onlyUpdates)
      case isFalse unlocked =>
        refine Option.some.inj resumed ▸ changed _ _ ?_
        rw [Bool.eq_false_iff.mpr unlocked]
        exact .ended onlyUpdates
  | arming =>
      simp only [resumeTask, isOnly, List.set_cons_zero] at resumed
      exact Option.some.inj resumed ▸ changed _ _ (.running _ _ onlyUpdates)
  | waiting expiry =>
      simp only [resumeTask, isOnly, List.set_cons_zero] at resumed
      split at resumed
      case isTrue expired =>
        refine Option.some.inj resumed ▸ changed _ _ (.running _ _ ?_)
        intro closure member
        rcases List.mem_append.mp member with earlier | isNew
        · exact onlyUpdates closure earlier
        · exact List.mem_singleton.mp isNew
      case isFalse early => cases resumed

theorem Working.of_update {locked : Bool} {tasks : List LockoutTask}
    {queue : List Closure}
    (working : Working locked tasks (.updateSeconds :: queue)) :
    Working locked tasks queue := by
  generalize pending : Closure.updateSeconds :: queue = all at working
  cases working with
  | running _ task onlyUpdates =>
      subst pending
      exact .running locked task fun closure member =>
        onlyUpdates closure (List.mem_cons_of_mem _ member)
  | @ended updates onlyUpdates =>
      cases updates with
      | nil => cases pending
      | cons first updates =>
          obtain ⟨-, rfl⟩ := List.cons.inj pending
          exact .ended fun closure member =>
            onlyUpdates closure (List.mem_cons_of_mem _ member)

/-- Nothing comes after the last closure. -/
theorem Working.of_finish {locked : Bool} {tasks : List LockoutTask}
    {queue : List Closure} (working : Working locked tasks (.finish :: queue)) :
    locked = false ∧ tasks = [] ∧ queue = [] := by
  generalize pending : Closure.finish :: queue = all at working
  cases working with
  | running _ task onlyUpdates =>
      subst pending
      cases onlyUpdates .finish List.mem_cons_self
  | @ended updates onlyUpdates =>
      cases updates with
      | nil => exact ⟨rfl, rfl, (List.cons.inj pending).2⟩
      | cons first updates =>
          obtain ⟨rfl, -⟩ := List.cons.inj pending
          cases onlyUpdates .finish List.mem_cons_self

theorem Consistent.perform {station : Station}
    (consistent : Consistent config station) {closure : Closure}
    {queue : List Closure} (isQueue : station.queue = closure :: queue) :
    Consistent config
      { station with
        bridge := closure.perform config station.now station.bridge
        queue } := by
  have shown : station.bridge.context.operatorLockedOut = true := by
    by_contra notShown
    rw [(consistent.idle (Bool.eq_false_iff.mpr notShown)).2.2] at isQueue
    cases isQueue
  have refreshed := lockoutRemaining_le_duration consistent.ends
  have busy := consistent.busy shown
  rw [isQueue] at busy
  cases closure with
  | updateSeconds =>
      exact {
        idle := fun notShown => by simp [Closure.perform, shown] at notShown
        busy := fun _ => busy.of_update
        atLeast := le_rfl
        atMost := refreshed
        ends := consistent.ends }
  | finish =>
      obtain ⟨unlocked, noTask, noClosure⟩ := busy.of_finish
      exact {
        idle := fun _ => ⟨unlocked, noTask, noClosure⟩
        busy := fun shown => by simp [Closure.perform, unlocked] at shown
        atLeast := le_rfl
        atMost := refreshed
        ends := consistent.ends }

theorem Consistent.step {hmac : String → String → String}
    {station next : Station} (consistent : Consistent config station)
    {event : Event} (stepped : step hmac config station event = some next) :
    Consistent config next := by
  cases event with
  | tick later =>
      simp only [OperatorLockout.step] at stepped
      split at stepped
      case isTrue advances =>
        exact Option.some.inj stepped ▸ consistent.tick advances
      case isFalse backwards => cases stepped
  | navigateTo target =>
      exact Option.some.inj stepped ▸ consistent.navigateTo target
  | digit digit =>
      simp only [OperatorLockout.step] at stepped
      split at stepped
      case isTrue disabled => cases stepped
      case isFalse enabled =>
        exact Option.some.inj stepped ▸ { consistent with }
  | clear => exact Option.some.inj stepped ▸ { consistent with }
  | ok =>
      simp only [OperatorLockout.step] at stepped
      split at stepped
      case isTrue enabled =>
        exact Option.some.inj stepped ▸
          consistent.submit (Bool.eq_false_iff.mpr enabled.1)
      case isFalse disabled => cases stepped
  | resume index =>
      simp only [OperatorLockout.step] at stepped
      split at stepped
      case h_1 task found => exact consistent.resume found stepped
      case h_2 => cases stepped
  | runClosure =>
      simp only [OperatorLockout.step] at stepped
      split at stepped
      case h_1 => cases stepped
      case h_2 closure queue isQueue =>
        exact Option.some.inj stepped ▸ consistent.perform isQueue

theorem consistent_of_run {hmac : String → String → String}
    {start : TimePoint} {events : List Event} {station : Station}
    (ran : run (OperatorLockout.step hmac config) { now := start } events =
      some station) : Consistent config station :=
  invariant_of_run (Consistent config)
    (fun _ _ _ consistent stepped => consistent.step stepped)
    (consistent_new start) ran

end Invariant

section Results

variable {hmac : String → String → String} {config : OperatorAuthConfig}
  {start : TimePoint} {events : List Event} {station : Station}

theorem operatorAuth_of_step {event : Event} {next : Station}
    (stepped : step hmac config station event = some next) :
    event = .ok ∨ next.bridge.operatorAuth = station.bridge.operatorAuth := by
  cases event with
  | tick later =>
      simp only [step, Option.ite_none_right_eq_some] at stepped
      exact .inr (Option.some.inj stepped.2 ▸ rfl)
  | navigateTo target =>
      exact .inr (Option.some.inj stepped ▸
        (shown_onNavigateTo station.bridge target).1)
  | digit digit =>
      simp only [step, Option.ite_none_left_eq_some] at stepped
      exact .inr (Option.some.inj stepped.2 ▸ rfl)
  | clear => exact .inr (Option.some.inj stepped ▸ rfl)
  | ok => exact .inl rfl
  | resume index =>
      right
      simp only [step] at stepped
      split at stepped
      case h_1 task found =>
        cases task with
        | checking =>
            simp only [resumeTask] at stepped
            split at stepped <;> exact Option.some.inj stepped ▸ rfl
        | arming => exact Option.some.inj stepped ▸ rfl
        | waiting expiry =>
            simp only [resumeTask, Option.ite_none_right_eq_some] at stepped
            exact Option.some.inj stepped.2 ▸ rfl
      case h_2 => cases stepped
  | runClosure =>
      right
      simp only [step] at stepped
      split at stepped
      case h_1 => cases stepped
      case h_2 closure queue isQueue =>
        obtain rfl := Option.some.inj stepped
        cases closure <;> rfl

theorem Working.length_le {locked : Bool} {tasks : List LockoutTask}
    {queue : List Closure} (working : Working locked tasks queue) :
    tasks.length ≤ 1 := by
  cases working with
  | running => exact le_rfl
  | ended => exact Nat.zero_le 1

/-- The screen never hides a lockout: the flag is set while there is one, and
the seconds on the screen are at least those that remain and at most the
configured duration.  There is one task at most.  What it reads changes only
when a PIN is submitted, and that happens when there is neither a lockout nor a
task nor a closure of one, with one to six digits. -/
theorem lockout_shown
    (ran : run (step hmac config) { now := start } events = some station) :
    (station.bridge.operatorAuth.isLockedOut station.now = true →
        station.bridge.context.operatorLockedOut = true) ∧
      station.bridge.operatorAuth.lockoutRemaining station.now ≤
        station.bridge.context.operatorLockoutSecondsRemaining ∧
      station.bridge.context.operatorLockoutSecondsRemaining ≤
        max 0 config.lockoutDuration ∧
      station.tasks.length ≤ 1 ∧
      (∀ event next, step hmac config station event = some next →
        next.bridge.operatorAuth ≠ station.bridge.operatorAuth →
          event = .ok) ∧
      ((step hmac config station .ok).isSome →
        station.bridge.operatorAuth.isLockedOut station.now = false ∧
          station.tasks = [] ∧ station.queue = [] ∧
          1 ≤ station.content.enteredPin.length ∧
          station.content.enteredPin.length ≤ 6) := by
  have consistent := consistent_of_run ran
  refine ⟨fun locked => ?_, consistent.atLeast, consistent.atMost, ?_, ?_, ?_⟩
  · by_contra notShown
    rw [(consistent.idle (Bool.eq_false_iff.mpr notShown)).1] at locked
    cases locked
  · cases shown : station.bridge.context.operatorLockedOut with
    | false =>
        rw [(consistent.idle shown).2.1]
        exact Nat.zero_le 1
    | true => exact (consistent.busy shown).length_le
  · intro event next stepped changes
    exact (operatorAuth_of_step stepped).resolve_right changes
  · intro enabled
    simp only [step, Option.isSome_ite] at enabled
    obtain ⟨notShown, entered⟩ := enabled
    obtain ⟨unlocked, noTask, noClosure⟩ :=
      consistent.idle (Bool.eq_false_iff.mpr notShown)
    have counted := station.content.counted
    have bounded := station.content.bounded
    exact ⟨unlocked, noTask, noClosure, by omega, by omega⟩

/-- The configuration of the station, with a hash that can be read. -/
def stationConfig : OperatorAuthConfig where
  pinHash := "static000000"
  salt := "static"
  maxAttempts := 3
  lockoutDuration := 10

/-- Three wrong PINs, and the task waits. -/
def threeWrong : List Event :=
  [.digit 1, .ok, .digit 1, .ok, .digit 1, .ok, .resume 0, .resume 0,
    .tick 2500000000]

theorem lockout_shown_threeWrong : ∃ station,
    run (step (fun salt pin => salt ++ pin) stationConfig) { now := 0 }
        threeWrong = some station ∧
      station.bridge.operatorAuth.lockoutRemaining station.now = 7 ∧
      station.bridge.context.operatorLockoutSecondsRemaining = 10 ∧
      station.bridge.context.operatorLockedOut = true := by
  have ran : run (step (fun salt pin => salt ++ pin) stationConfig) { now := 0 }
      threeWrong = some _ := rfl
  exact ⟨_, ran, rfl, rfl, (lockout_shown ran).1 (by decide)⟩

end Results

section Lifting

variable {hmac : String → String → String} {config : OperatorAuthConfig}

/-- The clock advances, the task goes on, or a closure runs. -/
def Background : Event → Prop
  | .tick _ => True
  | .resume _ => True
  | .runClosure => True
  | _ => False

/-- How far a task is from its end when the lockout is over. -/
def workOf (now : TimePoint) : LockoutTask → Nat
  | .checking => 2
  | .arming => 6
  | .waiting expiry => if expiry ≤ now then 4 else 5

def workLeft (station : Station) : Nat :=
  station.queue.length + (station.tasks.map (workOf station.now)).sum

theorem Working.queue_ne_nil {locked : Bool} {queue : List Closure}
    (working : Working locked [] queue) : queue ≠ [] := by
  generalize isTasks : ([] : List LockoutTask) = tasks at working
  cases working with
  | running => cases isTasks
  | ended => exact List.append_ne_nil_of_right_ne_nil _ (List.cons_ne_nil _ _)

variable (hmac) in
/-- When the lockout is over, something can happen that brings the end of what
is shown nearer. -/
theorem exists_nearer {station : Station}
    (consistent : Consistent config station)
    (shown : station.bridge.context.operatorLockedOut = true)
    (unlocked : station.bridge.operatorAuth.isLockedOut station.now = false) :
    ∃ event next, Background event ∧
      step hmac config station event = some next ∧
      next.bridge.operatorAuth.isLockedOut next.now = false ∧
      workLeft next < workLeft station := by
  have busy := consistent.busy shown
  cases tasks : station.tasks with
  | nil =>
      rw [tasks] at busy
      obtain ⟨closure, queue, isQueue⟩ :=
        List.exists_cons_of_ne_nil busy.queue_ne_nil
      refine ⟨.runClosure, _, trivial, by rw [step, isQueue], ?_, ?_⟩
      · cases closure <;> exact unlocked
      · simp [workLeft, isQueue, tasks]
  | cons task rest =>
      have found : station.tasks[0]? = some task := by rw [tasks]; rfl
      obtain ⟨-, isOnly, -⟩ := busy.of_found found
      have resumes : step hmac config station (.resume 0) =
          resumeTask station 0 task := by simp only [step, found]
      cases task with
      | checking =>
          refine ⟨.resume 0, _, trivial, resumes.trans (if_neg ?_), unlocked,
            ?_⟩
          · rw [unlocked]
            exact Bool.false_ne_true
          · simp [workLeft, isOnly, workOf]
      | arming =>
          refine ⟨.resume 0, _, trivial, resumes, unlocked, ?_⟩
          simp [workLeft, isOnly, workOf, nanoseconds]
      | waiting expiry =>
          by_cases expired : expiry ≤ station.now
          · refine ⟨.resume 0, _, trivial, resumes.trans (if_pos expired),
              unlocked, ?_⟩
            simp [workLeft, isOnly, workOf, expired]
          · have advances := le_of_not_ge expired
            refine ⟨.tick expiry, _, trivial, if_pos advances,
              isLockedOut_false_of_le advances unlocked, ?_⟩
            simp [workLeft, isOnly, workOf, expired]

variable (hmac) in
/-- After the lockout, the clock, the task and the event loop alone lift what
is shown. -/
theorem exists_lifted {station : Station}
    (consistent : Consistent config station)
    (unlocked : station.bridge.operatorAuth.isLockedOut station.now = false) :
    ∃ more last, (∀ event ∈ more, Background event) ∧
      run (step hmac config) station more = some last ∧
      last.bridge.context.operatorLockedOut = false := by
  induction work : workLeft station using Nat.strong_induction_on
    generalizing station with
  | _ bound ih =>
      cases shown : station.bridge.context.operatorLockedOut with
      | false => exact ⟨[], station, nofun, rfl, shown⟩
      | true =>
          obtain ⟨event, next, background, stepped, unlockedNext, nearer⟩ :=
            exists_nearer hmac consistent shown unlocked
          obtain ⟨more, last, backgrounds, ran, lifted⟩ :=
            ih _ (work ▸ nearer) (consistent.step stepped) unlockedNext rfl
          refine ⟨event :: more, last, ?_, ?_, lifted⟩
          · exact List.forall_mem_cons.mpr ⟨background, backgrounds⟩
          · exact run_cons_eq_some.mpr ⟨next, stepped, ran⟩

theorem exists_unlocked (auth : OperatorAuth) (now : TimePoint) :
    ∃ later, now ≤ later ∧ auth.isLockedOut later = false := by
  cases armed : auth.lockedUntil with
  | none => exact ⟨now, le_rfl, by simp [OperatorAuth.isLockedOut, armed]⟩
  | some deadline =>
      refine ⟨max now deadline, le_max_left _ _, ?_⟩
      simp [OperatorAuth.isLockedOut, armed]

/-- What is shown of a lockout never stays: from every state that is reached,
the popup takes PINs again after some time, without anybody touching the
screen. -/
theorem lockout_lifted {start : TimePoint} {events : List Event}
    {station : Station}
    (ran : run (step hmac config) { now := start } events = some station) :
    ∃ more last, (∀ event ∈ more, Background event) ∧
      run (step hmac config) station more = some last ∧
      last.bridge.context.operatorLockedOut = false := by
  have consistent := consistent_of_run ran
  obtain ⟨later, advances, unlocked⟩ :=
    exists_unlocked station.bridge.operatorAuth station.now
  obtain ⟨more, last, backgrounds, ranMore, lifted⟩ :=
    exists_lifted hmac (consistent.tick advances) unlocked
  refine ⟨.tick later :: more, last, ?_, ?_, lifted⟩
  · exact List.forall_mem_cons.mpr ⟨trivial, backgrounds⟩
  · exact run_cons_eq_some.mpr ⟨_, if_pos advances, ranMore⟩

theorem lockout_lifted_threeWrong : ∃ station more last,
    run (step (fun salt pin => salt ++ pin) stationConfig) { now := 0 }
        threeWrong = some station ∧
      (∀ event ∈ more, Background event) ∧
      run (step (fun salt pin => salt ++ pin) stationConfig) station more =
        some last ∧
      last.bridge.context.operatorLockedOut = false := by
  have ran : run (step (fun salt pin => salt ++ pin) stationConfig) { now := 0 }
      threeWrong = some _ := rfl
  obtain ⟨more, last, lifted⟩ := lockout_lifted ran
  exact ⟨_, more, last, ran, lifted⟩

end Lifting

end OperatorLockout

end CocktailMaker
