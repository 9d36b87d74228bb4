import Mathlib.Data.List.Count
import Mathlib.Logic.Function.Basic
import CocktailMaker.LabelledRun

/-!
# The manual command popup

Every `ManualCommandPopupOperation` waits on the io thread until the operator
confirms the popup on the Slint thread or until a stop is requested.  All
operations of a recipe share one `AppWindow`: one popup and one handler of its
confirm button.  Work for the Slint thread is queued and runs in order.  A
confirm click and a stop request race for the completion of an operation; the
loser finds it claimed and does nothing.

Operations are numbered, and any number of them may be started at any time, as
the members of a parallel group do that need a refill.  The steps of the two
threads interleave freely.
-/

namespace CocktailMaker

namespace ManualCommandPopup

open LabelledRun

/-- The signal by which an operation completes: `set_value` or
`set_stopped`. -/
inductive Completion
  | confirmed
  | stopped
  deriving DecidableEq, Repr

/-- An operation together with the `PopupState` that it shares with the
callbacks on the Slint thread. -/
structure PopupOperation where
  started : Bool
  /-- The stop token of the receiver. -/
  stopRequested : Bool
  /-- `PopupState::completed`: the completion is claimed. -/
  completed : Bool
  /-- The stop callback is registered. -/
  onStop : Bool
  /-- The popup of this operation has been opened. -/
  opened : Bool
  /-- The signals that the receiver has got. -/
  completions : List Completion
  deriving DecidableEq, Repr

def PopupOperation.fresh : PopupOperation :=
  ⟨false, false, false, false, false, []⟩

/-- What is queued with `invoke_from_event_loop`. -/
inductive SlintClosure
  | openPopup (operation : Nat)
  | closePopup
  deriving DecidableEq, Repr

structure AppWindow where
  operations : Nat → PopupOperation
  slintQueue : List SlintClosure
  popupShown : Bool
  /-- The operation whose state `on_manual_command_confirmed` captures; the
  handler does nothing after it has been reset. -/
  confirmHandler : Option Nat
  /-- Confirmed operations whose completion is posted to the io executor. -/
  posted : List Nat

/-- No operation is started and no popup is shown. -/
def AppWindow.idle : AppWindow :=
  ⟨fun _ => .fresh, [], false, none, []⟩

namespace AppWindow

/-- Change one of the operations. -/
def modify (window : AppWindow) (operation : Nat)
    (change : PopupOperation → PopupOperation) : AppWindow :=
  { window with
    operations := Function.update window.operations operation
      (change (window.operations operation)) }

/-- Queue the closure that hides the popup and resets the confirm handler. -/
def closePopup (window : AppWindow) : AppWindow :=
  { window with slintQueue := window.slintQueue ++ [.closePopup] }

/-- The confirm handler of an operation. -/
def confirm (window : AppWindow) (operation : Nat) : AppWindow :=
  if (window.operations operation).completed then window
  else
    let claimed := window.modify operation fun state =>
      { state with completed := true }
    { claimed.closePopup with posted := window.posted ++ [operation] }

/-- The stop callback of an operation. -/
def finishStopped (window : AppWindow) (operation : Nat) : AppWindow :=
  if (window.operations operation).completed then window
  else
    (window.modify operation fun state =>
      { state with
        completed := true
        onStop := false
        completions := state.completions ++ [.stopped] }).closePopup

/-- The completion that `confirm` posted. -/
def finishConfirmed (window : AppWindow) (operation : Nat) : AppWindow :=
  window.modify operation fun state =>
    { state with
      onStop := false
      completions := state.completions ++ [.confirmed] }

def start (window : AppWindow) (operation : Nat) : AppWindow :=
  if (window.operations operation).stopRequested then
    window.modify operation fun state =>
      { state with
        started := true
        completions := state.completions ++ [.stopped] }
  else
    let registered := window.modify operation fun state =>
      { state with started := true, onStop := true }
    { registered with
      slintQueue := window.slintQueue ++ [.openPopup operation] }

def requestStop (window : AppWindow) (operation : Nat) : AppWindow :=
  let requested := window.modify operation fun state =>
    { state with stopRequested := true }
  if (window.operations operation).onStop then
    requested.finishStopped operation
  else requested

end AppWindow

/-- One closure on the Slint thread. -/
def SlintClosure.invoke (window : AppWindow) : SlintClosure → AppWindow
  | .openPopup operation =>
      if (window.operations operation).completed then window
      else
        { window.modify operation fun state => { state with opened := true } with
          popupShown := true
          confirmHandler := some operation }
  | .closePopup => { window with popupShown := false, confirmHandler := none }

/-- What the two threads do next.  A confirm click needs a popup to click on;
the button closes the popup before it calls the handler. -/
inductive Event
  | start (operation : Nat)
  | requestStop (operation : Nat)
  | runPosted
  | runSlint
  | confirmClick
  deriving DecidableEq, Repr

def step (window : AppWindow) : Event → Option AppWindow
  | .start operation =>
      if (window.operations operation).started then none
      else some (window.start operation)
  | .requestStop operation =>
      if (window.operations operation).stopRequested then none
      else some (window.requestStop operation)
  | .runPosted =>
      match window.posted with
      | [] => none
      | operation :: rest =>
          some ({ window with posted := rest }.finishConfirmed operation)
  | .runSlint =>
      match window.slintQueue with
      | [] => none
      | closure :: rest => some (closure.invoke { window with slintQueue := rest })
  | .confirmClick =>
      if window.popupShown then
        let closed := { window with popupShown := false }
        some (window.confirmHandler.elim closed closed.confirm)
      else none

section Steps

variable {window next : AppWindow} {operation : Nat}

theorem step_start (stepped : step window (.start operation) = some next) :
    (window.operations operation).started = false ∧
      next = window.start operation := by
  simp only [step, Option.ite_none_left_eq_some, Bool.not_eq_true] at stepped
  exact ⟨stepped.1, (Option.some.inj stepped.2).symm⟩

theorem step_requestStop
    (stepped : step window (.requestStop operation) = some next) :
    next = window.requestStop operation := by
  simp only [step, Option.ite_none_left_eq_some] at stepped
  exact (Option.some.inj stepped.2).symm

theorem step_runPosted (stepped : step window .runPosted = some next) :
    ∃ operation rest, window.posted = operation :: rest ∧
      next = { window with posted := rest }.finishConfirmed operation := by
  cases posted : window.posted with
  | nil => simp [step, posted] at stepped
  | cons operation rest =>
      simp only [step, posted, Option.some.injEq] at stepped
      exact ⟨operation, rest, rfl, stepped.symm⟩

theorem step_runSlint (stepped : step window .runSlint = some next) :
    ∃ closure rest, window.slintQueue = closure :: rest ∧
      next = closure.invoke { window with slintQueue := rest } := by
  cases queued : window.slintQueue with
  | nil => simp [step, queued] at stepped
  | cons closure rest =>
      simp only [step, queued, Option.some.injEq] at stepped
      exact ⟨closure, rest, rfl, stepped.symm⟩

theorem step_clicked (stepped : step window .confirmClick = some next) :
    window.popupShown = true ∧
      next = window.confirmHandler.elim { window with popupShown := false }
        { window with popupShown := false }.confirm := by
  simp only [step, Option.ite_none_right_eq_some] at stepped
  exact ⟨stepped.1, (Option.some.inj stepped.2).symm⟩

end Steps

section Operations

variable {window : AppWindow} {operation : Nat}

@[simp]
theorem modify_operations_self (change : PopupOperation → PopupOperation) :
    (window.modify operation change).operations operation =
      change (window.operations operation) :=
  Function.update_self ..

theorem modify_operations_of_ne {other : Nat} (distinct : other ≠ operation)
    (change : PopupOperation → PopupOperation) :
    (window.modify operation change).operations other =
      window.operations other :=
  Function.update_of_ne distinct ..

end Operations

/-! ### Each operation completes at most once

An operation and the number of its posted completions are described together:
whoever claims the completion delivers the only signal, or posts it. -/

/-- The operation was started without a stop request: until it completes, its
stop callback is registered. -/
def PopupOperation.Launched (state : PopupOperation) : Prop :=
  state.started = true ∧ (state.completed = false → state.onStop = true)

structure CompletesOnce (state : PopupOperation) (pending : Nat) : Prop where
  unstarted : state.started = false →
    state.completed = false ∧ state.onStop = false ∧ state.completions = []
  launched : state.onStop = true ∨ state.opened = true → state.Launched
  waiting : state.Launched → state.completed = false → state.completions = []
  claimed : 0 < pending → state.completed = true
  once : state.completions.length + pending ≤ 1

namespace CompletesOnce

variable {state : PopupOperation} {pending : Nat}

theorem fresh : CompletesOnce .fresh 0 := by
  constructor <;> simp [PopupOperation.fresh, PopupOperation.Launched]

theorem pending_eq_zero (completesOnce : CompletesOnce state pending)
    (unclaimed : state.completed = false) : pending = 0 := by
  by_contra posted
  have claimed := completesOnce.claimed (Nat.pos_of_ne_zero posted)
  simp [unclaimed] at claimed

theorem requestStop (completesOnce : CompletesOnce state pending) :
    CompletesOnce { state with stopRequested := true } pending :=
  ⟨completesOnce.unstarted, completesOnce.launched, completesOnce.waiting,
    completesOnce.claimed, completesOnce.once⟩

theorem startStopped (completesOnce : CompletesOnce state pending)
    (unstarted : state.started = false) :
    CompletesOnce
      { state with
        started := true
        completions := state.completions ++ [.stopped] } pending := by
  obtain ⟨unclaimed, unregistered, silent⟩ := completesOnce.unstarted unstarted
  have nothingPosted := completesOnce.pending_eq_zero unclaimed
  have unopened : state.opened ≠ true := fun opened =>
    absurd (completesOnce.launched (.inr opened)).1 (by simp [unstarted])
  constructor <;>
    simp [PopupOperation.Launched, unclaimed, unregistered, unopened, silent,
      nothingPosted]

theorem register (completesOnce : CompletesOnce state pending)
    (unstarted : state.started = false) :
    CompletesOnce { state with started := true, onStop := true } pending := by
  obtain ⟨unclaimed, -, silent⟩ := completesOnce.unstarted unstarted
  have nothingPosted := completesOnce.pending_eq_zero unclaimed
  constructor <;>
    simp [PopupOperation.Launched, silent, nothingPosted]

theorem openPopup (completesOnce : CompletesOnce state pending)
    (launched : state.Launched) :
    CompletesOnce { state with opened := true } pending :=
  ⟨completesOnce.unstarted, fun _ => launched, completesOnce.waiting,
    completesOnce.claimed, completesOnce.once⟩

theorem confirm (completesOnce : CompletesOnce state pending)
    (launched : state.Launched) (unclaimed : state.completed = false) :
    CompletesOnce { state with completed := true } (pending + 1) := by
  have silent := completesOnce.waiting launched unclaimed
  have nothingPosted := completesOnce.pending_eq_zero unclaimed
  constructor <;>
    simp [PopupOperation.Launched, launched.1, silent, nothingPosted]

theorem finishStopped (completesOnce : CompletesOnce state pending)
    (launched : state.Launched) (unclaimed : state.completed = false) :
    CompletesOnce
      { state with
        completed := true
        onStop := false
        completions := state.completions ++ [.stopped] } pending := by
  have silent := completesOnce.waiting launched unclaimed
  have nothingPosted := completesOnce.pending_eq_zero unclaimed
  constructor <;>
    simp [PopupOperation.Launched, launched.1, silent, nothingPosted]

theorem finishConfirmed (completesOnce : CompletesOnce state (pending + 1)) :
    CompletesOnce
      { state with
        onStop := false
        completions := state.completions ++ [.confirmed] } pending := by
  have claimed := completesOnce.claimed pending.succ_pos
  have atMostOne := completesOnce.once
  have started : state.started = true := by
    by_contra unstarted
    have unclaimed := (completesOnce.unstarted (by simpa using unstarted)).1
    simp [claimed] at unclaimed
  constructor
  case once => simp; omega
  all_goals simp [PopupOperation.Launched, claimed, started]

end CompletesOnce

/-! ### The popup and its handler

All operations share one popup and one handler, and each operation queues the
closure that closes the popup when its completion is claimed.  So a handler
whose operation has completed does not survive the queue. -/

/-- Behind each queued popup of a completed operation the closure that closes
the popup is queued. -/
def ClosesBehind (completed : Nat → Bool) : List SlintClosure → Prop
  | [] => True
  | .openPopup operation :: rest =>
      (completed operation = true → .closePopup ∈ rest) ∧
        ClosesBehind completed rest
  | .closePopup :: rest => ClosesBehind completed rest

/-- Once the popup is going to be closed, it does not matter which operations
have completed. -/
theorem closesBehind_concat_closePopup (completed : Nat → Bool)
    (queue : List SlintClosure) :
    ClosesBehind completed (queue ++ [.closePopup]) := by
  induction queue with
  | nil => trivial
  | cons closure rest ih =>
      cases closure with
      | openPopup operation => exact ⟨fun _ => by simp, ih⟩
      | closePopup => exact ih

theorem ClosesBehind.concat_openPopup {completed : Nat → Bool}
    {queue : List SlintClosure} {operation : Nat}
    (closesBehind : ClosesBehind completed queue)
    (unclaimed : completed operation = false) :
    ClosesBehind completed (queue ++ [.openPopup operation]) := by
  induction queue with
  | nil => exact ⟨by simp [unclaimed], trivial⟩
  | cons closure rest ih =>
      cases closure with
      | openPopup other =>
          exact ⟨fun claimed => by simp [closesBehind.1 claimed],
            ih closesBehind.2⟩
      | closePopup => exact ih closesBehind

namespace AppWindow

/-- The completion of an operation is claimed. -/
def completed (window : AppWindow) (operation : Nat) : Bool :=
  (window.operations operation).completed

structure Consistent (window : AppWindow) : Prop where
  completesOnce : ∀ operation, CompletesOnce (window.operations operation)
    (window.posted.count operation)
  launched : ∀ operation, .openPopup operation ∈ window.slintQueue →
    (window.operations operation).Launched
  closesBehind : ClosesBehind window.completed window.slintQueue
  handler : ∀ operation, window.confirmHandler = some operation →
    (window.operations operation).opened = true ∧
      (.closePopup ∈ window.slintQueue ∨
        window.completed operation = false ∧ window.popupShown = true)
  shown : window.popupShown = true → window.confirmHandler.isSome = true

theorem consistent_idle : idle.Consistent :=
  ⟨fun _ => .fresh, by simp [idle], trivial, by simp [idle], by simp [idle]⟩

variable {window : AppWindow} {operation : Nat}
  {change : PopupOperation → PopupOperation}

theorem forall_modify (Holds : Nat → PopupOperation → Prop)
    (others : ∀ other, other ≠ operation →
      Holds other (window.operations other))
    (changed : Holds operation (change (window.operations operation)))
    (other : Nat) :
    Holds other ((window.modify operation change).operations other) := by
  by_cases same : other = operation
  · subst other
    simpa using changed
  · rw [modify_operations_of_ne same]
    exact others other same

theorem modify_completed
    (kept : (change (window.operations operation)).completed =
      (window.operations operation).completed) :
    (window.modify operation change).completed = window.completed :=
  funext <| forall_modify
    (fun other state => state.completed = window.completed other)
    (fun _ _ => rfl) kept

/-- Changes of an operation that neither claim its completion nor take back
what has happened to it keep the popup consistent. -/
theorem Consistent.modify (consistent : window.Consistent)
    (posted : List Nat)
    (others : ∀ other, other ≠ operation →
      posted.count other = window.posted.count other)
    (completesOnce : CompletesOnce (change (window.operations operation))
      (posted.count operation))
    (launched : (window.operations operation).Launched →
      (change (window.operations operation)).Launched)
    (opened : (window.operations operation).opened = true →
      (change (window.operations operation)).opened = true)
    (kept : (change (window.operations operation)).completed =
      (window.operations operation).completed) :
    ({ window with posted := posted }.modify operation change).Consistent where
  completesOnce := forall_modify
    (fun other state => CompletesOnce state (posted.count other))
    (fun other distinct => others other distinct ▸
      consistent.completesOnce other) completesOnce
  launched := forall_modify
    (fun other state => .openPopup other ∈ window.slintQueue → state.Launched)
    (fun other _ => consistent.launched other)
    (fun queued => launched (consistent.launched operation queued))
  closesBehind := by
    rw [modify_completed (by exact kept)]
    exact consistent.closesBehind
  handler := by
    rw [modify_completed (by exact kept)]
    refine forall_modify
      (fun other state => window.confirmHandler = some other →
        state.opened = true ∧ (.closePopup ∈ window.slintQueue ∨
          window.completed other = false ∧ window.popupShown = true))
      (fun other _ => consistent.handler other) ?_
    intro isHandler
    obtain ⟨isOpened, pending⟩ := consistent.handler operation isHandler
    exact ⟨opened isOpened, pending⟩
  shown := consistent.shown

/-- Claiming the completion queues the closure that closes the popup, and the
completion is delivered or posted. -/
theorem Consistent.claim (consistent : window.Consistent)
    {next : AppWindow} (operation : Nat) {claimed : PopupOperation}
    (operations : next.operations =
      (window.modify operation fun _ => claimed).operations)
    (slintQueue : next.slintQueue = window.slintQueue ++ [.closePopup])
    (confirmHandler : next.confirmHandler = window.confirmHandler)
    (shown : next.popupShown = true → window.popupShown = true)
    (others : ∀ other, other ≠ operation →
      next.posted.count other = window.posted.count other)
    (completesOnce : CompletesOnce claimed (next.posted.count operation))
    (launched : claimed.Launched)
    (opened : (window.operations operation).opened = true →
      claimed.opened = true) :
    next.Consistent where
  completesOnce := by
    rw [operations]
    exact forall_modify
      (fun other state => CompletesOnce state (next.posted.count other))
      (fun other distinct => others other distinct ▸
        consistent.completesOnce other) completesOnce
  launched := by
    rw [operations, slintQueue]
    refine forall_modify
      (fun other state =>
        .openPopup other ∈ window.slintQueue ++ [.closePopup] → state.Launched)
      (fun other _ queued => ?_) ?_
    · exact consistent.launched other (by simpa using queued)
    · exact fun _ => launched
  closesBehind := slintQueue ▸ closesBehind_concat_closePopup ..
  handler := by
    rw [operations, slintQueue, confirmHandler]
    intro other isHandler
    refine ⟨?_, .inl (by simp)⟩
    exact forall_modify
      (fun other state => window.confirmHandler = some other →
        state.opened = true)
      (fun other _ isHandler => (consistent.handler other isHandler).1)
      (fun isHandler => opened (consistent.handler operation isHandler).1)
      other isHandler
  shown := fun nextShown => confirmHandler ▸ consistent.shown (shown nextShown)

theorem Consistent.start (consistent : window.Consistent)
    (unstarted : (window.operations operation).started = false) :
    (window.start operation).Consistent := by
  have completesOnce := consistent.completesOnce operation
  have unclaimed := (completesOnce.unstarted unstarted).1
  have notLaunched : ¬(window.operations operation).Launched := fun launched =>
    by simp [launched.1] at unstarted
  unfold AppWindow.start
  split
  case isTrue =>
    exact consistent.modify window.posted (fun _ _ => rfl)
      (completesOnce.startStopped unstarted)
      (fun launched => absurd launched notLaunched) id rfl
  case isFalse =>
    let registered := window.modify operation fun state =>
      { state with started := true, onStop := true }
    have consistent : registered.Consistent :=
      consistent.modify window.posted (fun _ _ => rfl)
        (completesOnce.register unstarted)
        (fun launched => absurd launched notLaunched) id rfl
    have unclaimed : registered.completed operation = false := by
      simpa [registered, completed] using unclaimed
    refine ⟨consistent.completesOnce, ?_,
      consistent.closesBehind.concat_openPopup unclaimed, ?_,
      consistent.shown⟩
    · intro other queued
      rcases List.mem_append.mp queued with queued | last
      · exact consistent.launched other queued
      · obtain rfl : other = operation := by simpa using last
        simp [PopupOperation.Launched]
    · intro other isHandler
      obtain ⟨opened, pending⟩ := consistent.handler other isHandler
      exact ⟨opened, pending.imp_left (List.mem_append_left _)⟩

theorem Consistent.finishStopped (consistent : window.Consistent)
    (registered : (window.operations operation).onStop = true) :
    (window.finishStopped operation).Consistent := by
  have completesOnce := consistent.completesOnce operation
  have launched := completesOnce.launched (.inl registered)
  unfold AppWindow.finishStopped
  split
  case isTrue => exact consistent
  case isFalse unclaimed =>
    rw [Bool.not_eq_true] at unclaimed
    exact consistent.claim operation rfl rfl rfl id (fun _ _ => rfl)
      (completesOnce.finishStopped launched unclaimed)
      ⟨launched.1, nofun⟩ id

theorem Consistent.requestStop (consistent : window.Consistent) :
    (window.requestStop operation).Consistent := by
  have requested : (window.modify operation fun state =>
      { state with stopRequested := true }).Consistent :=
    consistent.modify window.posted (fun _ _ => rfl)
      (consistent.completesOnce operation).requestStop id id rfl
  unfold AppWindow.requestStop
  split
  case isTrue registered =>
    exact requested.finishStopped (by simpa using registered)
  case isFalse => exact requested

/-- The button closes the popup before the handler runs, so the handler of a
completed operation still has its closing closure queued. -/
theorem Consistent.confirm (consistent : window.Consistent)
    (isHandler : window.confirmHandler = some operation) :
    ({ window with popupShown := false }.confirm operation).Consistent := by
  have completesOnce := consistent.completesOnce operation
  obtain ⟨opened, pending⟩ := consistent.handler operation isHandler
  have launched := completesOnce.launched (.inr opened)
  unfold AppWindow.confirm
  split
  case isTrue claimed =>
    refine ⟨consistent.completesOnce, consistent.launched,
      consistent.closesBehind, ?_, nofun⟩
    intro other otherIsHandler
    obtain rfl : operation = other :=
      Option.some.inj (isHandler.symm.trans otherIsHandler)
    refine ⟨opened, .inl (pending.resolve_right ?_)⟩
    rintro ⟨unclaimed, -⟩
    exact absurd claimed (by simpa [completed] using unclaimed)
  case isFalse unclaimed =>
    rw [Bool.not_eq_true] at unclaimed
    refine consistent.claim operation rfl rfl rfl nofun
      (fun other distinct => ?_) ?_ ⟨launched.1, nofun⟩ id
    · simp [distinct.symm]
    · simpa [closePopup] using completesOnce.confirm launched unclaimed

theorem Consistent.runPosted {rest : List Nat}
    (consistent : window.Consistent)
    (posted : window.posted = operation :: rest) :
    ({ window with posted := rest }.finishConfirmed operation).Consistent := by
  have completesOnce := consistent.completesOnce operation
  have claimed := completesOnce.claimed (by simp [posted])
  apply consistent.modify rest
  case others =>
    intro other distinct
    simp [posted, distinct.symm]
  case completesOnce =>
    rw [posted, List.count_cons_self] at completesOnce
    exact completesOnce.finishConfirmed
  case launched => simp [PopupOperation.Launched, claimed]
  case opened => exact id
  case kept => rfl

theorem Consistent.reset {closure : SlintClosure} {rest : List SlintClosure}
    (consistent : window.Consistent)
    (queued : window.slintQueue = closure :: rest) :
    Consistent
      { window with
        slintQueue := rest
        popupShown := false
        confirmHandler := none } := by
  have closesBehind := consistent.closesBehind
  rw [queued] at closesBehind
  refine ⟨consistent.completesOnce, ?_, ?_, nofun, nofun⟩
  · intro operation member
    exact consistent.launched operation
      (queued ▸ List.mem_cons_of_mem _ member)
  · cases closure with
    | openPopup operation => exact closesBehind.2
    | closePopup => exact closesBehind

theorem Consistent.show (consistent : window.Consistent)
    (opened : (window.operations operation).opened = true)
    (unclaimed : window.completed operation = false) :
    Consistent
      { window with popupShown := true, confirmHandler := some operation } := by
  refine ⟨consistent.completesOnce, consistent.launched,
    consistent.closesBehind, ?_, fun _ => rfl⟩
  intro other isHandler
  obtain rfl : operation = other := Option.some.inj isHandler
  exact ⟨opened, .inr ⟨unclaimed, rfl⟩⟩

theorem Consistent.runSlint {closure : SlintClosure}
    {rest : List SlintClosure} (consistent : window.Consistent)
    (queued : window.slintQueue = closure :: rest) :
    (closure.invoke { window with slintQueue := rest }).Consistent := by
  have reset := consistent.reset queued
  cases closure with
  | closePopup => exact reset
  | openPopup operation =>
      simp only [SlintClosure.invoke]
      split
      case isTrue claimed =>
        refine ⟨reset.completesOnce, reset.launched, reset.closesBehind, ?_,
          consistent.shown⟩
        intro other isHandler
        refine ⟨(consistent.handler other isHandler).1, .inl ?_⟩
        exact (queued ▸ consistent.closesBehind).1 claimed
      case isFalse unclaimed =>
        have launched := consistent.launched operation (by simp [queued])
        let hidden : AppWindow :=
          { window with
            slintQueue := rest
            popupShown := false
            confirmHandler := none }
        have opened : (hidden.modify operation fun state =>
            { state with opened := true }).Consistent :=
          reset.modify window.posted (fun _ _ => rfl)
            ((consistent.completesOnce operation).openPopup launched)
            (fun _ => launched) (fun _ => rfl) rfl
        refine opened.show (by simp) ?_
        simpa [completed, hidden] using unclaimed

end AppWindow

open AppWindow

theorem consistent_step {window next : AppWindow} {event : Event}
    (consistent : window.Consistent) (stepped : step window event = some next) :
    next.Consistent := by
  cases event with
  | start operation =>
      obtain ⟨unstarted, rfl⟩ := step_start stepped
      exact consistent.start unstarted
  | requestStop operation =>
      obtain rfl := step_requestStop stepped
      exact consistent.requestStop
  | runPosted =>
      obtain ⟨operation, rest, posted, rfl⟩ := step_runPosted stepped
      exact consistent.runPosted posted
  | runSlint =>
      obtain ⟨closure, rest, queued, rfl⟩ := step_runSlint stepped
      exact consistent.runSlint queued
  | confirmClick =>
      obtain ⟨shown, rfl⟩ := step_clicked stepped
      cases isHandler : window.confirmHandler with
      | none => simpa [isHandler] using consistent.shown shown
      | some operation =>
          have confirmed := consistent.confirm isHandler
          rwa [isHandler] at confirmed

theorem consistent_of_run {events : List Event} {last : AppWindow}
    (ran : run step idle events = some last) : last.Consistent :=
  invariant_of_run Consistent (fun _ _ _ => consistent_step) consistent_idle ran

/-! ### Opened operations and the confirm button

Closing the popup on behalf of one operation resets the handler, whichever
operation it belongs to by then.  So operations that wait are served exactly as
long as the last closing closure in the queue finds none of them. -/

/-- The popup of the operation has been opened and it has not completed. -/
def AppWindow.Waits (window : AppWindow) (operation : Nat) : Prop :=
  (window.operations operation).opened = true ∧
    window.completed operation = false

/-- No operation gets more than one completion signal. -/
def AppWindow.CompletesAtMostOnce (window : AppWindow) : Prop :=
  ∀ operation, (window.operations operation).completions.length ≤ 1

/-- When the Slint thread has nothing queued and some operation waits, a
confirm click claims the completion of a waiting operation and posts it. -/
def AppWindow.ClickCompletes (window : AppWindow) : Prop :=
  window.slintQueue = [] → (∃ operation, window.Waits operation) →
    ∃ operation next, window.Waits operation ∧
      step window .confirmClick = some next ∧
        next.completed operation = true ∧ operation ∈ next.posted

/-- When the Slint thread has nothing queued and some operation waits, the
confirm button has a handler. -/
def AppWindow.Served (window : AppWindow) : Prop :=
  window.slintQueue = [] → (∃ operation, window.Waits operation) →
    window.confirmHandler.isSome = true

theorem step_confirmClick {window : AppWindow} {operation : Nat}
    (shown : window.popupShown = true)
    (isHandler : window.confirmHandler = some operation) :
    step window .confirmClick =
      some ({ window with popupShown := false }.confirm operation) := by
  simp [step, shown, isHandler]

@[simp]
theorem confirm_confirmHandler (window : AppWindow) (operation : Nat) :
    (window.confirm operation).confirmHandler = window.confirmHandler := by
  unfold confirm
  split <;> rfl

theorem confirm_of_unclaimed {window : AppWindow} {operation : Nat}
    (unclaimed : window.completed operation = false) :
    (window.confirm operation).completed operation = true ∧
      operation ∈ (window.confirm operation).posted := by
  rw [completed] at unclaimed
  simp [confirm, closePopup, completed, unclaimed]

theorem AppWindow.Consistent.clickCompletes_iff {window : AppWindow}
    (consistent : window.Consistent) :
    window.ClickCompletes ↔ window.Served := by
  constructor
  · intro clickCompletes drained waiting
    obtain ⟨operation, next, -, clicked, -⟩ := clickCompletes drained waiting
    exact consistent.shown (step_clicked clicked).1
  · intro served drained waiting
    obtain ⟨operation, isHandler⟩ :=
      Option.isSome_iff_exists.mp (served drained waiting)
    obtain ⟨opened, pending⟩ := consistent.handler operation isHandler
    obtain ⟨unclaimed, shown⟩ := pending.resolve_left (by simp [drained])
    exact ⟨operation, _, ⟨opened, unclaimed⟩,
      step_confirmClick shown isHandler, confirm_of_unclaimed unclaimed⟩

section Served

variable {window next : AppWindow} {operation : Nat}

theorem AppWindow.Served.of_handler
    (handler : window.confirmHandler.isSome = true) : window.Served :=
  fun _ _ => handler

theorem AppWindow.Served.of_queued (queued : window.slintQueue ≠ []) :
    window.Served :=
  fun drained => absurd drained queued

theorem AppWindow.Served.of_waits (served : window.Served)
    (slintQueue : next.slintQueue = [] → window.slintQueue = [])
    (waits : ∀ operation, next.Waits operation → window.Waits operation)
    (confirmHandler : next.confirmHandler = window.confirmHandler) :
    next.Served := by
  rintro drained ⟨operation, waiting⟩
  rw [confirmHandler]
  exact served (slintQueue drained) ⟨operation, waits operation waiting⟩

theorem waits_of_modify {change : PopupOperation → PopupOperation}
    (kept : (change (window.operations operation)).opened = true →
      (change (window.operations operation)).completed = false →
        window.Waits operation)
    (other : Nat) (waiting : (window.modify operation change).Waits other) :
    window.Waits other := by
  by_cases same : other = operation
  · subst other
    simp only [Waits, completed, modify_operations_self] at waiting
    exact kept waiting.1 waiting.2
  · simpa only [Waits, completed, modify_operations_of_ne same] using waiting

theorem AppWindow.Served.start (served : window.Served)
    (unopened : (window.operations operation).opened = false) :
    (window.start operation).Served := by
  unfold AppWindow.start
  split
  case isTrue =>
    refine served.of_waits id (waits_of_modify fun opened => ?_) rfl
    simp [unopened] at opened
  case isFalse => exact Served.of_queued (by simp)

theorem AppWindow.Served.finishStopped (served : window.Served) :
    (window.finishStopped operation).Served := by
  unfold AppWindow.finishStopped
  split
  case isTrue => exact served
  case isFalse => exact Served.of_queued (by simp [closePopup])

theorem AppWindow.Served.requestStop (served : window.Served) :
    (window.requestStop operation).Served := by
  have requested : (window.modify operation fun state =>
      { state with stopRequested := true }).Served :=
    served.of_waits id
      (waits_of_modify fun opened unclaimed => ⟨opened, unclaimed⟩) rfl
  unfold AppWindow.requestStop
  split
  case isTrue => exact requested.finishStopped
  case isFalse => exact requested

theorem AppWindow.Served.runPosted {rest : List Nat} (served : window.Served) :
    ({ window with posted := rest }.finishConfirmed operation).Served :=
  served.of_waits id
    (waits_of_modify fun opened unclaimed => ⟨opened, unclaimed⟩) rfl

theorem AppWindow.Served.runSlint {closure : SlintClosure}
    {rest : List SlintClosure} (consistent : window.Consistent)
    (queued : window.slintQueue = closure :: rest)
    (noneWaits : window.slintQueue = [.closePopup] →
      ∀ operation, ¬window.Waits operation) :
    (closure.invoke { window with slintQueue := rest }).Served := by
  cases closure with
  | closePopup =>
      rintro drained ⟨operation, waiting⟩
      obtain rfl : rest = [] := drained
      exact absurd waiting (noneWaits queued operation)
  | openPopup operation =>
      simp only [SlintClosure.invoke]
      split
      case isTrue claimed =>
        apply Served.of_queued
        have closes := (queued ▸ consistent.closesBehind).1 claimed
        exact List.ne_nil_of_mem closes
      case isFalse => exact Served.of_handler rfl

end Served

theorem served_step {window next : AppWindow} {event : Event}
    (consistent : window.Consistent) (served : window.Served)
    (noneWaits : event = .runSlint → window.slintQueue = [.closePopup] →
      ∀ operation, ¬window.Waits operation)
    (stepped : step window event = some next) : next.Served := by
  cases event with
  | start operation =>
      obtain ⟨unstarted, rfl⟩ := step_start stepped
      have launched := (consistent.completesOnce operation).launched
      refine served.start ?_
      by_contra opened
      have started := (launched (.inr (by simpa using opened))).1
      simp [unstarted] at started
  | requestStop operation =>
      obtain rfl := step_requestStop stepped
      exact served.requestStop
  | runPosted =>
      obtain ⟨operation, rest, posted, rfl⟩ := step_runPosted stepped
      exact served.runPosted
  | runSlint =>
      obtain ⟨closure, rest, queued, rfl⟩ := step_runSlint stepped
      exact Served.runSlint consistent queued (noneWaits rfl)
  | confirmClick =>
      obtain ⟨shown, rfl⟩ := step_clicked stepped
      obtain ⟨operation, isHandler⟩ :=
        Option.isSome_iff_exists.mp (consistent.shown shown)
      apply Served.of_handler
      simp [isHandler]

/-- Each operation completes at most once, confirmed or stopped.  A confirm
click serves the operations that wait, as long as the Slint thread has nothing
queued, in every state of exactly those runs in which no popup is closed as the
last queued work of the Slint thread while an operation waits. -/
theorem waits_not_orphaned_iff (events : List Event) :
    Always step CompletesAtMostOnce idle events ∧
      (Always step ClickCompletes idle events ↔
        ∀ before after window, events = before ++ .runSlint :: after →
          run step idle before = some window →
            window.slintQueue = [.closePopup] →
              ∀ operation, ¬window.Waits operation) := by
  refine ⟨?_, ?_, ?_⟩
  · intro visited window _ ran operation
    have atMostOne := ((consistent_of_run ran).completesOnce operation).once
    omega
  · rintro always before after window rfl ran queued operation waiting
    have stepped : step window .runSlint = some
        (SlintClosure.closePopup.invoke { window with slintQueue := [] }) := by
      simp [step, queued]
    have clickCompletes := always (before ++ [.runSlint]) _
      (by simp) (run_concat_eq_some.mpr ⟨window, ran, stepped⟩)
    obtain ⟨_, _, _, clicked, _⟩ := clickCompletes rfl ⟨operation, waiting⟩
    simp [step, SlintClosure.invoke] at clicked
  · intro noneWaits visited window isPrefix ran
    refine (consistent_of_run ran).clickCompletes_iff.mpr ?_
    refine history_of_run
      (fun visited window => visited <+: events → window.Served)
      (fun _ => ?_) ?_ ran isPrefix
    · rintro - ⟨operation, opened, -⟩
      simp [idle, PopupOperation.fresh] at opened
    · intro visited window event next ran served stepped isPrefix
      obtain ⟨after, rfl⟩ := isPrefix
      refine served_step (consistent_of_run ran)
        (served ⟨event :: after, by simp⟩) ?_ stepped
      rintro rfl
      exact noneWaits visited after window (by simp) ran

/-- Two refills of a parallel group open the popup one after the other.  The
click confirms the second one, and closing the popup takes the handler away
from the button while the first one still waits. -/
theorem first_refill_orphaned :
    ¬∀ events : List Event, Always step CompletesAtMostOnce idle events ∧
      Always step ClickCompletes idle events := by
  intro claimed
  let events : List Event :=
    [.start 0, .start 1, .runSlint, .runSlint, .confirmClick, .runSlint]
  obtain ⟨orphaned, ran, drained, waiting, noClick⟩ :
      ∃ orphaned, run step idle events = some orphaned ∧
        orphaned.slintQueue = [] ∧ orphaned.Waits 0 ∧
          step orphaned .confirmClick = none :=
    ⟨_, rfl, rfl, by constructor <;> rfl, rfl⟩
  obtain ⟨_, _, _, clicked, _⟩ :=
    (claimed events).2 events orphaned List.prefix_rfl ran drained ⟨0, waiting⟩
  simp [noClick] at clicked

end ManualCommandPopup

end CocktailMaker
