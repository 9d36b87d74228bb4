import CocktailMaker.SerialPodDiscovery

/-!
# Refused pods

`open_pod` refuses a pod that is already open.  The entry by which it knows
lives until the monitor reports the removal of the devnode, while the session
ends on its own, for one of several reasons that leave the tty in place.  From
then on the pod is refused although nothing uses it, until a removal frees the
entry.
-/

namespace CocktailMaker

namespace SerialPodDiscovery

open LabelledRun DiscoveryState

/-- A session of the pod has not ended. -/
def DiscoveryState.InUse (state : DiscoveryState) (id : PodHardwareId) : Prop :=
  ∃ session ∈ state.running, session.role = .protocol ∧ session.identity = id

/-- Whenever the run refuses to open a pod, the pod is in use. -/
def RefusesOnlyInUse (start : DiscoveryState) (events : List Event) : Prop :=
  ∀ before event after state id, events = before ++ event :: after →
    run step start before = some state →
      Refuses state event .protocol id → state.InUse id

section Steps

variable {state next : DiscoveryState} {event : Event} {id : PodHardwareId}

theorem inUse_of_opens (stepped : step state event = some next)
    (opens : Opens state event .protocol id) : next.InUse id := by
  obtain ⟨session, isProtocol, sameId, -, -, appended⟩ :=
    running_of_opens stepped opens
  exact ⟨session, by simp [appended], isProtocol, sameId⟩

theorem inUse_step (stepped : step state event = some next)
    (inUse : state.InUse id) :
    next.InUse id ∨ ∃ number reason, event = .endSession number reason := by
  obtain ⟨session, running, isProtocol, sameId⟩ := inUse
  by_cases opens : ∃ role id, Opens state event role id
  · obtain ⟨role, id, opens⟩ := opens
    obtain ⟨new, -, -, -, -, appended⟩ := running_of_opens stepped opens
    exact .inl ⟨session, by simp [appended, running], isProtocol, sameId⟩
  · rcases running_of_not_opens stepped (by simpa using opens) with
      same | ⟨number, reason, isEnd, -⟩
    · exact .inl ⟨session, same ▸ running, isProtocol, sameId⟩
    · exact .inr ⟨number, reason, isEnd⟩

theorem unused_step (stepped : step state event = some next)
    (held : id ∈ state.table .protocol) (unused : ¬state.InUse id)
    (notFreed : ¬Frees state event .protocol id) :
    id ∈ next.table .protocol ∧ ¬next.InUse id := by
  refine ⟨(mem_table_step stepped .protocol id).mpr (.inr ⟨held, notFreed⟩), ?_⟩
  rintro ⟨session, running, isProtocol, sameId⟩
  by_cases opens : ∃ role id, Opens state event role id
  · obtain ⟨role, other, opens⟩ := opens
    have ⟨_, _, _, _, absent, _⟩ := opens
    obtain ⟨new, rfl, rfl, -, -, appended⟩ := running_of_opens stepped opens
    rw [appended, List.mem_append, List.mem_singleton] at running
    rcases running with running | rfl
    · exact unused ⟨session, running, isProtocol, sameId⟩
    · exact absent (isProtocol ▸ sameId ▸ held)
  · have sublist :=
      running_sublist_of_not_opens stepped (by simpa using opens)
    exact unused ⟨session, sublist.subset running, isProtocol, sameId⟩

end Steps

section Runs

variable {start : DiscoveryState}

/-- A removal that is handled after `before`, within `middle`, frees the entry
of the pod. -/
def FreedWithin (start : DiscoveryState) (before middle : List Event)
    (id : PodHardwareId) : Prop :=
  ∃ first release rest state, middle = first ++ release :: rest ∧
    run step start (before ++ first) = some state ∧
      Frees state release .protocol id

theorem freedWithin_concat {before middle : List Event} {event : Event}
    {id : PodHardwareId}
    (freed : FreedWithin start before (middle ++ [event]) id) :
    FreedWithin start before middle id ∨
      ∃ state, run step start (before ++ middle) = some state ∧
        Frees state event .protocol id := by
  obtain ⟨first, release, rest, state, split, ran, frees⟩ := freed
  rcases List.eq_nil_or_concat rest with rfl | ⟨shorter, final, rfl⟩
  · obtain ⟨rfl, isEvent⟩ := List.append_inj' split rfl
    obtain rfl : event = release := by simpa using isEvent
    exact .inr ⟨state, ran, frees⟩
  · have split : middle ++ [event] =
        (first ++ release :: shorter) ++ [final] := by simpa using split
    obtain ⟨rfl, -⟩ := List.append_inj' split rfl
    exact .inl ⟨first, release, shorter, state, rfl, ran, frees⟩

theorem unused_of_run {before middle : List Event} {id : PodHardwareId}
    {ended last : DiscoveryState} (ranBefore : run step start before = some ended)
    (held : id ∈ ended.table .protocol) (unused : ¬ended.InUse id)
    (notFreed : ¬FreedWithin start before middle id)
    (ran : run step ended middle = some last) :
    id ∈ last.table .protocol ∧ ¬last.InUse id := by
  refine history_of_run
    (fun visited last => visited <+: middle →
      id ∈ last.table .protocol ∧ ¬last.InUse id)
    (fun _ => ⟨held, unused⟩) ?_ ran List.prefix_rfl
  intro visited state event next ranVisited ih stepped isPrefix
  obtain ⟨after, rfl⟩ := isPrefix
  obtain ⟨stillHeld, stillUnused⟩ := ih ⟨event :: after, by simp⟩
  refine unused_step stepped stillHeld stillUnused fun frees => notFreed ?_
  exact ⟨visited, event, after, state, by simp,
    run_append_eq_some.mpr ⟨ended, ranBefore, ranVisited⟩, frees⟩

/-- A pod that is held is in use, or its last session has ended and its entry
has not been freed since. -/
theorem inUse_or_ended {connected : String → Option Tty}
    {unreported : List UdevEvent} {events : List Event} {last : DiscoveryState}
    (ran : run step (.start connected unreported) events = some last)
    {id : PodHardwareId} (held : id ∈ last.table .protocol) :
    last.InUse id ∨ ∃ before number reason middle ended,
      events = before ++ .endSession number reason :: middle ∧
        run step (.start connected unreported)
          (before ++ [.endSession number reason]) = some ended ∧
        run step ended middle = some last ∧
        id ∈ ended.table .protocol ∧ ¬ended.InUse id ∧
          ¬FreedWithin (.start connected unreported)
            (before ++ [.endSession number reason]) middle id := by
  induction events using List.reverseRecOn generalizing last with
  | nil =>
      rw [run_nil, Option.some.injEq] at ran
      subst last
      exact absurd held (AList.notMem_empty id)
  | append_singleton events event ih =>
      obtain ⟨state, ranBefore, stepped⟩ := run_concat_eq_some.mp ran
      rcases (mem_table_step stepped .protocol id).mp held with
        opens | ⟨heldBefore, notFreed⟩
      · exact .inl (inUse_of_opens stepped opens)
      · rcases ih ranBefore heldBefore with inUse |
          ⟨before, number, reason, middle, ended, rfl, ranEnd, ranMiddle,
            heldEnded, unused, unfreed⟩
        · by_cases stillInUse : last.InUse id
          · exact .inl stillInUse
          · obtain ⟨number, reason, rfl⟩ :=
              (inUse_step stepped inUse).resolve_left stillInUse
            refine .inr ⟨events, number, reason, [], last, rfl, ran, rfl, held,
              stillInUse, ?_⟩
            rintro ⟨first, release, rest, _, impossible, -⟩
            simp at impossible
        · refine .inr ⟨before, number, reason, middle ++ [event], ended,
            by simp, ranEnd,
            run_concat_eq_some.mpr ⟨state, ranMiddle, stepped⟩, heldEnded,
            unused, ?_⟩
          intro freed
          rcases freedWithin_concat freed with freed | ⟨freeing, ranFree, frees⟩
          · exact unfreed freed
          · have ranBoth := run_append_eq_some.mpr ⟨ended, ranEnd, ranMiddle⟩
            obtain rfl : state = freeing :=
              Option.some.inj (ranBoth.symm.trans ranFree)
            exact notFreed frees

/-- A pod is refused only while it is in use, in exactly those runs in which an
entry that a session leaves behind when it ends is freed before the pod is to
be opened again. -/
theorem refusesOnlyInUse_iff (connected : String → Option Tty)
    (unreported : List UdevEvent) (events : List Event) :
    RefusesOnlyInUse (.start connected unreported) events ↔
      ∀ before number reason middle event after ended attempted id,
        events = before ++
          .endSession number reason :: (middle ++ event :: after) →
        run step (.start connected unreported)
          (before ++ [.endSession number reason]) = some ended →
        run step ended middle = some attempted →
        id ∈ ended.table .protocol → ¬ended.InUse id →
        Attempts attempted event .protocol id →
          FreedWithin (.start connected unreported)
            (before ++ [.endSession number reason]) middle id := by
  constructor
  · rintro onlyInUse before number reason middle event after ended attempted id
      rfl ranEnd ranMiddle held unused attempts
    by_contra notFreed
    obtain ⟨stillHeld, stillUnused⟩ :=
      unused_of_run ranEnd held unused notFreed ranMiddle
    refine stillUnused (onlyInUse
      (before ++ .endSession number reason :: middle) event after attempted id
      (by simp) ?_ ⟨attempts, stillHeld⟩)
    have ran := run_append_eq_some.mpr ⟨ended, ranEnd, ranMiddle⟩
    simpa using ran
  · rintro freed before event after state id rfl ran ⟨attempts, held⟩
    refine (inUse_or_ended ran held).resolve_right ?_
    rintro ⟨earlier, number, reason, middle, ended, rfl, ranEnd, ranMiddle,
      heldEnded, unused, unfreed⟩
    exact unfreed (freed earlier number reason middle event after ended state
      id (by simp) ranEnd ranMiddle heldEnded unused attempts)

end Runs

/-- A pod stops answering its pings, so its session ends while its tty stays.
When the pod shows up at a second devnode it is refused, although no session
uses it. -/
theorem silent_pod_refused :
    ¬∀ (connected : String → Option Tty) (unreported : List UdevEvent)
      (events : List Event),
        RefusesOnlyInUse (.start connected unreported) events := by
  intro claimed
  let before : List Event :=
    [.scan [], .plug "/dev/ttyACM0" protocolTty, .handleQueued true,
      .receiveDeviceInfo 0, .endSession 0 .keepAliveRetriesExhausted,
      .plug "/dev/ttyACM1" protocolTty]
  obtain ⟨state, ran, refuses, unused⟩ :
      ∃ state, run step (.start (fun _ => none) []) before = some state ∧
        Refuses state (.handleQueued true) .protocol "2A01" ∧
          state.running = [] :=
    ⟨_, rfl, ⟨⟨_, rfl, rfl, rfl⟩, by decide⟩, by decide⟩
  obtain ⟨session, running, -⟩ := claimed (fun _ => none) []
    (before ++ [.handleQueued true]) before (.handleQueued true) [] state
    "2A01" rfl ran refuses
  simp [unused] at running

end SerialPodDiscovery

end CocktailMaker
