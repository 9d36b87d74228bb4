import CocktailMaker.SerialPodDiscovery

/-!
# One session per physical pod

The port tables are meant to keep a second session from being opened for a pod
that has one.  An entry is keyed by the identity of the pod but released by a
devnode, and the removal that releases it may be a stale one, of an earlier
incarnation of the devnode.  The runs that open a pod twice are those in which
a removal frees the entry of a live session and the pod is opened again while
that session lives.
-/

namespace CocktailMaker

namespace SerialPodDiscovery

open LabelledRun DiscoveryState

/-- The session has not ended and its tty is still present. -/
def DiscoveryState.Live (state : DiscoveryState) (session : PortSession) :
    Prop :=
  session ∈ state.running ∧ state.Present session

/-- No two live sessions share their role and identity. -/
def DiscoveryState.OneSession (state : DiscoveryState) : Prop :=
  state.running.Pairwise fun first second =>
    first.role = second.role → first.identity = second.identity →
      state.Present first → ¬state.Present second

/-- Incarnations are counted up, so that a new one is never taken for an old
one. -/
structure DiscoveryState.Numbered (state : DiscoveryState) : Prop where
  present : ∀ devnode incarnation,
    state.incarnationAt devnode = some incarnation →
      incarnation < state.plugged
  running : ∀ session ∈ state.running, session.incarnation < state.plugged

section Steps

variable {state next : DiscoveryState} {event : Event} {session : PortSession}

theorem numbered_start (connected : String → Option Tty)
    (unreported : List UdevEvent) : (start connected unreported).Numbered := by
  constructor
  · intro devnode incarnation present
    cases found : connected devnode <;>
      simp [incarnationAt, start, found] at present
    simp [start, ← present]
  · simp [start]

theorem numbered_step (numbered : state.Numbered)
    (stepped : step state event = some next) : next.Numbered := by
  obtain ⟨counted, incarnations⟩ := incarnationAt_step stepped
  constructor
  · intro devnode incarnation present
    rcases incarnations devnode with kept | gone | ⟨plugged, added⟩
    · have := numbered.present devnode incarnation (kept ▸ present)
      omega
    · simp [gone] at present
    · rw [plugged, Option.some.injEq] at present
      omega
  · intro session running
    by_cases opens : ∃ role id, Opens state event role id
    · obtain ⟨role, id, opens⟩ := opens
      obtain ⟨new, -, -, present, -, appended⟩ := running_of_opens stepped opens
      rw [appended, List.mem_append, List.mem_singleton] at running
      rcases running with running | rfl
      · exact (numbered.running session running).trans_le counted
      · exact (numbered.present _ _ present).trans_le counted
    · have sublist :=
        running_sublist_of_not_opens stepped (by simpa using opens)
      exact (numbered.running session (sublist.subset running)).trans_le counted

theorem numbered_of_run {connected : String → Option Tty}
    {unreported : List UdevEvent} {events : List Event} {last : DiscoveryState}
    (ran : run step (start connected unreported) events = some last) :
    last.Numbered :=
  invariant_of_run DiscoveryState.Numbered (fun _ _ _ => numbered_step)
    (numbered_start connected unreported) ran

/-- A tty that is gone does not come back. -/
theorem present_of_step (counted : session.incarnation < state.plugged)
    (stepped : step state event = some next) (present : next.Present session) :
    state.Present session := by
  rcases (incarnationAt_step stepped).2 session.devnode with
    kept | gone | ⟨plugged, -⟩
  · exact kept.symm.trans present
  · simp [Present, gone] at present
  · rw [Present, plugged, Option.some.injEq] at present
    omega

theorem live_of_step (numbered : state.Numbered)
    (stepped : step state event = some next) (live : next.Live session) :
    state.Live session ∨ Opens state event session.role session.identity := by
  obtain ⟨running, present⟩ := live
  by_cases opens : ∃ role id, Opens state event role id
  · obtain ⟨role, id, opens⟩ := opens
    obtain ⟨new, rfl, rfl, -, -, appended⟩ := running_of_opens stepped opens
    rw [appended, List.mem_append, List.mem_singleton] at running
    rcases running with running | rfl
    · exact .inl ⟨running,
        present_of_step (numbered.running session running) stepped present⟩
    · exact .inr opens
  · have sublist :=
      running_sublist_of_not_opens stepped (by simpa using opens)
    have running := sublist.subset running
    exact .inl ⟨running,
      present_of_step (numbered.running session running) stepped present⟩

/-- When a second live session appears, it has just been opened next to a live
session of the same pod. -/
theorem oneSession_step (numbered : state.Numbered)
    (oneSession : state.OneSession) (stepped : step state event = some next)
    (closed : ∀ session, state.Live session →
      ¬Opens state event session.role session.identity) :
    next.OneSession := by
  have kept : state.running.Pairwise fun first second =>
      first.role = second.role → first.identity = second.identity →
        next.Present first → ¬next.Present second := by
    refine oneSession.imp_of_mem ?_
    intro first second inFirst inSecond separate sameRole sameId
      firstPresent secondPresent
    exact separate sameRole sameId
      (present_of_step (numbered.running first inFirst) stepped firstPresent)
      (present_of_step (numbered.running second inSecond) stepped secondPresent)
  by_cases opens : ∃ role id, Opens state event role id
  · obtain ⟨role, id, opens⟩ := opens
    obtain ⟨new, rfl, rfl, -, -, appended⟩ := running_of_opens stepped opens
    rw [OneSession, appended, List.pairwise_append]
    refine ⟨kept, List.pairwise_singleton _ _, ?_⟩
    intro session running other isNew sameRole sameId present
    obtain rfl : other = new := by simpa using isNew
    have live : state.Live session := ⟨running,
      present_of_step (numbered.running session running) stepped present⟩
    exact absurd (sameRole ▸ sameId ▸ opens) (closed session live)
  · exact kept.sublist
      (running_sublist_of_not_opens stepped (by simpa using opens))

theorem not_oneSession_of_opens (stepped : step state event = some next)
    (live : state.Live session)
    (opens : Opens state event session.role session.identity) :
    ¬next.OneSession := by
  obtain ⟨new, sameRole, sameId, present, presentNext, appended⟩ :=
    running_of_opens stepped opens
  intro oneSession
  rw [OneSession, appended, List.pairwise_append] at oneSession
  have keeps (other : PortSession) :
      next.Present other ↔ state.Present other := by
    simp [Present, incarnationAt, presentNext]
  exact oneSession.2.2 session live.1 new (by simp) sameRole.symm sameId.symm
    ((keeps session).mpr live.2) ((keeps new).mpr present)

end Steps

section Runs

variable {connected : String → Option Tty} {unreported : List UdevEvent}

/-- A live session has its entry in the table, unless a removal has freed that
while the session was live. -/
theorem held_or_freed {events : List Event} {last : DiscoveryState}
    (ran : run step (start connected unreported) events = some last)
    {session : PortSession} (live : last.Live session) :
    session.identity ∈ last.table session.role ∨
      ∃ before release middle freeing,
        events = before ++ release :: middle ∧
          run step (start connected unreported) before = some freeing ∧
            freeing.Live session ∧
              Frees freeing release session.role session.identity := by
  refine history_of_run
    (fun events last => ∀ session, last.Live session →
      session.identity ∈ last.table session.role ∨
        ∃ before release middle freeing,
          events = before ++ release :: middle ∧
            run step (start connected unreported) before = some freeing ∧
              freeing.Live session ∧
                Frees freeing release session.role session.identity)
    ?_ ?_ ran session live
  · rintro session ⟨running, -⟩
    simp [start] at running
  · intro events state event next ranBefore ih stepped session live
    rw [mem_table_step stepped]
    rcases live_of_step (numbered_of_run ranBefore) stepped live with
      before | opens
    · rcases ih session before with held |
        ⟨earlier, release, middle, freeing, rfl, ranEarlier, wasLive, frees⟩
      · by_cases frees : Frees state event session.role session.identity
        · exact .inr ⟨events, event, [], state, rfl, ranBefore, before, frees⟩
        · exact .inl (.inr ⟨held, frees⟩)
      · exact .inr ⟨earlier, release, middle ++ [event], freeing, by simp,
          ranEarlier, wasLive, frees⟩
    · exact .inl (.inl opens)

/-- No two live sessions ever share their pod, in exactly those runs in which a
session whose entry has been freed while it was live does not live any more
when its pod is opened again. -/
theorem oneSession_iff (connected : String → Option Tty)
    (unreported : List UdevEvent) (events : List Event) :
    Always step OneSession (start connected unreported) events ↔
      ∀ before release middle reopen after freeing reopening session,
        events = before ++ release :: (middle ++ reopen :: after) →
        run step (start connected unreported) before = some freeing →
        run step (start connected unreported)
          (before ++ release :: middle) = some reopening →
        freeing.Live session →
        Frees freeing release session.role session.identity →
        Opens reopening reopen session.role session.identity →
          ¬reopening.Live session := by
  constructor
  · rintro always before release middle reopen after freeing reopening session
      rfl - ranMiddle - - opens live
    have ⟨port, handled, _⟩ := opens
    obtain ⟨next, stepped⟩ := exists_step_of_handledPort handled
    refine not_oneSession_of_opens stepped live opens ?_
    exact always (before ++ release :: middle ++ [reopen]) next (by simp)
      (run_concat_eq_some.mpr ⟨reopening, ranMiddle, stepped⟩)
  · intro separate visited last isPrefix ran
    refine history_of_run
      (fun visited last => visited <+: events → last.OneSession)
      (fun _ => ?_) ?_ ran isPrefix
    · exact List.Pairwise.nil
    · intro visited state event next ranBefore ih stepped isPrefix
      obtain ⟨after, rfl⟩ := isPrefix
      refine oneSession_step (numbered_of_run ranBefore)
        (ih ⟨event :: after, by simp⟩) stepped ?_
      intro session live opens
      rcases held_or_freed ranBefore live with held |
        ⟨before, release, middle, freeing, rfl, ranEarlier, wasLive, frees⟩
      · obtain ⟨port, -, -, -, absent, -⟩ := opens
        exact absent held
      · exact separate before release middle event after freeing state session
          (by simp) ranEarlier ranBefore wasLive frees opens live

end Runs

/-- A pod is plugged, unplugged and plugged again before the scan finds it.
The removal of its first incarnation frees the entry of the session that the
scan has opened, and the add event of the second one opens the pod again. -/
theorem replugged_opened_twice :
    ¬∀ (connected : String → Option Tty) (unreported : List UdevEvent)
      (events : List Event),
        Always step OneSession (start connected unreported) events := by
  intro claimed
  let events : List Event :=
    [.plug "/dev/ttyACM0" protocolTty, .unplug "/dev/ttyACM0",
      .plug "/dev/ttyACM0" protocolTty, .finishSetup "/dev/ttyACM0",
      .scan ["/dev/ttyACM0"], .handleScanned true, .handleQueued true,
      .handleQueued true, .handleQueued true]
  let session (number : Nat) : PortSession :=
    ⟨number, .protocol, "2A01", "/dev/ttyACM0", 2⟩
  obtain ⟨last, ran, running, present⟩ :
      ∃ last, run step (start (fun _ => none) []) events = some last ∧
        last.running = [session 0, session 1] ∧
          last.incarnationAt "/dev/ttyACM0" = some 2 :=
    ⟨_, rfl, by decide, by decide⟩
  have oneSession := claimed (fun _ => none) [] events events last
    List.prefix_rfl ran
  simp [OneSession, running, Present, session, present] at oneSession

end SerialPodDiscovery

end CocktailMaker
