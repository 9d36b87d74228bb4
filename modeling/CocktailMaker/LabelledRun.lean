import Mathlib.Data.List.Induction
import Mathlib.Data.List.Infix

/-!
# Runs of guarded labelled transition systems

A system is given by a partial step function: `step state event` is `none`
when the event cannot happen in that state.  A run performs a list of events in
order and is defined when each of them can happen.  This file collects the
composition laws of runs and the induction rules by which facts about one step
become facts about every run.
-/

namespace CocktailMaker

namespace LabelledRun

variable {State Event : Type*}

/-- Perform `events` in order, starting in `state`. -/
def run (step : State → Event → Option State) (state : State)
    (events : List Event) : Option State :=
  events.foldlM step state

section Composition

variable {step : State → Event → Option State}

@[simp]
theorem run_nil (state : State) : run step state [] = some state :=
  rfl

@[simp]
theorem run_cons (state : State) (event : Event) (events : List Event) :
    run step state (event :: events) =
      (step state event).bind fun next => run step next events :=
  rfl

theorem run_append (state : State) (first second : List Event) :
    run step state (first ++ second) =
      (run step state first).bind fun middle => run step middle second := by
  simp [run, List.foldlM_append, Option.bind_eq_bind]

theorem run_append_eq_some {state last : State} {first second : List Event} :
    run step state (first ++ second) = some last ↔
      ∃ middle, run step state first = some middle ∧
        run step middle second = some last := by
  rw [run_append, Option.bind_eq_some_iff]

theorem run_cons_eq_some {state last : State} {event : Event}
    {events : List Event} :
    run step state (event :: events) = some last ↔
      ∃ next, step state event = some next ∧
        run step next events = some last := by
  rw [run_cons, Option.bind_eq_some_iff]

theorem run_concat_eq_some {state last : State} {events : List Event}
    {event : Event} :
    run step state (events ++ [event]) = some last ↔
      ∃ middle, run step state events = some middle ∧
        step middle event = some last := by
  simp [run_append_eq_some]

end Composition

section Invariants

variable {step : State → Event → Option State}

/-- A fact about the events performed so far and the state they lead to holds
of every run, when it holds before the first event and each step keeps it. -/
theorem history_of_run {start : State} (Fact : List Event → State → Prop)
    (atStart : Fact [] start)
    (preserved : ∀ events state event next,
      run step start events = some state → Fact events state →
        step state event = some next → Fact (events ++ [event]) next)
    {events : List Event} {last : State}
    (ran : run step start events = some last) : Fact events last := by
  induction events using List.reverseRecOn generalizing last with
  | nil =>
      rw [run_nil, Option.some.injEq] at ran
      exact ran ▸ atStart
  | append_singleton events event ih =>
      obtain ⟨middle, ranBefore, stepped⟩ := run_concat_eq_some.mp ran
      exact preserved events middle event last ranBefore (ih ranBefore) stepped

/-- An inductive invariant holds in the last state of every run. -/
theorem invariant_of_run (Invariant : State → Prop)
    (preserved : ∀ state event next, Invariant state →
      step state event = some next → Invariant next)
    {start last : State} {events : List Event} (atStart : Invariant start)
    (ran : run step start events = some last) : Invariant last :=
  history_of_run (fun _ => Invariant) atStart
    (fun _ state event next _ holds stepped =>
      preserved state event next holds stepped) ran

/-- A run that ends in another state leaves its first state by one event, and
the events before it change nothing. -/
theorem exists_departure {state last : State} {events : List Event}
    (ran : run step state events = some last) (moves : last ≠ state) :
    ∃ before event next rest, events = before ++ event :: rest ∧
      (∀ other ∈ before, step state other = some state) ∧
      step state event = some next ∧ next ≠ state ∧
        run step next rest = some last := by
  induction events with
  | nil => exact absurd (Option.some.inj ran).symm moves
  | cons event events ih =>
      obtain ⟨next, stepped, ranRest⟩ := run_cons_eq_some.mp ran
      by_cases stays : next = state
      · subst stays
        obtain ⟨before, other, later, rest, rfl, idle, departs⟩ := ih ranRest
        exact ⟨event :: before, other, later, rest, rfl,
          List.forall_mem_cons.mpr ⟨stepped, idle⟩, departs⟩
      · exact ⟨[], event, next, events, rfl, nofun, stepped, stays, ranRest⟩

/-- `Property` holds in every state that the run visits, first and last
included. -/
def Always (step : State → Event → Option State) (Property : State → Prop)
    (start : State) (events : List Event) : Prop :=
  ∀ visited middle, visited <+: events →
    run step start visited = some middle → Property middle

theorem Always.of_prefix {Property : State → Prop} {start : State}
    {shorter events : List Event} (always : Always step Property start events)
    (isPrefix : shorter <+: events) : Always step Property start shorter :=
  fun visited middle before => always visited middle (before.trans isPrefix)

theorem always_iff_inits {Property : State → Prop} {start : State}
    {events : List Event} :
    Always step Property start events ↔
      ∀ visited ∈ events.inits, ∀ middle ∈ run step start visited,
        Property middle := by
  simp only [List.mem_inits, Option.mem_def]
  exact ⟨fun always visited isPrefix middle => always visited middle isPrefix,
    fun onInits visited middle isPrefix => onInits visited isPrefix middle⟩

instance {Property : State → Prop} [DecidablePred Property] (start : State)
    (events : List Event) : Decidable (Always step Property start events) :=
  decidable_of_iff _ always_iff_inits.symm

/-- An invariant may rely on a property that the run is known to have in every
state it visits. -/
theorem invariant_of_always {Property Invariant : State → Prop}
    (preserved : ∀ state event next, Invariant state → Property state →
      Property next → step state event = some next → Invariant next)
    {start last : State} {events : List Event}
    (always : Always step Property start events) (atStart : Invariant start)
    (ran : run step start events = some last) : Invariant last := by
  induction events using List.reverseRecOn generalizing last with
  | nil =>
      rw [run_nil, Option.some.injEq] at ran
      exact ran ▸ atStart
  | append_singleton events event ih =>
      obtain ⟨middle, ranBefore, stepped⟩ := run_concat_eq_some.mp ran
      have isPrefix : events <+: events ++ [event] := List.prefix_append _ _
      exact preserved middle event last
        (ih (always.of_prefix isPrefix) ranBefore)
        (always events middle isPrefix ranBefore)
        (always _ last List.prefix_rfl ran) stepped

theorem always_concat {Property : State → Prop} {start : State}
    {events : List Event} {event : Event} :
    Always step Property start (events ++ [event]) ↔
      Always step Property start events ∧
        ∀ middle next, run step start events = some middle →
          step middle event = some next → Property next := by
  constructor
  · intro always
    refine ⟨always.of_prefix (List.prefix_append _ _), ?_⟩
    intro middle next ran stepped
    exact always _ next List.prefix_rfl
      (run_concat_eq_some.mpr ⟨middle, ran, stepped⟩)
  · rintro ⟨before, atLast⟩ visited next isPrefix ran
    rcases List.prefix_concat_iff.mp isPrefix with rfl | earlier
    · obtain ⟨middle, ranBefore, stepped⟩ := run_concat_eq_some.mp ran
      exact atLast middle next ranBefore stepped
    · exact before visited next earlier ran

/-- `Condition` holds of every event of the run and the state before it. -/
def EveryStep (step : State → Event → Option State)
    (Condition : State → Event → Prop) (start : State) (events : List Event) :
    Prop :=
  ∀ before event middle next, before ++ [event] <+: events →
    run step start before = some middle → step middle event = some next →
      Condition middle event

theorem everyStep_nil {Condition : State → Event → Prop} {start : State} :
    EveryStep step Condition start [] := by
  intro before event middle next isPrefix
  simp at isPrefix

theorem everyStep_concat {Condition : State → Event → Prop} {start : State}
    {events : List Event} {event : Event} :
    EveryStep step Condition start (events ++ [event]) ↔
      EveryStep step Condition start events ∧
        ∀ middle next, run step start events = some middle →
          step middle event = some next → Condition middle event := by
  constructor
  · intro every
    refine ⟨fun before earlier middle next isPrefix => ?_, ?_⟩
    · exact every before earlier middle next
        (isPrefix.trans (List.prefix_append _ _))
    · exact fun middle next => every events event middle next List.prefix_rfl
  · rintro ⟨every, atLast⟩ before last middle next isPrefix
    rcases List.prefix_concat_iff.mp isPrefix with whole | earlier
    · obtain ⟨rfl, sameEvent⟩ := List.append_inj' whole rfl
      obtain rfl := List.singleton_inj.mp sameEvent
      exact atLast middle next
    · exact every before last middle next earlier

theorem everyStep_cons {Condition : State → Event → Prop} {start : State}
    {event : Event} {events : List Event} :
    EveryStep step Condition start (event :: events) ↔
      ∀ next, step start event = some next →
        Condition start event ∧ EveryStep step Condition next events := by
  constructor
  · intro every next stepped
    refine ⟨every [] event start next (by simp) rfl stepped, ?_⟩
    intro before last middle after isPrefix ran
    refine every (event :: before) last middle after ?_ ?_
    · rw [List.cons_append]
      exact (List.prefix_cons_inj event).mpr isPrefix
    · exact run_cons_eq_some.mpr ⟨next, stepped, ran⟩
  · intro every before last middle after isPrefix ran stepped
    cases before with
    | nil =>
        obtain ⟨rfl, _⟩ := List.cons_prefix_cons.mp isPrefix
        obtain rfl := Option.some.inj ran
        exact (every after stepped).1
    | cons first before =>
        rw [List.cons_append] at isPrefix
        obtain ⟨rfl, restIsPrefix⟩ := List.cons_prefix_cons.mp isPrefix
        obtain ⟨next, steppedFirst, ranRest⟩ := run_cons_eq_some.mp ran
        exact (every next steppedFirst).2 before last middle after restIsPrefix
          ranRest stepped

instance decidableEveryStep {Condition : State → Event → Prop}
    [∀ state event, Decidable (Condition state event)] :
    ∀ (start : State) (events : List Event),
      Decidable (EveryStep step Condition start events)
  | _, [] => isTrue everyStep_nil
  | start, event :: events =>
      match stepped : step start event with
      | none => isTrue (everyStep_cons.mpr (by simp [stepped]))
      | some next =>
          have : Decidable (EveryStep step Condition next events) :=
            decidableEveryStep next events
          decidable_of_iff
            (Condition start event ∧ EveryStep step Condition next events)
            (by simp [everyStep_cons, stepped])

/-- When every step that meets the condition keeps an invariant, the invariant
holds throughout a run whose steps all do. -/
theorem always_of_everyStep {Invariant : State → Prop}
    {Condition : State → Event → Prop}
    (preserved : ∀ state event next, Invariant state →
      Condition state event → step state event = some next → Invariant next)
    {start : State} (atStart : Invariant start) {events : List Event}
    (every : EveryStep step Condition start events) :
    Always step Invariant start events := by
  induction events using List.reverseRecOn with
  | nil =>
      intro visited last isPrefix ran
      obtain rfl := List.prefix_nil.mp isPrefix
      rw [run_nil, Option.some.injEq] at ran
      exact ran ▸ atStart
  | append_singleton events event ih =>
      obtain ⟨before, atLast⟩ := everyStep_concat.mp every
      have always := ih before
      refine always_concat.mpr ⟨always, fun middle next ran stepped => ?_⟩
      exact preserved middle event next (always _ middle List.prefix_rfl ran)
        (atLast middle next ran stepped) stepped

/-- When a step keeps a property exactly under a condition on the state before
it, the property holds throughout a run exactly when every step of the run
meets the condition. -/
theorem always_iff_everyStep {Invariant Property : State → Prop}
    {Condition : State → Event → Prop}
    (preserved : ∀ state event next, Invariant state → Property state →
      step state event = some next → Invariant next)
    (exactly : ∀ state event next, Invariant state → Property state →
      step state event = some next → (Property next ↔ Condition state event))
    {start : State} (invariantAtStart : Invariant start)
    (propertyAtStart : Property start) {events : List Event} :
    Always step Property start events ↔
      EveryStep step Condition start events := by
  induction events using List.reverseRecOn with
  | nil =>
      refine ⟨fun _ => everyStep_nil, fun _ visited last isPrefix ran => ?_⟩
      obtain rfl := List.prefix_nil.mp isPrefix
      rw [run_nil, Option.some.injEq] at ran
      exact ran ▸ propertyAtStart
  | append_singleton events event ih =>
      rw [always_concat, everyStep_concat, ← ih]
      refine and_congr_right fun always => ?_
      refine forall_congr' fun middle => forall_congr' fun next => ?_
      refine forall_congr' fun ran => forall_congr' fun stepped => ?_
      have invariant : Invariant middle :=
        invariant_of_always
          (fun state event next holds property _ =>
            preserved state event next holds property)
          always invariantAtStart ran
      exact exactly middle event next invariant
        (always events middle List.prefix_rfl ran) stepped

/-- When every step of one system is matched by a step of another one, so is
every run. -/
theorem simulation_of_run {Abstract : Type*}
    {abstractStep : Abstract → Event → Option Abstract}
    {Represents : State → Abstract → Prop}
    (matched : ∀ state abstract event next, Represents state abstract →
      step state event = some next →
        ∃ abstractNext, abstractStep abstract event = some abstractNext ∧
          Represents next abstractNext)
    {start last : State} {abstract : Abstract} {events : List Event}
    (atStart : Represents start abstract)
    (ran : run step start events = some last) :
    ∃ abstractLast, run abstractStep abstract events = some abstractLast ∧
      Represents last abstractLast := by
  induction events using List.reverseRecOn generalizing last with
  | nil =>
      rw [run_nil, Option.some.injEq] at ran
      exact ⟨abstract, rfl, ran ▸ atStart⟩
  | append_singleton events event ih =>
      obtain ⟨middle, ranBefore, stepped⟩ := run_concat_eq_some.mp ran
      obtain ⟨abstractMiddle, abstractRan, represents⟩ := ih ranBefore
      obtain ⟨abstractLast, abstractStepped, representsLast⟩ :=
        matched _ _ _ _ represents stepped
      exact ⟨abstractLast,
        run_concat_eq_some.mpr ⟨abstractMiddle, abstractRan, abstractStepped⟩,
        representsLast⟩

end Invariants

section Outputs

variable {Output : Type*}

/-- The steps of a system that puts something out, with everything that has
been put out so far. -/
def traced (step : State → Event → Option (State × List Output))
    (current : State × List Output) (event : Event) :
    Option (State × List Output) :=
  (step current.1 event).map fun (next, outputs) => (next, current.2 ++ outputs)

theorem traced_eq_some
    {step : State → Event → Option (State × List Output)}
    {current next : State × List Output} {event : Event} :
    traced step current event = some next ↔
      ∃ outputs, step current.1 event = some (next.1, outputs) ∧
        next.2 = current.2 ++ outputs := by
  rw [traced, Option.map_eq_some_iff]
  constructor
  · rintro ⟨⟨state, outputs⟩, stepped, rfl⟩
    exact ⟨outputs, stepped, rfl⟩
  · rintro ⟨outputs, stepped, put⟩
    exact ⟨(next.1, outputs), stepped, Prod.ext rfl put.symm⟩

end Outputs

end LabelledRun

end CocktailMaker
