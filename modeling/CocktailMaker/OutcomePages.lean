import CocktailMaker.OrderOutcome

/-!
# The pages that show an outcome

A guest who has ordered waits on the mix page.  Once both threads are at rest
it has given way to another page; the success page stands for a recipe whose
commands have all been executed, and the error page for an abort or for the
error of a command.  When the guest has left the mix page no recipe goes on,
unless a success was shown while a newer recipe was processed.
-/

namespace CocktailMaker

namespace OutcomePages

open ErrorPage LabelledRun MaintenanceAccess OperatorPin OrderOutcome
  RecipeOrder RecipeOutcome

variable {formatMilliLitre : Int → String} {store : RecipeStore}
  {ingredientStore : IngredientStore} {hmac : String → String → String}
  {pinConfig : OperatorAuthConfig} {station next : Station ingredientStore}
  {event : OrderOutcome.Event ingredientStore}

section Ending

/-- A recipe has been processed with this completion. -/
def Ended (station : Station ingredientStore) (number : Nat)
    (completion : Completion MixError) : Prop :=
  ∃ task ∈ station.processing.recipes[number]?,
    task.mix.processed = some completion

variable (formatMilliLitre store hmac pinConfig) in
/-- The processing of a recipe ends in one of these events, which leads from
one state of the station to the next. -/
inductive EndsIn (start : Station ingredientStore)
    (events : List (OrderOutcome.Event ingredientStore)) (number : Nat)
    (completion : Completion MixError) :
    Station ingredientStore → Station ingredientStore → Prop
  | turn {before : List (OrderOutcome.Event ingredientStore)}
      {event : OrderOutcome.Event ingredientStore}
      {visited next : Station ingredientStore}
      (isPrefix : before ++ [event] <+: events)
      (ran : run (OrderOutcome.step formatMilliLitre store hmac pinConfig)
        start before = some visited)
      (isStep : OrderOutcome.step formatMilliLitre store hmac pinConfig visited
        event = some next)
      (going : ∃ task ∈ visited.processing.recipes[number]?,
        task.mix.processed = none)
      (ended : Ended next number completion) :
      EndsIn start events number completion visited next

theorem EndsIn.mono {start visited : Station ingredientStore}
    {events later : List (OrderOutcome.Event ingredientStore)} {number : Nat}
    {completion : Completion MixError}
    (endsIn : EndsIn formatMilliLitre store hmac pinConfig start events number
      completion visited next) (isPrefix : events <+: later) :
    EndsIn formatMilliLitre store hmac pinConfig start later number completion
      visited next := by
  obtain ⟨inside, ran, isStep, going, ended⟩ := endsIn
  exact ⟨inside.trans isPrefix, ran, isStep, going, ended⟩

/-- What has been processed stays so. -/
theorem Ended.step (linked : Linked station)
    (stepped : Stepped formatMilliLitre store hmac pinConfig station event
      next) {number : Nat} {completion : Completion MixError}
    (ended : Ended station number completion) :
    Ended next number completion := by
  obtain ⟨task, isTask, processed⟩ := ended
  have aborted : ∃ other,
      station.processing.abortActiveRecipe.recipes[number]? = some other ∧
        other.mix.processed = some completion := by
    refine ⟨_, (getElem?_abortActiveRecipe number).trans
      (congrArg (Option.map _) isTask), ?_⟩
    dsimp only
    split <;> exact processed
  cases stepped with
  | kiosk isTap tapped => exact ⟨task, isTask, processed⟩
  | aborted isAbort => exact aborted
  | started isStart isCommands =>
      obtain ⟨other, isOther, processed⟩ := aborted
      have inside := (List.getElem?_eq_some_iff.mp isOther).1
      exact ⟨other, (List.getElem?_append_left inside).trans isOther,
        processed⟩
  | @turned turning event before changed delivery isBefore stepped =>
      have inside := (List.getElem?_eq_some_iff.mp isBefore).1
      by_cases same : turning = number
      · subst same
        obtain rfl := Option.some.inj (isBefore.symm.trans isTask)
        have turned := turned_step
          (linked.supervised.sound _ (List.mem_of_getElem? isBefore)) stepped
        exact ⟨changed, List.getElem?_set_self inside,
          turned.stays completion processed⟩
      · exact ⟨task, (List.getElem?_set_ne same).trans isTask, processed⟩
  | configured config order => exact ⟨task, isTask, processed⟩

end Ending

section Waiting

/-- A task waits for the io thread, and this is the last one. -/
def LastPosted (station : Station ingredientStore) (task : Task) : Prop :=
  station.taken < station.kiosk.posted.length ∧
    station.kiosk.posted.getLast? = some task

/-- Everything that was posted has run, and the active recipe is processed. -/
def Processing (station : Station ingredientStore) : Prop :=
  station.taken = station.kiosk.posted.length ∧
    ∃ number ∈ station.processing.activeRecipeAbort,
      ∃ task ∈ station.processing.recipes[number]?,
        task.mix.processed = none

/-- What the mix page waits for. -/
def Waits (station : Station ingredientStore) : Prop :=
  station.kiosk.screen = .mixPage →
    (∃ closure ∈ station.kiosk.closures, ShowsOutcome closure = true) ∨
      (∃ order, LastPosted station (.startRecipeProcessing order)) ∨
      Processing station

theorem getLast?_posted {task : Task}
    (isTask : station.kiosk.posted[station.taken]? = some task)
    (isLast : station.kiosk.posted.length ≤ station.taken + 1) :
    station.taken + 1 = station.kiosk.posted.length ∧
      station.kiosk.posted.getLast? = some task := by
  have inside := (List.getElem?_eq_some_iff.mp isTask).1
  have index : station.kiosk.posted.length - 1 = station.taken := by omega
  exact ⟨by omega, by rw [List.getLast?_eq_getElem?, index, isTask]⟩

/-- A task that was posted runs: it was the last one, or the last one is
another. -/
theorem LastPosted.run {task last : Task}
    (isTask : station.kiosk.posted[station.taken]? = some task)
    (lastPosted : LastPosted station last) :
    (task = last ∧ station.taken + 1 = station.kiosk.posted.length) ∨
      station.taken + 1 < station.kiosk.posted.length := by
  rcases Nat.lt_or_ge (station.taken + 1) station.kiosk.posted.length with
    more | isLast
  · exact .inr more
  · obtain ⟨length, isThis⟩ := getLast?_posted isTask isLast
    rw [lastPosted.2, Option.some.injEq] at isThis
    exact .inl ⟨isThis.symm, length⟩

theorem showsOutcome_outcome {config : StationConfig ingredientStore}
    {order : IterationOrder IngredientId PodDispenser}
    {completion : Completion MixError} (notStopped : completion ≠ .stopped) :
    ∃ closure ∈ outcome config order completion,
      ShowsOutcome closure = true := by
  cases completion with
  | value => exact ⟨_, List.mem_singleton_self _, rfl⟩
  | error error => exact ⟨_, List.mem_singleton_self _, rfl⟩
  | stopped => exact absurd rfl notStopped

theorem showsOutcome_of_ended {task changed : RecipeTask MixError}
    (unprocessed : task.mix.processed = none)
    {completion : Completion MixError} (notStopped : completion ≠ .stopped)
    (processed : changed.mix.processed = some completion) :
    ∃ closure ∈ station.closuresOfTurn task.mix changed.mix,
      ShowsOutcome closure = true := by
  have shown : ∃ closure ∈ outcome station.config station.order completion,
      ShowsOutcome closure = true := showsOutcome_outcome notStopped
  obtain ⟨closure, member, shows⟩ := shown
  refine ⟨closure, ?_, shows⟩
  rw [Station.closuresOfTurn, unprocessed, processed]
  exact List.mem_append_right _ member

/-- A recipe that was not told to stop is not stopped. -/
theorem showsOutcome_turn {task changed : RecipeTask MixError}
    (turned : Turned task changed) (unset : task.mix.abort.value = false)
    (unprocessed : task.mix.processed = none)
    (isProcessed : changed.mix.processed ≠ none) :
    ∃ closure ∈ station.closuresOfTurn task.mix changed.mix,
      ShowsOutcome closure = true := by
  obtain ⟨completion, processed⟩ := Option.ne_none_iff_exists'.mp isProcessed
  apply showsOutcome_of_ended unprocessed _ processed
  rintro rfl
  have isSet := turned.sound.stopped processed
  rw [turned.value, unset] at isSet
  cases isSet

theorem Waits.step (waits : Waits station) (linked : Linked station)
    (stepped : Stepped formatMilliLitre store hmac pinConfig station event
      next) : Waits next := by
  intro isMix
  cases stepped with
  | kiosk isTap tapped =>
      cases moved_of_step tapped with
      | stayed screen posted texts outcomes added =>
          rcases waits (screen ▸ isMix) with
            ⟨closure, member, shows⟩ | lastPosted | processing
          · exact .inl ⟨closure, outcomes closure member shows, shows⟩
          · refine .inr (.inl ?_)
            simpa only [LastPosted, posted] using lastPosted
          · refine .inr (.inr ?_)
            simpa only [Processing, posted] using processing
      | navigated screen notMix notSuccess notError posted closures =>
          exact absurd (screen.symm.trans isMix) notMix
      | succeeded first screen posted => cases screen.symm.trans isMix
      | failed first screen posted texts => cases screen.symm.trans isMix
      | @ordered _ tasks order screen posted closures =>
          refine .inr (.inl ⟨order, ?_, ?_⟩)
          · have taken := linked.taken
            simp only [posted, List.length_append, List.length_singleton]
            omega
          · simp only [posted, List.getLast?_concat]
  | aborted isTask =>
      rcases waits isMix with outcome | ⟨order, lastPosted⟩ | processing
      · exact .inl outcome
      · rcases lastPosted.run isTask with ⟨isLast, -⟩ | more
        · cases isLast
        · exact .inr (.inl ⟨order, more, lastPosted.2⟩)
      · have inside := (List.getElem?_eq_some_iff.mp isTask).1
        exact absurd processing.1 inside.ne
  | @started order commands isTask isCommands =>
      rcases waits isMix with outcome | ⟨last, lastPosted⟩ | processing
      · exact .inl outcome
      · rcases lastPosted.run isTask with ⟨-, length⟩ | more
        · refine .inr (.inr ⟨length, _, rfl, .initial commands, ?_, rfl⟩)
          simp [ProcessContextBridge.startRecipeProcessing]
        · exact .inr (.inl ⟨last, more, lastPosted.2⟩)
      · have inside := (List.getElem?_eq_some_iff.mp isTask).1
        exact absurd processing.1 inside.ne
  | @turned number event task changed delivery isTask stepped =>
      rcases waits isMix with
        ⟨closure, member, shows⟩ | lastPosted | processing
      · exact .inl ⟨closure, List.mem_append_left _ member, shows⟩
      · exact .inr (.inl lastPosted)
      · obtain ⟨taken, active, isActive, other, isOther, unprocessed⟩ :=
          processing
        have inside := (List.getElem?_eq_some_iff.mp isTask).1
        by_cases same : number = active
        · subst same
          obtain rfl := Option.some.inj (isTask.symm.trans isOther)
          have turned := turned_step
            (linked.supervised.sound _ (List.mem_of_getElem? isTask)) stepped
          by_cases still : changed.mix.processed = none
          · refine .inr (.inr ⟨taken, number, isActive, changed, ?_, still⟩)
            exact List.getElem?_set_self inside
          · obtain ⟨closure, member, shows⟩ := showsOutcome_turn turned
              ((linked.supervised.active number isActive).2 _ isOther)
              unprocessed still
            exact .inl ⟨closure, List.mem_append_right _ member, shows⟩
        · refine .inr (.inr ⟨taken, active, isActive, other, ?_, unprocessed⟩)
          exact (List.getElem?_set_ne same).trans isOther
  | configured config order => exact waits isMix

theorem turn_of_ended (stepped : Stepped formatMilliLitre store hmac pinConfig
      station event next) {number : Nat} {task other : RecipeTask MixError}
    (isTask : station.processing.recipes[number]? = some task)
    (unprocessed : task.mix.processed = none)
    (isOther : next.processing.recipes[number]? = some other)
    (isProcessed : other.mix.processed ≠ none) :
    (∃ turn delivery, task.step turn = some (other, delivery)) ∧
      next.kiosk.closures =
        station.kiosk.closures ++
          station.closuresOfTurn task.mix other.mix := by
  have notSame : task ≠ other := by
    rintro rfl
    exact isProcessed unprocessed
  have notAborted : station.processing.abortActiveRecipe.recipes[number]? ≠
      some other := by
    rw [getElem?_abortActiveRecipe, isTask, Option.map_some, ne_eq,
      Option.some.injEq]
    rintro rfl
    split at isProcessed <;> exact isProcessed unprocessed
  cases stepped with
  | kiosk isTap tapped =>
      exact absurd (Option.some.inj (isTask.symm.trans isOther)) notSame
  | aborted isAbort => exact absurd isOther notAborted
  | started isStart isCommands =>
      have inside := (List.getElem?_eq_some_iff.mp isTask).1
      have sameLength := congrArg List.length
        (commandsOf_abortActiveRecipe : _ = commandsOf station.processing)
      simp only [commandsOf, List.length_map] at sameLength
      refine absurd ?_ notAborted
      rw [← isOther]
      exact (List.getElem?_append_left (sameLength ▸ inside)).symm
  | @turned turning turn before changed delivery isBefore isTurn =>
      have inside := (List.getElem?_eq_some_iff.mp isBefore).1
      by_cases same : turning = number
      · subst same
        obtain rfl := Option.some.inj (isBefore.symm.trans isTask)
        obtain rfl := Option.some.inj
          ((List.getElem?_set_self inside).symm.trans isOther)
        exact ⟨⟨turn, delivery, isTurn⟩, rfl⟩
      · have isSame := (List.getElem?_set_ne same).symm.trans isOther
        exact absurd (Option.some.inj (isTask.symm.trans isSame)) notSame
  | configured config order =>
      exact absurd (Option.some.inj (isTask.symm.trans isOther)) notSame

/-- A recipe whose processing ends shows how, or it was told to stop. -/
theorem EndsIn.shows {start visited : Station ingredientStore}
    {events : List (OrderOutcome.Event ingredientStore)} {number : Nat}
    {completion : Completion MixError}
    (endsIn : EndsIn formatMilliLitre store hmac pinConfig start events number
      completion visited next) (linked : Linked visited) :
    (∃ closure ∈ next.kiosk.closures.drop visited.kiosk.closures.length,
        ShowsOutcome closure = true) ∨
      completion = .stopped ∧
        ∃ task ∈ visited.processing.recipes[number]?,
          task.mix.abort.value = true := by
  obtain ⟨-, -, isStep, ⟨task, isTask, unprocessed⟩, other, isOther,
    processed⟩ := endsIn
  obtain ⟨⟨turn, delivery, isTurn⟩, closures⟩ := turn_of_ended
    (stepped_of_step isStep) isTask unprocessed isOther (by simp [processed])
  rw [closures, List.drop_left]
  by_cases stopped : completion = .stopped
  · subst stopped
    have turned := turned_step
      (linked.supervised.sound _ (List.mem_of_getElem? isTask)) isTurn
    refine .inr ⟨rfl, task, isTask, ?_⟩
    rw [← turned.value]
    exact turned.sound.stopped processed
  · exact .inl (showsOutcome_of_ended unprocessed stopped processed)

/-- Once everything that was posted has run, nothing waits for the event loop,
and every recipe has been processed, the mix page has given way.  A recipe ends
without showing how only when it is stopped and was told to. -/
theorem mixPage_gives_way {glasses : GlassContext.GlassList}
    {config : StationConfig ingredientStore}
    {order : IterationOrder IngredientId PodDispenser}
    {events : List (OrderOutcome.Event ingredientStore)}
    (ran : run (OrderOutcome.step formatMilliLitre store hmac pinConfig)
      (.start glasses config order) events = some station) :
    (station.taken = station.kiosk.posted.length →
      station.kiosk.closures = [] →
      (∀ task ∈ station.processing.recipes, task.mix.processed ≠ none) →
        station.kiosk.screen ≠ .mixPage) ∧
    ∀ number completion visited next,
      EndsIn formatMilliLitre store hmac pinConfig
          (.start glasses config order) events number completion visited
          next →
        (∃ closure ∈ next.kiosk.closures.drop visited.kiosk.closures.length,
            ShowsOutcome closure = true) ∨
          completion = .stopped ∧
            ∃ task ∈ visited.processing.recipes[number]?,
              task.mix.abort.value = true := by
  constructor
  · intro allRun nothingWaits allProcessed isMix
    have invariant : Linked station ∧ Waits station :=
      invariant_of_run (fun station => Linked station ∧ Waits station)
        (fun _ _ _ ⟨linked, waits⟩ isStep =>
          ⟨linked.step (stepped_of_step isStep),
            waits.step linked (stepped_of_step isStep)⟩)
        ⟨linked_start glasses config order, nofun⟩ ran
    rcases invariant.2 isMix with
      ⟨closure, member, -⟩ | ⟨_, more, -⟩ | ⟨-, number, -, task, isTask, isNone⟩
    · simp [nothingWaits] at member
    · omega
    · exact allProcessed task (List.mem_of_getElem? isTask) isNone
  · intro number completion visited next endsIn
    have ⟨_, visitedRan, _, _, _⟩ := endsIn
    exact endsIn.shows (linked_of_run visitedRan)

/-- The rum is empty, and the guest is shown so. -/
def emptyBottle : List (OrderOutcome.Event rumAndLime) :=
  poursRum ++
    [.recipe 0 (.proceed (.execute
        (.executed 0 (.error (.pod (.dispenserEmpty "left" 0)))))),
      .recipe 0 (.proceed .processed), .kiosk .runClosure, .kiosk .runClosure,
      .kiosk .runClosure, .runTask]

theorem mixPage_gives_way_emptyBottle :
    ∃ station : Station rumAndLime,
      run (OrderOutcome.step (fun _ => "") punchStore
        (fun salt pin => salt ++ pin) ⟨"", "", 3, 10⟩)
        (.start highball rumLeft (.stored _ _)) emptyBottle = some station ∧
      station.kiosk.screen ≠ .mixPage ∧
      ∀ number completion visited next,
        EndsIn (fun _ => "") punchStore (fun salt pin => salt ++ pin)
            ⟨"", "", 3, 10⟩ (.start highball rumLeft (.stored _ _)) emptyBottle
            number completion visited next →
          (∃ closure ∈ next.kiosk.closures.drop visited.kiosk.closures.length,
              ShowsOutcome closure = true) ∨
            completion = .stopped ∧
              ∃ task ∈ visited.processing.recipes[number]?,
                task.mix.abort.value = true := by
  have ran : (run (OrderOutcome.step (fun _ => "") punchStore
      (fun salt pin => salt ++ pin) ⟨"", "", 3, 10⟩)
      (.start highball rumLeft (.stored _ _)) emptyBottle).any (fun station =>
        station.taken = station.kiosk.posted.length ∧
          station.kiosk.closures.isEmpty = true ∧
          ∀ task ∈ station.processing.recipes, task.mix.processed ≠ none) =
      true := by
    decide +kernel
  obtain ⟨station, ran, atRest⟩ := (Option.any_eq_true _ _).mp ran
  obtain ⟨allRun, nothingWaits, allProcessed⟩ := of_decide_eq_true atRest
  obtain ⟨givesWay, ends⟩ := mixPage_gives_way ran
  exact ⟨station, ran, givesWay allRun (List.isEmpty_iff.mp nothingWaits)
    allProcessed, ends⟩

end Waiting

section Leaving

/-- Behind another page nothing goes on: an abort has been posted, or the
active recipe has been processed. -/
def Attended (station : Station ingredientStore) : Prop :=
  station.kiosk.screen ≠ .mixPage →
    LastPosted station .abortActiveRecipe ∨
      (station.taken = station.kiosk.posted.length ∧
        ∀ number ∈ station.processing.activeRecipeAbort,
          ∀ task ∈ station.processing.recipes[number]?,
            task.mix.processed ≠ none)

def RunsClosure : OrderOutcome.Event ingredientStore → Bool
  | .kiosk .runClosure => true
  | _ => false

/-- A success that the mix page gives way to is that of the recipe that was
ordered last. -/
def ShownInTime (station : Station ingredientStore)
    (event : OrderOutcome.Event ingredientStore) : Prop :=
  RunsClosure event = true →
    station.kiosk.closures.head? = some .displayUiSuccess →
      station.kiosk.screen = .mixPage →
        station.taken = station.kiosk.posted.length ∧
          ∀ number ∈ station.processing.activeRecipeAbort,
            ∀ task ∈ station.processing.recipes[number]?,
              task.mix.processed ≠ none

instance (station : Station ingredientStore) :
    DecidablePred (ShownInTime station) :=
  fun _ => inferInstanceAs (Decidable (_ → _))

theorem Attended.navigated {kiosk : Kiosk} {target : Page}
    (attended : Attended station) (linked : Linked station)
    (notSuccess : target ≠ .mixSuccessPage)
    (posted : kiosk.posted =
      station.kiosk.posted ++ tasksOf (station.kiosk.screen, target)) :
    Attended { station with kiosk } := by
  intro _
  by_cases wasMix : station.kiosk.screen = .mixPage
  · have aborts : tasksOf (station.kiosk.screen, target) =
        [.abortActiveRecipe] := if_pos ⟨wasMix, notSuccess⟩
    rw [aborts] at posted
    refine .inl ⟨?_, ?_⟩
    · have taken := linked.taken
      simp only [posted, List.length_append, List.length_singleton]
      omega
    · simp only [posted, List.getLast?_concat]
  · have nothing : tasksOf (station.kiosk.screen, target) = [] :=
      if_neg fun leaves => wasMix leaves.1
    rw [nothing, List.append_nil] at posted
    simpa only [LastPosted, posted] using attended wasMix

theorem Attended.step (attended : Attended station) (linked : Linked station)
    (inTime : ShownInTime station event)
    (stepped : Stepped formatMilliLitre store hmac pinConfig station event
      next) : Attended next := by
  cases stepped with
  | kiosk isTap tapped =>
      cases moved_of_step tapped with
      | stayed screen posted texts outcomes added =>
          intro notMix
          simpa only [LastPosted, posted] using
            attended fun isMix => notMix (screen.trans isMix)
      | navigated screen notMix notSuccess notError posted closures =>
          exact attended.navigated linked notSuccess posted
      | succeeded first screen posted =>
          intro _
          by_cases wasMix : station.kiosk.screen = .mixPage
          · refine .inr ?_
            simpa only [posted] using inTime rfl (by rw [first]; rfl) wasMix
          · simpa only [LastPosted, posted] using attended wasMix
      | failed first screen posted texts =>
          have notSuccess : Page.mixErrorPage ≠ .mixSuccessPage := nofun
          exact attended.navigated linked notSuccess posted
      | ordered screen posted closures =>
          exact fun notMix => absurd screen notMix
  | aborted isTask =>
      intro notMix
      rcases attended notMix with lastPosted | ⟨taken, _⟩
      · rcases lastPosted.run isTask with ⟨-, length⟩ | more
        · refine .inr ⟨length, ?_⟩
          rw [activeRecipeAbort_abortActiveRecipe]
          nofun
        · exact .inl ⟨more, lastPosted.2⟩
      · have inside := (List.getElem?_eq_some_iff.mp isTask).1
        exact absurd taken inside.ne
  | started isTask isCommands =>
      intro notMix
      rcases attended notMix with lastPosted | ⟨taken, _⟩
      · rcases lastPosted.run isTask with ⟨isLast, -⟩ | more
        · cases isLast
        · exact .inl ⟨more, lastPosted.2⟩
      · have inside := (List.getElem?_eq_some_iff.mp isTask).1
        exact absurd taken inside.ne
  | @turned number event task changed delivery isTask stepped =>
      intro notMix
      rcases attended notMix with lastPosted | ⟨taken, processed⟩
      · exact .inl lastPosted
      · refine .inr ⟨taken, fun active isActive other isOther => ?_⟩
        have inside := (List.getElem?_eq_some_iff.mp isTask).1
        by_cases same : number = active
        · subst same
          have isChanged : changed = other := by
            simpa [ProcessContextBridge.afterTurn, inside] using isOther
          subst isChanged
          have turned := turned_step
            (linked.supervised.sound _ (List.mem_of_getElem? isTask)) stepped
          obtain ⟨completion, isProcessed⟩ := Option.ne_none_iff_exists'.mp
            (processed number isActive task isTask)
          simp [turned.stays completion isProcessed]
        · refine processed active isActive other ?_
          exact (List.getElem?_set_ne same).symm.trans isOther
  | configured config order => exact attended

/-- When the guest has left the mix page and everything that was posted has
run, every recipe is processed or has been told to stop, as long as the mix
page gives way to no success but that of the newest recipe. -/
theorem nothing_goes_on_behind {glasses : GlassContext.GlassList}
    {config : StationConfig ingredientStore}
    {order : IterationOrder IngredientId PodDispenser}
    {events : List (OrderOutcome.Event ingredientStore)}
    (inTime : EveryStep
      (OrderOutcome.step formatMilliLitre store hmac pinConfig) ShownInTime
      (.start glasses config order) events) :
    Always (OrderOutcome.step formatMilliLitre store hmac pinConfig)
      (fun station => station.taken = station.kiosk.posted.length →
        station.kiosk.screen ≠ .mixPage →
          ∀ task ∈ station.processing.recipes,
            task.mix.processed ≠ none ∨ task.mix.abort.value = true)
      (.start glasses config order) events := by
  have invariant : Always
      (OrderOutcome.step formatMilliLitre store hmac pinConfig)
      (fun station => Linked station ∧ Attended station)
      (.start glasses config order) events :=
    always_of_everyStep
      (fun _ _ _ ⟨linked, attended⟩ inTime isStep =>
        ⟨linked.step (stepped_of_step isStep),
          attended.step linked inTime (stepped_of_step isStep)⟩)
      ⟨linked_start glasses config order, fun _ => .inr ⟨rfl, nofun⟩⟩ inTime
  intro visited station isPrefix ran allRun notMix task isRecipe
  obtain ⟨linked, attended⟩ := invariant visited station isPrefix ran
  obtain ⟨number, isTask⟩ := List.mem_iff_getElem?.mp isRecipe
  by_cases isActive : station.processing.activeRecipeAbort = some number
  · rcases attended notMix with ⟨more, -⟩ | ⟨-, processed⟩
    · omega
    · exact .inl (processed number isActive task isTask)
  · exact .inr (linked.supervised.aborted number isActive task isTask)

theorem nothing_goes_on_behind_emptyBottle :
    Always (OrderOutcome.step (fun _ => "") punchStore
        (fun salt pin => salt ++ pin) ⟨"", "", 3, 10⟩)
      (fun station => station.taken = station.kiosk.posted.length →
        station.kiosk.screen ≠ .mixPage →
          ∀ task ∈ station.processing.recipes,
            task.mix.processed ≠ none ∨ task.mix.abort.value = true)
      (.start highball rumLeft (.stored _ _)) emptyBottle :=
  nothing_goes_on_behind (by decide +kernel)

/-- The commands of the punch are executed. -/
def mixesPunch : List (ExecuteCommands.Event MixError) :=
  [.next, .start 0, .executed 0 .value, .next, .spawn, .start 0, .spawn,
    .start 1, .executed 1 .value, .executed 0 .value, .join, .next, .start 0,
    .executed 0 .value, .next, .start 0, .next]

/-- The guest aborts a punch when its commands have been executed, and orders
another one before the io thread goes on. -/
def lateSuccess : List (OrderOutcome.Event rumAndLime) :=
  strongPunch.map .kiosk ++ .runTask ::
    mixesPunch.map (fun event => .recipe 0 (.proceed (.execute event))) ++
    .kiosk .abort :: List.replicate 10 (.kiosk .runClosure) ++
    .kiosk .back :: (strongPunch.drop 2).map .kiosk ++
    [.recipe 0 (.proceed .processed), .runTask, .runTask, .kiosk .runClosure]

-- The success of the first punch is shown while the second one is processed.
example : (run (OrderOutcome.step (fun _ => "") punchStore
    (fun salt pin => salt ++ pin) ⟨"", "", 3, 10⟩)
    (.start highball rumLeft (.stored _ _)) lateSuccess).any (fun station =>
      station.taken = station.kiosk.posted.length ∧
        station.kiosk.screen = .mixSuccessPage ∧
        ∃ task ∈ station.processing.recipes,
          task.mix.processed = none ∧ task.mix.abort.value = false) = true := by
  decide +kernel

end Leaving

section Outcomes

variable (formatMilliLitre store hmac pinConfig) in
/-- What the error page may say: the guest has tapped the abort, or a recipe
has ended with an error, which was looked up in the assignment of that time. -/
inductive Founded (start : Station ingredientStore)
    (events : List (OrderOutcome.Event ingredientStore))
    (station : Station ingredientStore) : ErrorPageData → Prop
  | aborted (tapped : .kiosk .abort ∈ events) :
      Founded start events station makeAbort
  | failed {number : Nat} {error : MixError}
      {visited next : Station ingredientStore}
      (ended : Ended station number (.error error))
      (endsIn : EndsIn formatMilliLitre store hmac pinConfig start events
        number (.error error) visited next) :
      Founded start events station
        (make visited.config visited.order (.mix error))

variable (formatMilliLitre store hmac pinConfig) in
/-- The invariant of the pages and of the closures that lead to them. -/
structure Explained (start : Station ingredientStore)
    (events : List (OrderOutcome.Event ingredientStore))
    (station : Station ingredientStore) : Prop where
  errors : ∀ data, .displayUiError data ∈ station.kiosk.closures →
    Founded formatMilliLitre store hmac pinConfig start events station data
  successes : .displayUiSuccess ∈ station.kiosk.closures →
    ∃ number, Ended station number .value
  errorPage : station.kiosk.screen = .mixErrorPage → ∃ data,
    ShowsError station.kiosk.context data ∧
      Founded formatMilliLitre store hmac pinConfig start events station data
  successPage : station.kiosk.screen = .mixSuccessPage →
    ∃ number, Ended station number .value

theorem mem_outcome_of_turn {before after : RecipeRun MixError}
    {closure : Closure}
    (member : closure ∈ station.closuresOfTurn before after)
    (shows : ShowsOutcome closure = true) :
    before.processed = none ∧ ∃ completion, after.processed = some completion ∧
      closure ∈ outcome station.config station.order completion := by
  rcases List.mem_append.mp member with isProgress | isOutcome
  · rcases List.mem_append.mp isProgress with isRecipe | isReport
    · split at isRecipe
      · rw [List.mem_singleton.mp isRecipe] at shows
        cases shows
      · cases isRecipe
    · obtain ⟨⟨position, call⟩, _, isClosure⟩ :=
        List.mem_filterMap.mp isReport
      cases call with
      | updateCommandStatus id status =>
          cases isClosure
          cases shows
      | executeCommand command => cases isClosure
      | executed completion => cases isClosure
  · split at isOutcome
    · next completion unprocessed processed =>
        exact ⟨unprocessed, completion, processed, isOutcome⟩
    · cases isOutcome

variable {start : Station ingredientStore}
  {events : List (OrderOutcome.Event ingredientStore)}

theorem Founded.concat {data : ErrorPageData}
    (founded : Founded formatMilliLitre store hmac pinConfig start events
      station data) (linked : Linked station)
    (stepped : Stepped formatMilliLitre store hmac pinConfig station event
      next) :
    Founded formatMilliLitre store hmac pinConfig start (events ++ [event])
      next data := by
  cases founded with
  | aborted tapped => exact .aborted (List.mem_append_left _ tapped)
  | failed ended endsIn =>
      exact .failed (ended.step linked stepped)
        (endsIn.mono (List.prefix_append _ _))

theorem Explained.tap
    (explained : Explained formatMilliLitre store hmac pinConfig start events
      station)
    (linked : Linked station) {tap : RecipeOrder.Event} {kiosk : Kiosk}
    (isTap : IsTap tap = true)
    (inStore : station.kiosk.shows .cocktailDetailPage = true ∨
      station.kiosk.shows .mixGlassSelectionPage = true →
        ∃ recipe,
          store.findById station.kiosk.activeRecipe.id = some recipe)
    (tapped : RecipeOrder.step formatMilliLitre store ingredientStore hmac
      pinConfig station.kiosk tap = some kiosk) :
    Explained formatMilliLitre store hmac pinConfig start
      (events ++ [.kiosk tap]) { station with kiosk } := by
  have stepped : Stepped formatMilliLitre store hmac pinConfig station
      (.kiosk tap) { station with kiosk } := .kiosk isTap tapped
  have moved := moved_of_step tapped
  have earlier : ∀ data, .displayUiError data ∈ station.kiosk.closures →
      Founded formatMilliLitre store hmac pinConfig start
        (events ++ [.kiosk tap]) { station with kiosk } data :=
    fun data member => (explained.errors data member).concat linked stepped
  constructor
  · intro data member
    rcases moved.added _ member with isEarlier | adds
    · exact earlier data isEarlier
    · cases adds with
      | aborted => exact .aborted (List.mem_concat_self)
      | invoked => cases isTap
      | notFound asks missing =>
          obtain ⟨recipe, found⟩ := inStore asks
          rw [missing] at found
          cases found
  · intro member
    rcases moved.added _ member with isEarlier | adds
    · exact explained.successes isEarlier
    · cases adds
      cases isTap
  · intro isError
    cases moved with
    | stayed screen posted texts outcomes added =>
        obtain ⟨data, shows, founded⟩ :=
          explained.errorPage (screen.symm.trans isError)
        exact ⟨data, texts data shows, founded.concat linked stepped⟩
    | navigated screen notMix notSuccess notError posted closures =>
        exact absurd (screen.symm.trans isError) notError
    | succeeded first screen posted => cases screen.symm.trans isError
    | failed first screen posted texts =>
        refine ⟨_, texts, earlier _ ?_⟩
        rw [first]
        exact List.mem_cons_self
    | ordered screen posted closures => cases screen.symm.trans isError
  · intro isSuccess
    cases moved with
    | stayed screen posted texts outcomes added =>
        exact explained.successPage (screen.symm.trans isSuccess)
    | navigated screen notMix notSuccess notError posted closures =>
        exact absurd (screen.symm.trans isSuccess) notSuccess
    | succeeded first screen posted =>
        refine explained.successes ?_
        rw [first]
        exact List.mem_cons_self
    | failed first screen posted texts => cases screen.symm.trans isSuccess
    | ordered screen posted closures => cases screen.symm.trans isSuccess

/-- The io thread, as far as it shows nothing. -/
theorem Explained.quiet
    (explained : Explained formatMilliLitre store hmac pinConfig start events
      station)
    (linked : Linked station)
    (stepped : Stepped formatMilliLitre store hmac pinConfig station event
      next) (same : next.kiosk = station.kiosk) :
    Explained formatMilliLitre store hmac pinConfig start (events ++ [event])
      next where
  errors data member := by
    rw [same] at member
    exact (explained.errors data member).concat linked stepped
  successes member := by
    rw [same] at member
    obtain ⟨number, ended⟩ := explained.successes member
    exact ⟨number, ended.step linked stepped⟩
  errorPage isError := by
    rw [same] at isError ⊢
    obtain ⟨data, shows, founded⟩ := explained.errorPage isError
    exact ⟨data, shows, founded.concat linked stepped⟩
  successPage isSuccess := by
    rw [same] at isSuccess
    obtain ⟨number, ended⟩ := explained.successPage isSuccess
    exact ⟨number, ended.step linked stepped⟩

theorem Explained.turned
    (explained : Explained formatMilliLitre store hmac pinConfig start events
      station)
    (linked : Linked station)
    (ran : run (OrderOutcome.step formatMilliLitre store hmac pinConfig) start
      events = some station) {number : Nat} {event : RecipeTask.Event MixError}
    {task changed : RecipeTask MixError} {delivery : Option Delivery}
    (isTask : station.processing.recipes[number]? = some task)
    (isTurn : task.step event = some (changed, delivery)) :
    Explained formatMilliLitre store hmac pinConfig start
      (events ++ [.recipe number event])
      { station with
        processing := station.processing.afterTurn number changed delivery
        kiosk := invokeFromEventLoop station.kiosk
          (station.closuresOfTurn task.mix changed.mix) } := by
  have stepped : Stepped formatMilliLitre store hmac pinConfig station
      (.recipe number event) _ := .turned isTask isTurn
  have isStep : OrderOutcome.step formatMilliLitre store hmac pinConfig station
      (.recipe number event) =
        some { station with
          processing := station.processing.afterTurn number changed delivery
          kiosk := invokeFromEventLoop station.kiosk
            (station.closuresOfTurn task.mix changed.mix) } := by
    simp only [OrderOutcome.step, isTask, isTurn, Option.map_some]
  have inside := (List.getElem?_eq_some_iff.mp isTask).1
  have ended {completion : Completion MixError}
      (processed : changed.mix.processed = some completion) :
      ∃ task ∈ (station.processing.recipes.set number changed)[number]?,
        task.mix.processed = some completion :=
    ⟨changed, List.getElem?_set_self inside, processed⟩
  constructor
  · intro data member
    rcases List.mem_append.mp member with isEarlier | isNew
    · exact (explained.errors data isEarlier).concat linked stepped
    · obtain ⟨unprocessed, completion, processed, shown⟩ :=
        mem_outcome_of_turn isNew rfl
      cases completion with
      | value => cases List.mem_singleton.mp shown
      | error error =>
          cases List.mem_singleton.mp shown
          exact .failed (ended processed) (.turn List.prefix_rfl ran isStep
            ⟨task, isTask, unprocessed⟩ (ended processed))
      | stopped => cases shown
  · intro member
    rcases List.mem_append.mp member with isEarlier | isNew
    · obtain ⟨earlier, isEnded⟩ := explained.successes isEarlier
      exact ⟨earlier, isEnded.step linked stepped⟩
    · obtain ⟨-, completion, processed, shown⟩ := mem_outcome_of_turn isNew rfl
      cases completion with
      | value => exact ⟨number, ended processed⟩
      | error error => cases List.mem_singleton.mp shown
      | stopped => cases shown
  · intro isError
    obtain ⟨data, shows, founded⟩ := explained.errorPage isError
    exact ⟨data, shows, founded.concat linked stepped⟩
  · intro isSuccess
    obtain ⟨earlier, isEnded⟩ := explained.successPage isSuccess
    exact ⟨earlier, isEnded.step linked stepped⟩

section Reachable

variable {glasses : GlassContext.GlassList}
  {config : StationConfig ingredientStore}
  {order : IterationOrder IngredientId PodDispenser}

theorem explained_of_run (distinct : (store.recipes.map Recipe.id).Nodup)
    (ran : run (OrderOutcome.step formatMilliLitre store hmac pinConfig)
      (.start glasses config order) events = some station) :
    Linked station ∧ Explained formatMilliLitre store hmac pinConfig
      (.start glasses config order) events station := by
  refine history_of_run (fun events station => Linked station ∧
    Explained formatMilliLitre store hmac pinConfig
      (.start glasses config order) events station)
    ⟨linked_start glasses config order, nofun, nofun, nofun, nofun⟩ ?_ ran
  rintro events station event next ranBefore ⟨linked, explained⟩ isStep
  have stepped := stepped_of_step isStep
  refine ⟨linked.step stepped, ?_⟩
  cases stepped with
  | kiosk isTap tapped =>
      obtain ⟨taps, tapsRan, -⟩ := follows_of_run ranBefore
      exact explained.tap linked isTap (exists_activeRecipe distinct tapsRan)
        tapped
  | aborted isTask => exact explained.quiet linked (.aborted isTask) rfl
  | started isTask isCommands =>
      exact explained.quiet linked (.started isTask isCommands) rfl
  | turned isTask isTurn =>
      exact explained.turned linked ranBefore isTask isTurn
  | configured config order =>
      exact explained.quiet linked (.configured config order) rfl

theorem cause_of_errorPage (distinct : (store.recipes.map Recipe.id).Nodup)
    (ran : run (OrderOutcome.step formatMilliLitre store hmac pinConfig)
      (.start glasses config order) events = some station)
    (isError : station.kiosk.screen = .mixErrorPage) :
    (.kiosk .abort ∈ events ∧ ShowsError station.kiosk.context makeAbort) ∨
      ∃ number, ∃ task ∈ station.processing.recipes[number]?, ∃ error,
        FailedWith task.mix.executing error ∧
        ∃ visited next, EndsIn formatMilliLitre store hmac pinConfig
            (.start glasses config order) events number (.error error) visited
            next ∧
          ShowsError station.kiosk.context
            (make visited.config visited.order (.mix error)) := by
  obtain ⟨linked, explained⟩ := explained_of_run distinct ran
  obtain ⟨data, shows, founded⟩ := explained.errorPage isError
  cases founded with
  | aborted tapped => exact .inl ⟨tapped, shows⟩
  | failed ended endsIn =>
      obtain ⟨task, isTask, processed⟩ := ended
      have sound := linked.supervised.sound task (List.mem_of_getElem? isTask)
      exact .inr ⟨_, task, isTask, _, sound.failedWith processed, _, _, endsIn,
        shows⟩

/-- In every run the success page stands for a recipe whose commands have all
been executed.  The error page stands for an abort that the guest has tapped,
or for an error that a command of a recipe has failed with, and its texts are
made for this error from the assignment that the processing of the recipe ended
with. -/
theorem pages_show_outcome (distinct : (store.recipes.map Recipe.id).Nodup)
    (ran : run (OrderOutcome.step formatMilliLitre store hmac pinConfig)
      (.start glasses config order) events = some station) :
    (station.kiosk.screen = .mixSuccessPage →
      ∃ task ∈ station.processing.recipes,
        AllExecuted task.mix.executing) ∧
    (station.kiosk.screen = .mixErrorPage →
      (.kiosk .abort ∈ events ∧
        ShowsError station.kiosk.context makeAbort) ∨
      ∃ number, ∃ task ∈ station.processing.recipes[number]?, ∃ error,
        FailedWith task.mix.executing error ∧
        ∃ visited next, EndsIn formatMilliLitre store hmac pinConfig
            (.start glasses config order) events number (.error error) visited
            next ∧
          ShowsError station.kiosk.context
            (make visited.config visited.order (.mix error))) := by
  constructor
  · intro isSuccess
    obtain ⟨linked, explained⟩ := explained_of_run distinct ran
    obtain ⟨number, task, isTask, processed⟩ :=
      explained.successPage isSuccess
    have isRecipe := List.mem_of_getElem? isTask
    exact ⟨task, isRecipe,
      (linked.supervised.sound task isRecipe).allExecuted processed⟩
  · exact cause_of_errorPage distinct ran

theorem pages_show_outcome_emptyBottle :
    ∃ station : Station rumAndLime,
      run (OrderOutcome.step (fun _ => "") punchStore
        (fun salt pin => salt ++ pin) ⟨"", "", 3, 10⟩)
        (.start highball rumLeft (.stored _ _)) emptyBottle = some station ∧
      station.kiosk.screen = .mixErrorPage ∧
      ((.kiosk .abort ∈ emptyBottle ∧
        ShowsError station.kiosk.context makeAbort) ∨
      ∃ number, ∃ task ∈ station.processing.recipes[number]?, ∃ error,
        FailedWith task.mix.executing error ∧
        ∃ visited next, EndsIn (fun _ => "") punchStore
            (fun salt pin => salt ++ pin) ⟨"", "", 3, 10⟩
            (.start highball rumLeft (.stored _ _)) emptyBottle number
            (.error error) visited next ∧
          ShowsError station.kiosk.context
            (make visited.config visited.order (.mix error))) := by
  have ran : (run (OrderOutcome.step (fun _ => "") punchStore
      (fun salt pin => salt ++ pin) ⟨"", "", 3, 10⟩)
      (.start highball rumLeft (.stored _ _)) emptyBottle).any (fun station =>
        station.kiosk.screen = .mixErrorPage) = true := by
    decide +kernel
  obtain ⟨station, ran, isError⟩ := (Option.any_eq_true _ _).mp ran
  have isError := of_decide_eq_true isError
  exact ⟨station, ran, isError, (pages_show_outcome (by decide) ran).2 isError⟩

/-- The page says that the guest has aborted only after a tap on the abort.  It
says that an ingredient is missing only when a command has failed because the
ingredient is assigned to no dispenser or the dispenser is empty, and it names
the ingredient, which for the dispenser is the only one that is assigned to it
when the processing of the recipe ends. -/
theorem error_page_tells_cause (distinct : (store.recipes.map Recipe.id).Nodup)
    (ran : run (OrderOutcome.step formatMilliLitre store hmac pinConfig)
      (.start glasses config order) events = some station)
    (isError : station.kiosk.screen = .mixErrorPage) :
    (station.kiosk.context.errorItemCategory = "A" →
      .kiosk .abort ∈ events) ∧
    (station.kiosk.context.errorItemCategory = "I" →
      ∃ number, ∃ task ∈ station.processing.recipes[number]?,
        (∃ error, FailedWith task.mix.executing
            (.dispatch (.ingredientNotAssigned error)) ∧
          ∀ ingredient,
            ingredientStore.findById error.ingredientId = some ingredient →
              station.kiosk.context.errorItemName = ingredient.displayName) ∨
        ∃ podId dispenserId, FailedWith task.mix.executing
            (.pod (.dispenserEmpty podId dispenserId)) ∧
          ∃ visited next, EndsIn formatMilliLitre store hmac pinConfig
              (.start glasses config order) events number
              (.error (.pod (.dispenserEmpty podId dispenserId))) visited
              next ∧
            ∀ ingredientId ingredient,
              visited.config.mapping.lookup ingredientId =
                  some ⟨podId, Int32.ofInt dispenserId⟩ →
                (∀ other, visited.config.mapping.lookup other =
                    some ⟨podId, Int32.ofInt dispenserId⟩ →
                  other = ingredientId) →
                ingredientStore.findById ingredientId = some ingredient →
                  station.kiosk.context.errorItemName =
                    ingredient.displayName) := by
  have outcome := cause_of_errorPage distinct ran isError
  constructor
  · intro isAbort
    rcases outcome with ⟨tapped, -⟩ |
      ⟨number, task, _, error, _, visited, next, _, shows⟩
    · exact tapped
    · have category := toSlintString_injective
        (shows.category.symm.trans isAbort : _ = toSlintString .abort)
      cases itemCategory_eq_abort.mp category
  · intro isIngredient
    rcases outcome with ⟨_, shows⟩ |
      ⟨number, task, isTask, error, failed, visited, next, endsIn, shows⟩
    · have category := toSlintString_injective
        (shows.category.symm.trans isIngredient : _ = toSlintString .ingredient)
      cases category
    · have category := toSlintString_injective
        (shows.category.symm.trans isIngredient : _ = toSlintString .ingredient)
      refine ⟨number, task, isTask, ?_⟩
      rcases itemCategory_eq_ingredient.mp category with
        ⟨podId, dispenserId, isReason⟩ | ⟨notAssigned, isReason⟩
      · cases isReason
        refine .inr ⟨podId, dispenserId, failed, visited, next, endsIn, ?_⟩
        intro ingredientId ingredient assigned unique found
        rw [shows.name]
        exact itemName_makeDispenserEmpty assigned unique found
      · cases isReason
        refine .inl ⟨notAssigned, failed, fun ingredient found => ?_⟩
        rw [shows.name]
        exact itemName_makeIngredientNotAssigned found

theorem error_page_tells_cause_emptyBottle :
    ∃ station : Station rumAndLime,
      run (OrderOutcome.step (fun _ => "") punchStore
        (fun salt pin => salt ++ pin) ⟨"", "", 3, 10⟩)
        (.start highball rumLeft (.stored _ _)) emptyBottle = some station ∧
      station.kiosk.context.errorItemName = "White rum" ∧
      ∃ number, ∃ task ∈ station.processing.recipes[number]?,
        (∃ error, FailedWith task.mix.executing
            (.dispatch (.ingredientNotAssigned error)) ∧
          ∀ ingredient,
            rumAndLime.findById error.ingredientId = some ingredient →
              station.kiosk.context.errorItemName = ingredient.displayName) ∨
        ∃ podId dispenserId, FailedWith task.mix.executing
            (.pod (.dispenserEmpty podId dispenserId)) ∧
          ∃ visited next, EndsIn (fun _ => "") punchStore
              (fun salt pin => salt ++ pin) ⟨"", "", 3, 10⟩
              (.start highball rumLeft (.stored _ _)) emptyBottle number
              (.error (.pod (.dispenserEmpty podId dispenserId))) visited
              next ∧
            ∀ ingredientId ingredient,
              visited.config.mapping.lookup ingredientId =
                  some ⟨podId, Int32.ofInt dispenserId⟩ →
                (∀ other, visited.config.mapping.lookup other =
                    some ⟨podId, Int32.ofInt dispenserId⟩ →
                  other = ingredientId) →
                rumAndLime.findById ingredientId = some ingredient →
                  station.kiosk.context.errorItemName =
                    ingredient.displayName := by
  have ran : (run (OrderOutcome.step (fun _ => "") punchStore
      (fun salt pin => salt ++ pin) ⟨"", "", 3, 10⟩)
      (.start highball rumLeft (.stored _ _)) emptyBottle).any (fun station =>
        station.kiosk.screen = .mixErrorPage ∧
          station.kiosk.context.errorItemCategory = "I" ∧
          station.kiosk.context.errorItemName = "White rum") = true := by
    decide +kernel
  obtain ⟨station, ran, shown⟩ := (Option.any_eq_true _ _).mp ran
  obtain ⟨isError, isIngredient, isRum⟩ := of_decide_eq_true shown
  exact ⟨station, ran, isRum,
    (error_page_tells_cause (by decide) ran isError).2 isIngredient⟩

end Reachable

end Outcomes

end OutcomePages

end CocktailMaker
