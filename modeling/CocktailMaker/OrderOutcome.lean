import CocktailMaker.RecipeOrder
import CocktailMaker.RecipeOutcome

/-!
# From an order to its outcome

The user interface and the io thread together: what is tapped is posted to the
io thread, which starts and aborts recipes, and what becomes of the recipes is
invoked on the event loop.  Either side goes on in any order.  What is
dispensed belongs to an order of a guest, and the mix page gives way to the
outcome.
-/

namespace CocktailMaker

namespace OrderOutcome

open ErrorPage LabelledRun MaintenanceAccess OperatorPin RecipeOrder
  RecipeOutcome

/-- The user interface, how many of the posted tasks have run, the recipes,
and the assignment with the order in which its map is searched. -/
structure Station (ingredientStore : IngredientStore) where
  kiosk : Kiosk
  taken : Nat := 0
  processing : ProcessContextBridge MixError := .initial
  config : StationConfig ingredientStore
  order : IterationOrder IngredientId PodDispenser

def Station.start {ingredientStore : IngredientStore}
    (glasses : GlassContext.GlassList) (config : StationConfig ingredientStore)
    (order : IterationOrder IngredientId PodDispenser) :
    Station ingredientStore where
  kiosk := { glasses }
  config := config
  order := order

/-- Something happens to the user interface, the io thread runs a task that was
posted, a recipe has a turn, or the assignment changes. -/
inductive Event (ingredientStore : IngredientStore)
  | kiosk (event : RecipeOrder.Event)
  | runTask
  | recipe (number : Nat) (event : RecipeTask.Event MixError)
  | configure (config : StationConfig ingredientStore)
      (order : IterationOrder IngredientId PodDispenser)

/-- The closures of `update_command_status`. -/
def reports (trace : List (Entry MixError)) : List Closure :=
  trace.filterMap fun entry =>
    match entry.call with
    | .updateCommandStatus id status => some (.updateCommandStatus id status)
    | .executeCommand _ => none
    | .executed _ => none

/-- `execute_commands` has come to its first item. -/
def begun (executing : ExecuteCommands MixError) : Bool :=
  executing.item != 0 || !executing.activity.isIdle || executing.outcome.isSome

def invokeFromEventLoop (kiosk : Kiosk) (closures : List Closure) : Kiosk :=
  { kiosk with closures := kiosk.closures ++ closures }

section Model

variable {ingredientStore : IngredientStore}

/-- What `async_process_recipe` shows behind `execute_commands`. -/
def outcome (config : StationConfig ingredientStore)
    (order : IterationOrder IngredientId PodDispenser) :
    Completion MixError → List Closure
  | .value => [.displayUiSuccess]
  | .error error => [.displayUiError (make config order (.mix error))]
  | .stopped => []

/-- What is invoked on the event loop in a turn of a recipe: before its
first item `async_process_recipe` shows the recipe as it is executed. -/
def Station.closuresOfTurn (station : Station ingredientStore)
    (before after : RecipeRun MixError) : List Closure :=
  (if begun before.executing = false ∧ begun after.executing = true then
      [.updateUiRecipe after.executing.commands]
    else []) ++
  reports (after.executing.trace.drop before.executing.trace.length) ++
    match before.processed, after.processed with
    | none, some completion => outcome station.config station.order completion
    | _, _ => []

variable (formatMilliLitre : Int → String) (store : RecipeStore)
  (hmac : String → String → String) (pinConfig : OperatorAuthConfig)

/-- A task that was posted.  An assertion that fails ends the program, which is
no step. -/
def Station.runTask (station : Station ingredientStore) :
    Task → Option (Station ingredientStore)
  | .abortActiveRecipe =>
      some { station with
        taken := station.taken + 1
        processing := station.processing.abortActiveRecipe }
  | .startRecipeProcessing order =>
      match order.commands ingredientStore with
      | .error _ => none
      | .ok commands =>
          some { station with
            taken := station.taken + 1
            processing := station.processing.startRecipeProcessing commands }

def step (station : Station ingredientStore) :
    Event ingredientStore → Option (Station ingredientStore)
  | .kiosk (.invokeFromEventLoop _) => none
  | .kiosk event =>
      (RecipeOrder.step formatMilliLitre store ingredientStore hmac pinConfig
        station.kiosk event).map fun kiosk => { station with kiosk }
  | .runTask => station.kiosk.posted[station.taken]?.bind station.runTask
  | .recipe number event =>
      match station.processing.recipes[number]? with
      | none => none
      | some task =>
          (task.step event).map fun (next, delivery) =>
            { station with
              processing := station.processing.afterTurn number next delivery
              kiosk := invokeFromEventLoop station.kiosk
                (station.closuresOfTurn task.mix next.mix) }
  | .configure config order => some { station with config, order }

end Model

section Screen

/-- The closure shows how a recipe has ended. -/
def ShowsOutcome : Closure → Bool
  | .displayUiSuccess => true
  | .displayUiError _ => true
  | .updateUiRecipe _ => false
  | .updateCommandStatus _ _ => false

/-- The texts of the error page are these. -/
def ShowsError (context : ProcessContext) (data : ErrorPageData) : Prop :=
  context.showError data = context

theorem ShowsError.category {context : ProcessContext} {data : ErrorPageData}
    (shows : ShowsError context data) :
    context.errorItemCategory = toSlintString data.itemCategory :=
  (congrArg ProcessContext.errorItemCategory shows).symm

theorem ShowsError.name {context : ProcessContext} {data : ErrorPageData}
    (shows : ShowsError context data) :
    context.errorItemName = data.itemName :=
  (congrArg ProcessContext.errorItemName shows).symm

/-- Nothing that matters for the outcome of an order has changed. -/
structure Alike (kiosk next : Kiosk) : Prop where
  screen : next.screen = kiosk.screen
  posted : next.posted = kiosk.posted
  closures : next.closures = kiosk.closures
  texts : ∀ data, ShowsError kiosk.context data → ShowsError next.context data

/-- What an event of the user interface invokes on the event loop. -/
inductive Adds (store : RecipeStore) (kiosk : Kiosk) :
    RecipeOrder.Event → Closure → Prop
  | aborted : Adds store kiosk .abort (.displayUiError makeAbort)
  | invoked {closure : Closure} :
      Adds store kiosk (.invokeFromEventLoop closure) closure
  | notFound {event : RecipeOrder.Event}
      (asks : kiosk.shows .cocktailDetailPage = true ∨
        kiosk.shows .mixGlassSelectionPage = true)
      (missing : store.findById kiosk.activeRecipe.id = none) :
      Adds store kiosk event (.displayUiError makeRecipeNotFound)

/-- Where an event leads: the page stays, another page is opened, an outcome is
shown, or a recipe is ordered. -/
inductive Moved (store : RecipeStore) (kiosk next : Kiosk) :
    RecipeOrder.Event → Prop
  | stayed {event : RecipeOrder.Event} (screen : next.screen = kiosk.screen)
      (posted : next.posted = kiosk.posted)
      (texts : ∀ data, ShowsError kiosk.context data →
        ShowsError next.context data)
      (outcomes : ∀ closure ∈ kiosk.closures, ShowsOutcome closure = true →
        closure ∈ next.closures)
      (added : ∀ closure ∈ next.closures,
        closure ∈ kiosk.closures ∨ Adds store kiosk event closure) :
      Moved store kiosk next event
  | navigated {event : RecipeOrder.Event} {target : Page}
      (screen : next.screen = target) (notMix : target ≠ .mixPage)
      (notSuccess : target ≠ .mixSuccessPage)
      (notError : target ≠ .mixErrorPage)
      (posted : next.posted = kiosk.posted ++ tasksOf (kiosk.screen, target))
      (closures : next.closures = kiosk.closures) :
      Moved store kiosk next event
  | succeeded (first : kiosk.closures = .displayUiSuccess :: next.closures)
      (screen : next.screen = .mixSuccessPage)
      (posted : next.posted = kiosk.posted) :
      Moved store kiosk next .runClosure
  | failed {data : ErrorPageData}
      (first : kiosk.closures = .displayUiError data :: next.closures)
      (screen : next.screen = .mixErrorPage)
      (posted : next.posted =
        kiosk.posted ++ tasksOf (kiosk.screen, .mixErrorPage))
      (texts : ShowsError next.context data) :
      Moved store kiosk next .runClosure
  | ordered {event : RecipeOrder.Event} {tasks : List Task} {order : Order}
      (screen : next.screen = .mixPage)
      (posted : next.posted =
        kiosk.posted ++ tasks ++ [.startRecipeProcessing order])
      (closures : next.closures = kiosk.closures) :
      Moved store kiosk next event

variable {formatMilliLitre : Int → String} {store : RecipeStore}
  {ingredientStore : IngredientStore} {hmac : String → String → String}
  {pinConfig : OperatorAuthConfig} {kiosk middle next : Kiosk}
  {event : RecipeOrder.Event}

theorem Alike.refl (kiosk : Kiosk) : Alike kiosk kiosk :=
  ⟨rfl, rfl, rfl, fun _ => id⟩

theorem Alike.stayed (alike : Alike kiosk next) :
    Moved store kiosk next event := by
  refine .stayed alike.screen alike.posted alike.texts ?_ ?_
  · rw [alike.closures]
    exact fun closure member _ => member
  · rw [alike.closures]
    exact fun closure member => .inl member

/-- The texts do not depend on the glass and the boost. -/
theorem showsError_of_texts {context other : ProcessContext}
    (same : { other with boost := context.boost, glass := context.glass
                         glassVolume := context.glassVolume } = context)
    {data : ErrorPageData} (shows : ShowsError context data) :
    ShowsError other data := by
  unfold ShowsError ProcessContext.showError at *
  rw [← same] at shows
  simp only [ProcessContext.mk.injEq] at shows ⊢
  simp [shows]

theorem posted_navigateTo {target : Page} (notAdmin : target ≠ .adminAreaPage) :
    (kiosk.navigateTo target).posted =
      kiosk.posted ++ tasksOf (kiosk.screen, target) := by
  simp [Kiosk.navigateTo, Kiosk.navigated, Kiosk.screen,
    StationStateBridge.onNavigateTo, notAdmin]

theorem Alike.navigateTo (alike : Alike kiosk middle) {target : Page}
    (elsewhere :
      target ∉ [Page.adminAreaPage, .mixPage, .mixSuccessPage, .mixErrorPage]) :
    Moved store kiosk (middle.navigateTo target) event := by
  simp only [List.mem_cons, not_or] at elsewhere
  obtain ⟨notAdmin, notMix, notSuccess, notError, -⟩ := elsewhere
  refine .navigated (screen_navigateTo notAdmin) notMix notSuccess notError ?_
    alike.closures
  rw [posted_navigateTo notAdmin, alike.posted, alike.screen]

theorem Alike.processActiveRecipe (alike : Alike kiosk middle)
    (sameRecipe : middle.activeRecipe = kiosk.activeRecipe)
    (asks : kiosk.shows .cocktailDetailPage = true ∨
      kiosk.shows .mixGlassSelectionPage = true) :
    Moved store kiosk (middle.processActiveRecipe store) event := by
  unfold Kiosk.processActiveRecipe
  split
  · next missing =>
      refine .stayed alike.screen alike.posted alike.texts ?_ ?_
      · rw [alike.closures]
        exact fun closure member _ => List.mem_append_left _ member
      · rw [alike.closures]
        intro closure member
        rcases List.mem_append.mp member with isOld | isNew
        · exact .inl isOld
        · rw [List.mem_singleton.mp isNew]
          exact .inr (.notFound asks (sameRecipe ▸ missing))
  · have posted : (middle.navigateTo .mixPage).posted = _ :=
      posted_navigateTo (by decide)
    rw [alike.posted] at posted
    exact .ordered (screen_navigateTo (by decide))
      (congrArg (fun tasks => tasks ++ [_]) posted) alike.closures

theorem moved_perform {closure : Closure} {closures : List Closure}
    (first : kiosk.closures = closure :: closures) :
    Moved store kiosk ({ kiosk with closures }.perform formatMilliLitre
      ingredientStore closure) .runClosure := by
  have others : ∀ later ∈ closures,
      later ∈ kiosk.closures ∨ Adds store kiosk .runClosure later := by
    rw [first]
    exact fun later member => .inl (List.mem_cons_of_mem _ member)
  have kept : ShowsOutcome closure = false → ∀ other ∈ kiosk.closures,
      ShowsOutcome other = true → other ∈ closures := by
    intro notOutcome other member isOutcome
    rw [first] at member
    rcases List.mem_cons.mp member with rfl | isLater
    · rw [notOutcome] at isOutcome
      cases isOutcome
    · exact isLater
  cases closure with
  | updateUiRecipe commands =>
      exact .stayed rfl rfl (fun _ => id) (kept rfl) others
  | updateCommandStatus commandId status =>
      exact .stayed rfl rfl (fun _ => id) (kept rfl) others
  | displayUiSuccess =>
      refine .succeeded first (screen_navigateTo (by decide)) ?_
      refine (posted_navigateTo (by decide)).trans ?_
      simp [tasksOf]
  | displayUiError data =>
      exact .failed first (screen_navigateTo (by decide))
        (posted_navigateTo (by decide)) rfl

theorem moved_invoke {closures : List Closure}
    (adds : ∀ closure ∈ closures, Adds store kiosk event closure) :
    Moved store kiosk (invokeFromEventLoop kiosk closures) event := by
  refine .stayed rfl rfl (fun _ => id) ?_ ?_
  · exact fun closure member _ => List.mem_append_left _ member
  · intro closure member
    rcases List.mem_append.mp member with isOld | isNew
    · exact .inl isOld
    · exact .inr (adds closure isNew)

theorem moved_onSubmitOperatorPin (hmac : String → String → String)
    (pinConfig : OperatorAuthConfig) (pin : String) (now : TimePoint) :
    Moved store kiosk (kiosk.navigated
      (kiosk.bridge.onSubmitOperatorPin hmac pinConfig pin now)) event := by
  simp only [StationStateBridge.onSubmitOperatorPin]
  split
  · next accepted =>
      refine .navigated (?_ : _ = Page.adminAreaPage) (by decide) (by decide)
        (by decide) ?_ rfl <;>
        simp_all [Kiosk.navigated, Kiosk.screen,
          StationStateBridge.onNavigateTo]
  · refine .stayed rfl ?_ (fun _ => id) (fun closure member _ => member)
      fun closure => .inl
    simp [Kiosk.navigated]

theorem alike_boostRecipeCallback {value : Int}
    (called : kiosk.boostRecipeCallback formatMilliLitre store ingredientStore
      value = some next) : Alike kiosk next := by
  unfold Kiosk.boostRecipeCallback at called
  split at called
  · cases called
    exact .refl kiosk
  · split at called
    · cases called
    · cases called
      exact ⟨rfl, rfl, rfl, fun _ => id⟩

theorem moved_processRecipe
    (shown : kiosk.shows .cocktailDetailPage = true) :
    Moved store kiosk (kiosk.processRecipe store) event := by
  have asked : Alike kiosk
      { kiosk with
        context := { kiosk.context with boost := kiosk.boostValue } } :=
    ⟨rfl, rfl, rfl, fun data => showsError_of_texts rfl⟩
  unfold Kiosk.processRecipe
  dsimp only
  split
  · split
    · refine Alike.processActiveRecipe ?_ rfl (.inl shown)
      exact ⟨rfl, rfl, rfl, fun data => showsError_of_texts rfl⟩
    · exact asked.navigateTo (by decide)
  · exact asked.navigateTo (by decide)

theorem moved_of_handle (handled : kiosk.handle formatMilliLitre store
    ingredientStore hmac pinConfig event = some next) :
    Moved store kiosk next event := by
  cases event with
  | recipeClicked row =>
      simp only [Kiosk.handle, Option.ite_none_right_eq_some,
        Option.map_eq_some_iff] at handled
      obtain ⟨_, recipe, _, rfl⟩ := handled
      refine Alike.navigateTo ?_ (by decide)
      exact ⟨rfl, rfl, rfl, fun _ => id⟩
  | boosterChanged value =>
      simp only [Kiosk.handle, Option.ite_none_right_eq_some] at handled
      obtain ⟨screen, posted, closures, texts⟩ :=
        alike_boostRecipeCallback handled.2
      exact Alike.stayed ⟨screen, posted, closures, texts⟩
  | processRecipe =>
      simp only [Kiosk.handle, Option.ite_none_right_eq_some] at handled
      obtain ⟨shown, isNext⟩ := handled
      obtain rfl := Option.some.inj isNext
      exact moved_processRecipe shown
  | glassClicked row =>
      simp only [Kiosk.handle, Option.ite_none_right_eq_some,
        Option.map_eq_some_iff] at handled
      obtain ⟨_, glass, _, rfl⟩ := handled
      exact Alike.stayed ⟨rfl, rfl, rfl, fun _ => showsError_of_texts rfl⟩
  | volumeClicked row =>
      simp only [Kiosk.handle, Option.ite_none_right_eq_some,
        Kiosk.selectVolume] at handled
      obtain ⟨_, selected⟩ := handled
      obtain ⟨glass, _, selected⟩ := Option.bind_eq_some_iff.mp selected
      obtain ⟨_, selected⟩ := Option.ite_none_right_eq_some.mp selected
      obtain ⟨volume, _, isNext⟩ := Option.bind_eq_some_iff.mp selected
      obtain rfl := Option.some.inj isNext
      exact Alike.stayed ⟨rfl, rfl, rfl, fun _ => showsError_of_texts rfl⟩
  | glassConfirmed =>
      simp only [Kiosk.handle, Option.ite_none_right_eq_some] at handled
      obtain ⟨⟨shown, _⟩, isNext⟩ := handled
      obtain rfl := Option.some.inj isNext
      exact (Alike.refl kiosk).processActiveRecipe rfl (.inr shown)
  | back =>
      simp only [Kiosk.handle, Option.ite_none_right_eq_some] at handled
      obtain rfl := Option.some.inj handled.2
      exact (Alike.refl kiosk).navigateTo (by decide)
  | abort =>
      simp only [Kiosk.handle, Option.ite_none_right_eq_some] at handled
      obtain rfl := Option.some.inj handled.2
      refine moved_invoke fun closure member => ?_
      rw [List.mem_singleton.mp member]
      exact .aborted
  | submitOperatorPin pin now =>
      obtain rfl := Option.some.inj handled
      exact moved_onSubmitOperatorPin hmac pinConfig pin now
  | changeGlasses glasses =>
      simp only [Kiosk.handle, Option.ite_none_right_eq_some] at handled
      obtain rfl := Option.some.inj handled.2
      exact Alike.stayed ⟨rfl, rfl, rfl, fun _ => id⟩
  | setStationReady ready =>
      obtain rfl := Option.some.inj handled
      exact Alike.stayed ⟨rfl, rfl, rfl, fun _ => id⟩
  | bootComplete =>
      simp only [Kiosk.handle, Option.ite_none_right_eq_some] at handled
      obtain rfl := Option.some.inj handled.2
      exact Alike.stayed ⟨rfl, rfl, rfl, fun _ => id⟩
  | invokeFromEventLoop closure =>
      obtain rfl := Option.some.inj handled
      refine moved_invoke fun other member => ?_
      rw [List.mem_singleton.mp member]
      exact .invoked
  | runClosure =>
      simp only [Kiosk.handle] at handled
      split at handled
      · cases handled
      · next closure closures first =>
          obtain rfl := Option.some.inj handled
          exact moved_perform first

theorem alike_instantiate : Alike kiosk kiosk.instantiate := by
  unfold Kiosk.instantiate
  split
  · exact .refl kiosk
  · exact ⟨rfl, rfl, rfl, fun _ => id⟩

theorem Moved.instantiate (moved : Moved store kiosk next event) :
    Moved store kiosk next.instantiate event := by
  have alike : Alike next next.instantiate := alike_instantiate
  cases moved with
  | stayed screen posted texts outcomes added =>
      refine .stayed (alike.screen.trans screen) (alike.posted.trans posted)
        (fun data shows => alike.texts data (texts data shows)) ?_ ?_
      · rw [alike.closures]
        exact outcomes
      · rw [alike.closures]
        exact added
  | navigated screen notMix notSuccess notError posted closures =>
      exact .navigated (alike.screen.trans screen) notMix notSuccess notError
        (alike.posted.trans posted) (alike.closures.trans closures)
  | succeeded first screen posted =>
      exact .succeeded (alike.closures ▸ first) (alike.screen.trans screen)
        (alike.posted.trans posted)
  | failed first screen posted texts =>
      exact .failed (alike.closures ▸ first) (alike.screen.trans screen)
        (alike.posted.trans posted) (alike.texts _ texts)
  | ordered screen posted closures =>
      exact .ordered (alike.screen.trans screen) (alike.posted.trans posted)
        (alike.closures.trans closures)

theorem moved_of_step (stepped : RecipeOrder.step formatMilliLitre store
    ingredientStore hmac pinConfig kiosk event = some next) :
    Moved store kiosk next event := by
  obtain ⟨middle, handled, rfl⟩ := Option.map_eq_some_iff.mp stepped
  exact (moved_of_handle handled).instantiate

theorem Moved.prefix_posted (moved : Moved store kiosk next event) :
    kiosk.posted <+: next.posted := by
  cases moved with
  | stayed screen posted texts outcomes added => rw [posted]
  | navigated screen notMix notSuccess notError posted closures =>
      rw [posted]
      exact List.prefix_append _ _
  | succeeded first screen posted => rw [posted]
  | failed first screen posted texts =>
      rw [posted]
      exact List.prefix_append _ _
  | ordered screen posted closures =>
      rw [posted, List.append_assoc]
      exact List.prefix_append _ _

theorem Moved.added (moved : Moved store kiosk next event) :
    ∀ closure ∈ next.closures,
      closure ∈ kiosk.closures ∨ Adds store kiosk event closure := by
  cases moved with
  | stayed screen posted texts outcomes added => exact added
  | navigated screen notMix notSuccess notError posted closures =>
      rw [closures]
      exact fun closure => .inl
  | succeeded first screen posted =>
      rw [first]
      exact fun closure member => .inl (List.mem_cons_of_mem _ member)
  | failed first screen posted texts =>
      rw [first]
      exact fun closure member => .inl (List.mem_cons_of_mem _ member)
  | ordered screen posted closures =>
      rw [closures]
      exact fun closure => .inl

end Screen

section Runs

variable {formatMilliLitre : Int → String} {store : RecipeStore}
  {ingredientStore : IngredientStore} {hmac : String → String → String}
  {pinConfig : OperatorAuthConfig}
  {station next : Station ingredientStore}
  {events : List (Event ingredientStore)}

/-- What the user interface sees of a run, but the closures. -/
def tapsOf (events : List (Event ingredientStore)) : List RecipeOrder.Event :=
  events.filterMap fun
    | .kiosk event => some event
    | _ => none

def IsTap : RecipeOrder.Event → Bool
  | .invokeFromEventLoop _ => false
  | _ => true

/-- What a step of the system does. -/
inductive Stepped (formatMilliLitre : Int → String) (store : RecipeStore)
    (hmac : String → String → String) (pinConfig : OperatorAuthConfig)
    (station : Station ingredientStore) :
    Event ingredientStore → Station ingredientStore → Prop
  | kiosk {event : RecipeOrder.Event} {kiosk : Kiosk}
      (isTap : IsTap event = true)
      (stepped : RecipeOrder.step formatMilliLitre store ingredientStore hmac
        pinConfig station.kiosk event = some kiosk) :
      Stepped formatMilliLitre store hmac pinConfig station (.kiosk event)
        { station with kiosk }
  | aborted
      (isTask :
        station.kiosk.posted[station.taken]? = some .abortActiveRecipe) :
      Stepped formatMilliLitre store hmac pinConfig station .runTask
        { station with
          taken := station.taken + 1
          processing := station.processing.abortActiveRecipe }
  | started {order : Order} {commands : Commands}
      (isTask : station.kiosk.posted[station.taken]? =
        some (.startRecipeProcessing order))
      (isCommands : order.commands ingredientStore = .ok commands) :
      Stepped formatMilliLitre store hmac pinConfig station .runTask
        { station with
          taken := station.taken + 1
          processing := station.processing.startRecipeProcessing commands }
  | turned {number : Nat} {event : RecipeTask.Event MixError}
      {task next : RecipeTask MixError} {delivery : Option Delivery}
      (isTask : station.processing.recipes[number]? = some task)
      (stepped : task.step event = some (next, delivery)) :
      Stepped formatMilliLitre store hmac pinConfig station
        (.recipe number event)
        { station with
          processing := station.processing.afterTurn number next delivery
          kiosk := invokeFromEventLoop station.kiosk
            (station.closuresOfTurn task.mix next.mix) }
  | configured (config : StationConfig ingredientStore)
      (order : IterationOrder IngredientId PodDispenser) :
      Stepped formatMilliLitre store hmac pinConfig station
        (.configure config order) { station with config, order }

theorem stepped_of_step {event : Event ingredientStore}
    (isStep : step formatMilliLitre store hmac pinConfig station event =
      some next) :
    Stepped formatMilliLitre store hmac pinConfig station event next := by
  cases event with
  | kiosk event =>
      cases event
      case invokeFromEventLoop closure => cases isStep
      all_goals
        simp only [step, Option.map_eq_some_iff] at isStep
        obtain ⟨kiosk, tapped, rfl⟩ := isStep
        exact .kiosk rfl tapped
  | runTask =>
      obtain ⟨task, isTask, ran⟩ := Option.bind_eq_some_iff.mp isStep
      cases task with
      | abortActiveRecipe =>
          cases ran
          exact .aborted isTask
      | startRecipeProcessing order =>
          simp only [Station.runTask] at ran
          split at ran
          · cases ran
          · next commands isCommands =>
              cases ran
              exact .started isTask isCommands
  | recipe number event =>
      simp only [step] at isStep
      split at isStep
      · cases isStep
      · next task isTask =>
          obtain ⟨⟨changed, delivery⟩, isTurn, rfl⟩ :=
            Option.map_eq_some_iff.mp isStep
          exact .turned isTask isTurn
  | configure config order =>
      cases isStep
      exact .configured config order

/-- The io thread has started what was ordered, in order. -/
structure Linked (station : Station ingredientStore) : Prop where
  supervised : Supervised station.processing
  taken : station.taken ≤ station.kiosk.posted.length
  started : (ordersOf (station.kiosk.posted.take station.taken)).map
      (fun order => order.commands ingredientStore) =
    (commandsOf station.processing).map .ok

theorem linked_start (glasses : GlassContext.GlassList)
    (config : StationConfig ingredientStore)
    (order : IterationOrder IngredientId PodDispenser) :
    Linked (.start glasses config order) where
  supervised := supervised_initial
  taken := le_rfl
  started := rfl

theorem take_posted_succ {task : Task}
    (isTask : station.kiosk.posted[station.taken]? = some task) :
    ordersOf (station.kiosk.posted.take (station.taken + 1)) =
      ordersOf (station.kiosk.posted.take station.taken) ++
        ordersOf [task] := by
  rw [List.take_add_one, isTask, ordersOf_append]
  rfl

theorem Linked.step (linked : Linked station) {event : Event ingredientStore}
    (stepped : Stepped formatMilliLitre store hmac pinConfig station event
      next) : Linked next := by
  cases stepped with
  | kiosk isTap stepped =>
      obtain ⟨rest, posted⟩ := (moved_of_step stepped).prefix_posted
      refine ⟨linked.supervised, ?_, ?_⟩
      · have before := linked.taken
        rw [← posted, List.length_append]
        exact Nat.le_add_right_of_le before
      · rw [← posted, List.take_append_of_le_length linked.taken]
        exact linked.started
  | aborted isTask =>
      refine ⟨linked.supervised.abortActiveRecipe, ?_, ?_⟩
      · exact (List.getElem?_eq_some_iff.mp isTask).1
      · rw [commandsOf_abortActiveRecipe, take_posted_succ isTask]
        simpa [ordersOf] using linked.started
  | started isTask isCommands =>
      refine ⟨linked.supervised.startRecipeProcessing _, ?_, ?_⟩
      · exact (List.getElem?_eq_some_iff.mp isTask).1
      · rw [commandsOf_startRecipeProcessing, take_posted_succ isTask,
          List.map_append, List.map_append, linked.started]
        simp [ordersOf, isCommands]
  | turned isTask stepped =>
      have sound := linked.supervised.sound _ (List.mem_of_getElem? isTask)
      have turned := turned_step sound stepped
      refine ⟨linked.supervised.turn isTask turned ?_, linked.taken, ?_⟩
      · rintro queued ⟨⟩ command isDispense
        exact mem_leaves_of_queued stepped isDispense
      · rw [commandsOf_afterTurn isTask turned]
        exact linked.started
  | configured config order =>
      exact ⟨linked.supervised, linked.taken, linked.started⟩

theorem instantiate_invoke {kiosk : Kiosk}
    (instantiated : kiosk.instantiate = kiosk) (closures : List Closure) :
    (invokeFromEventLoop kiosk closures).instantiate =
      invokeFromEventLoop kiosk closures := by
  have shows : (invokeFromEventLoop kiosk closures).shows .cocktailDetailPage =
      kiosk.shows .cocktailDetailPage := rfl
  unfold Kiosk.instantiate at instantiated ⊢
  rw [shows]
  split
  · rfl
  · next hidden =>
      rw [if_neg hidden] at instantiated
      have unset : kiosk.boostValue = 0 :=
        (congrArg Kiosk.boostValue instantiated).symm
      simp [invokeFromEventLoop, unset]

@[simp]
theorem instantiate_instantiate (kiosk : Kiosk) :
    kiosk.instantiate.instantiate = kiosk.instantiate := by
  have shows : kiosk.instantiate.shows .cocktailDetailPage =
      kiosk.shows .cocktailDetailPage := shows_instantiate _
  rw [Kiosk.instantiate, shows]
  unfold Kiosk.instantiate
  split <;> rfl

/-- The closures of a turn reach the user interface one after the other. -/
theorem run_invoke {kiosk : Kiosk}
    (instantiated : kiosk.instantiate = kiosk) (closures : List Closure) :
    run (RecipeOrder.step formatMilliLitre store ingredientStore hmac pinConfig)
        kiosk (closures.map .invokeFromEventLoop) =
      some (invokeFromEventLoop kiosk closures) := by
  induction closures generalizing kiosk with
  | nil => simp [invokeFromEventLoop]
  | cons closure closures ih =>
      have once := instantiate_invoke instantiated [closure]
      have stepped : RecipeOrder.step formatMilliLitre store ingredientStore
          hmac pinConfig kiosk (.invokeFromEventLoop closure) =
            some (invokeFromEventLoop kiosk [closure]) :=
        congrArg some once
      rw [List.map_cons, run_cons, stepped, Option.bind_some, ih once]
      simp [invokeFromEventLoop]

variable (formatMilliLitre store ingredientStore hmac pinConfig) in
/-- The user interface has its own run, in which the closures come from
outside. -/
def Follows (glasses : GlassContext.GlassList)
    (events : List (Event ingredientStore)) (kiosk : Kiosk) : Prop :=
  ∃ taps, run (RecipeOrder.step formatMilliLitre store ingredientStore hmac
      pinConfig) { glasses } taps = some kiosk ∧
    taps.filter IsTap = tapsOf events

theorem Follows.step {glasses : GlassContext.GlassList}
    (follows : Follows formatMilliLitre store ingredientStore hmac pinConfig
      glasses events station.kiosk)
    (instantiated : station.kiosk.instantiate = station.kiosk)
    {event : Event ingredientStore}
    (stepped : Stepped formatMilliLitre store hmac pinConfig station event
      next) :
    Follows formatMilliLitre store ingredientStore hmac pinConfig glasses
        (events ++ [event]) next.kiosk ∧
      next.kiosk.instantiate = next.kiosk := by
  obtain ⟨taps, ran, sameTaps⟩ := follows
  have unchanged : ∀ other : Event ingredientStore, tapsOf [other] = [] →
      Follows formatMilliLitre store ingredientStore hmac pinConfig glasses
        (events ++ [other]) station.kiosk := by
    intro other noTap
    refine ⟨taps, ran, ?_⟩
    rw [sameTaps, tapsOf, tapsOf, List.filterMap_append, ← tapsOf, ← tapsOf,
      noTap, List.append_nil]
  cases stepped with
  | @kiosk tap kiosk isTap tapped =>
      refine ⟨⟨taps ++ [tap], run_concat_eq_some.mpr ⟨_, ran, tapped⟩, ?_⟩, ?_⟩
      · rw [List.filter_append, sameTaps, tapsOf, tapsOf, List.filterMap_append]
        simp [isTap]
      · obtain ⟨middle, _, rfl⟩ := Option.map_eq_some_iff.mp tapped
        exact instantiate_instantiate middle
  | aborted isTask => exact ⟨unchanged _ rfl, instantiated⟩
  | started isTask isCommands => exact ⟨unchanged _ rfl, instantiated⟩
  | turned isTask turned =>
      refine ⟨⟨taps ++ List.map .invokeFromEventLoop _,
        run_append_eq_some.mpr ⟨_, ran, run_invoke instantiated _⟩, ?_⟩,
        instantiate_invoke instantiated _⟩
      rw [List.filter_append, sameTaps, tapsOf, tapsOf, List.filterMap_append]
      simp [IsTap, List.filter_eq_nil_iff]
  | configured config order => exact ⟨unchanged _ rfl, instantiated⟩

section Reachable

variable {glasses : GlassContext.GlassList}
  {config : StationConfig ingredientStore}
  {order : IterationOrder IngredientId PodDispenser}

theorem linked_of_run (ran : run (step formatMilliLitre store hmac pinConfig)
      (.start glasses config order) events = some station) :
    Linked station :=
  invariant_of_run Linked
    (fun _ _ _ linked isStep => linked.step (stepped_of_step isStep))
    (linked_start glasses config order) ran

theorem follows_of_run (ran : run (step formatMilliLitre store hmac pinConfig)
      (.start glasses config order) events = some station) :
    Follows formatMilliLitre store ingredientStore hmac pinConfig glasses
      events station.kiosk := by
  have follows := history_of_run (fun events (station : Station _) =>
      Follows formatMilliLitre store ingredientStore hmac pinConfig glasses
        events station.kiosk ∧ station.kiosk.instantiate = station.kiosk)
    ⟨⟨[], rfl, rfl⟩, rfl⟩
    (fun _ _ _ _ _ before isStep =>
      before.1.step before.2 (stepped_of_step isStep)) ran
  exact follows.1

/-- Whenever a Pod is asked to dispense, it is for a command of an order that
goes back to a tap on the detail page: one of the commands of the recipe with
the boost, scaled to the glass. -/
theorem dispensed_as_shown (distinct : (store.recipes.map Recipe.id).Nodup)
    (ran : run (step formatMilliLitre store hmac pinConfig)
      (.start glasses config order) events = some station) :
    ∃ taps, run (RecipeOrder.step formatMilliLitre store ingredientStore hmac
          pinConfig) { glasses } taps = some station.kiosk ∧
        taps.filter IsTap = tapsOf events ∧
      ∀ queued ∈ station.processing.queued, ∀ command,
        queued.delivery.order = .dispense command →
          ∃ ordered ∈ (ordersOf station.kiosk.posted)[queued.recipe]?,
            (∃ position, Placed formatMilliLitre store ingredientStore hmac
              pinConfig glasses taps ordered position) ∧
            ∃ commands, ordered.commands ingredientStore = .ok commands ∧
              .dispense command ∈ commands.leaves := by
  obtain ⟨taps, tapsRan, sameTaps⟩ := follows_of_run ran
  refine ⟨taps, tapsRan, sameTaps, ?_⟩
  intro queued isQueued command isDispense
  have linked := linked_of_run ran
  obtain ⟨commands, isCommands, member⟩ :=
    linked.supervised.dispensed queued isQueued command isDispense
  -- The recipe with this number is the order with this number.
  have sameNumber := congrArg (fun all => all[queued.recipe]?) linked.started
  simp only [List.getElem?_map, Option.mem_def.mp isCommands, Option.map_some,
    Option.map_eq_some_iff] at sameNumber
  obtain ⟨ordered, isOrdered, commandsOf⟩ := sameNumber
  have isPosted : (ordersOf station.kiosk.posted)[queued.recipe]? =
      some ordered := by
    obtain ⟨later, posted⟩ := List.take_prefix station.taken
      station.kiosk.posted
    rw [← posted, ordersOf_append,
      List.getElem?_append_left (List.getElem?_eq_some_iff.mp isOrdered).1]
    exact isOrdered
  obtain ⟨positions, served⟩ := served_of_run distinct tapsRan
  have placed := served.placed
  obtain ⟨inside, isThis⟩ := List.getElem?_eq_some_iff.mp isPosted
  refine ⟨ordered, isPosted, ?_, commands, commandsOf, member⟩
  have isPlaced := placed.get inside (placed.length_eq ▸ inside)
  simp only [List.get_eq_getElem, isThis] at isPlaced
  exact ⟨_, isPlaced⟩

/-- Only the rum has a dispenser. -/
def rumLeft : StationConfig rumAndLime :=
  StationConfig.empty.insertOrAssign "rum" rfl ⟨"left", 0⟩

/-- The order of the guest comes to its first command. -/
def poursRum : List (Event rumAndLime) :=
  strongPunch.map .kiosk ++
    [.runTask, .recipe 0 (.proceed (.execute .next)),
      .recipe 0 (.proceed (.execute (.start 0))),
      .recipe 0 (.queueCommand 0 "left")]

theorem dispensed_as_shown_poursRum :
    ∃ station : Station rumAndLime, ∃ taps,
      run (RecipeOrder.step (fun _ => "") punchStore rumAndLime
          (fun salt pin => salt ++ pin) ⟨"", "", 3, 10⟩)
          { glasses := highball } taps = some station.kiosk ∧
        taps.filter IsTap = tapsOf poursRum ∧
      (∀ queued ∈ station.processing.queued, ∀ command,
        queued.delivery.order = .dispense command →
          ∃ ordered ∈ (ordersOf station.kiosk.posted)[queued.recipe]?,
            (∃ position, Placed (fun _ => "") punchStore rumAndLime
              (fun salt pin => salt ++ pin) ⟨"", "", 3, 10⟩ highball taps
              ordered position) ∧
            ∃ commands, ordered.commands rumAndLime = .ok commands ∧
              .dispense command ∈ commands.leaves) ∧
      station.processing.queued =
        [⟨0, ⟨"left", .dispense ⟨1, "rum", 7 / 50⟩⟩⟩] := by
  have ran : (run (step (fun _ => "") punchStore
      (fun salt pin => salt ++ pin) ⟨"", "", 3, 10⟩)
      (.start highball rumLeft (.stored _ _)) poursRum).any (fun station =>
        station.processing.queued =
          [⟨0, ⟨"left", .dispense ⟨1, "rum", 7 / 50⟩⟩⟩]) = true := by
    decide +kernel
  obtain ⟨station, ran, isQueued⟩ := (Option.any_eq_true _ _).mp ran
  obtain ⟨taps, tapsRan, sameTaps, asShown⟩ :=
    dispensed_as_shown (by decide) ran
  exact ⟨station, taps, tapsRan, sameTaps, asShown, of_decide_eq_true isQueued⟩

end Reachable

end Runs

end OrderOutcome

end CocktailMaker
