import CocktailMaker.ApplicationInit
import CocktailMaker.BoostStrength
import CocktailMaker.ErrorPage
import CocktailMaker.GlassContextBridge
import CocktailMaker.MaintenanceAccess

/-!
# Ordering a recipe

A guest taps a recipe, moves the slider for its strength, and chooses a glass,
while recipes that were ordered before may still change what is on the screen.
Every order that is posted goes back to a tap of its own on the detail page:
it is for the recipe and the boost that the page showed then, and what is
dispensed for it is what the page listed, scaled to the glass.
-/

namespace CocktailMaker

namespace RecipeOrder

open CommandRows ErrorPage LabelledRun MaintenanceAccess OperatorPin

/-- A recipe as it is shown, with the path of its image. -/
@[ext]
structure RecipeView where
  id : RecipeId := ""
  name : String := "Passion Rum Cooler"
  tagLine : List String := []
  description : String := ""
  image : RecipePath := ⟨"../../../db/recipes", "mojito", ".png"⟩
  commands : List CommandRow := []
  isBoostable : Bool := true
  deriving DecidableEq

structure ProcessContext where
  customerTitle : String := "Kurze Unterbrechung"
  customerMessage : String :=
    "Es gab ein technisches Problem. Bitte wende dich an das Personal."
  technicalTitle : String := "Pod-Fehler"
  technicalDescription : String :=
    "Der Pod hat innerhalb des Sicherheits-Zeitlimits nicht reagiert."
  errorItemCategory : String := "I"
  errorItemName : String := "Orangensaft"
  errorItemDetails : String := "Pod 1 - Dispenser 3"
  boost : Int := 0
  glass : Option GlassContext.Entry := none
  glassVolume : Int := 0
  deriving DecidableEq

/-- The arguments of `start_recipe_processing`. -/
structure Order where
  recipe : Recipe
  boost : Percent
  targetVolume : Litre
  deriving DecidableEq

/-- What is posted to the executor. -/
inductive Task
  | startRecipeProcessing (order : Order)
  | abortActiveRecipe
  deriving DecidableEq

/-- What is invoked on the event loop for a recipe that is processed. -/
inductive Closure
  | updateUiRecipe (commands : Commands)
  | updateCommandStatus (id : CommandId) (status : CommandStatus)
  | displayUiSuccess
  | displayUiError (data : ErrorPageData)
  deriving DecidableEq

/-- The user interface: the contexts, the `boost-value` of the detail page, the
closures that wait for the event loop, and everything that was posted. -/
structure Kiosk where
  bridge : StationStateBridge := {}
  deviceReady : Bool := false
  bootScreenConfirmed : Bool := false
  activeRecipe : RecipeView := {}
  boostValue : Int := 0
  context : ProcessContext := {}
  glasses : GlassContext.GlassList := {}
  closures : List Closure := []
  posted : List Task := []

/-- What the guest and the operator tap, what changes around them, and the
turns of the event loop. -/
inductive Event
  | recipeClicked (row : Nat)
  | boosterChanged (value : Int)
  | processRecipe
  | glassClicked (row : Nat)
  | volumeClicked (row : Nat)
  | glassConfirmed
  | back
  | abort
  | submitOperatorPin (pin : String) (now : TimePoint)
  | changeGlasses (glasses : GlassContext.GlassList)
  | setStationReady (ready : Bool)
  | bootComplete
  | invokeFromEventLoop (closure : Closure)
  | runClosure

/-- Which page is on the screen, when the boot screen is not. -/
def Kiosk.shows (kiosk : Kiosk) (page : Page) : Bool :=
  kiosk.deviceReady && kiosk.bootScreenConfirmed &&
    kiosk.bridge.context.activeScreen == page

def digitsValue (digits : List Char) : Nat :=
  digits.foldl (fun value digit => value * 10 + (digit.toNat - '0'.toNat)) 0

/-- `to-float()` of a text that shows a whole number, as those of the volumes
do. -/
def toFloat (text : String) : Int :=
  match text.toList with
  | '-' :: digits => -digitsValue digits
  | digits => digitsValue digits

/-- The texts of `active-volumes-ml`. -/
def activeVolumesMl (glasses : GlassContext.GlassList)
    (entry : GlassContext.Entry) : List String :=
  ((glasses.volumeModels[entry.activeVolumes]?).map
    GlassContext.VolumeModel.rows).getD []

/-- The callback on `navigated_to`. -/
def tasksOf (navigation : Page × Page) : List Task :=
  if navigation.1 = .mixPage ∧ navigation.2 ≠ .mixSuccessPage then
    [.abortActiveRecipe]
  else []

/-- The bridge has been called, and has called `navigated_to`. -/
def Kiosk.navigated (kiosk : Kiosk) (bridge : StationStateBridge) : Kiosk :=
  let navigations :=
    bridge.navigatedTo.drop kiosk.bridge.navigatedTo.length
  { kiosk with
    bridge
    posted := kiosk.posted ++ navigations.flatMap tasksOf }

def Kiosk.navigateTo (kiosk : Kiosk) (target : Page) : Kiosk :=
  kiosk.navigated (kiosk.bridge.onNavigateTo target)

section Bridges

variable (formatMilliLitre : Int → String) (store : RecipeStore)
  (ingredientStore : IngredientStore)

/-- `transform` of a recipe. -/
def transformRecipe (recipe : Recipe) : RecipeView where
  id := recipe.id
  name := recipe.displayName
  tagLine := recipe.tags.map fun tag => tag.map Char.toUpper
  description := recipe.description
  image := recipe.imagePath
  commands := transform formatMilliLitre recipe.commands ingredientStore
  isBoostable := isRecipeBoostable recipe.commands ingredientStore

/-- An assertion that fails ends the program, which is no step. -/
def Kiosk.boostRecipeCallback (kiosk : Kiosk) (boostPercentage : Int) :
    Option Kiosk :=
  match store.findById kiosk.activeRecipe.id with
  | none => some kiosk
  | some recipe =>
      match boostRecipe recipe.commands boostPercentage ingredientStore with
      | .error _ => none
      | .ok commands =>
          some { kiosk with
            activeRecipe :=
              transformRecipe formatMilliLitre ingredientStore
                { recipe with commands } }

/-- The callback on `process-active-recipe`. -/
def Kiosk.processActiveRecipe (kiosk : Kiosk) : Kiosk :=
  match store.findById kiosk.activeRecipe.id with
  | none =>
      { kiosk with
        closures := kiosk.closures ++ [.displayUiError makeRecipeNotFound] }
  | some recipe =>
      let kiosk := kiosk.navigateTo .mixPage
      let order : Order :=
        { recipe
          boost := kiosk.context.boost
          targetVolume := milliLitre kiosk.context.glassVolume }
      { kiosk with posted := kiosk.posted ++ [.startRecipeProcessing order] }

/-- `process-recipe` of the detail page: a single glass with a single volume
needs no selection. -/
def Kiosk.processRecipe (kiosk : Kiosk) : Kiosk :=
  let kiosk :=
    { kiosk with context := { kiosk.context with boost := kiosk.boostValue } }
  match kiosk.glasses.entries with
  | [glass] =>
      match glass.commonVolumes with
      | [volume] =>
          { kiosk with
            context :=
              { kiosk.context with
                glass := some glass
                glassVolume := toFloat volume } }.processActiveRecipe store
      | _ => kiosk.navigateTo .mixGlassSelectionPage
  | _ => kiosk.navigateTo .mixGlassSelectionPage

def Kiosk.selectGlass (kiosk : Kiosk) (descriptor : GlassContext.Entry) : Kiosk :=
  let glassVolume :=
    match activeVolumesMl kiosk.glasses descriptor with
    | [volume] => toFloat volume
    | _ => 0
  { kiosk with
    context := { kiosk.context with glass := some descriptor, glassVolume } }

/-- A tap on one of several volumes of the chosen glass. -/
def Kiosk.selectVolume (kiosk : Kiosk) (row : Nat) : Option Kiosk := do
  let glass ← kiosk.context.glass
  let volumes := activeVolumesMl kiosk.glasses glass
  if glass.id ≠ "" ∧ 1 < volumes.length then
    let volume ← volumes[row]?
    return { kiosk with
      context := { kiosk.context with glassVolume := toFloat volume } }
  else none

/-- `can-confirm` -/
def Kiosk.canConfirm (kiosk : Kiosk) : Bool :=
  kiosk.context.glass.any (fun glass => glass.id != "") &&
    decide (0 < kiosk.context.glassVolume)

/-- The closure of `display_ui_error`, before it navigates. -/
def ProcessContext.showError (context : ProcessContext)
    (data : ErrorPageData) : ProcessContext :=
  let customerText := customerTextFor data.itemCategory
  { context with
    customerTitle := customerText.title
    customerMessage := customerText.message
    technicalTitle := data.technicalTitle
    technicalDescription := data.technicalDescription
    errorItemCategory := toSlintString data.itemCategory
    errorItemName := data.itemName
    errorItemDetails := data.itemDetails }

def Kiosk.perform (kiosk : Kiosk) : Closure → Kiosk
  | .updateUiRecipe commands =>
      { kiosk with
        activeRecipe :=
          { kiosk.activeRecipe with
            commands :=
              transform formatMilliLitre commands ingredientStore } }
  | .updateCommandStatus id status =>
      { kiosk with
        activeRecipe :=
          { kiosk.activeRecipe with
            commands :=
              updateCommandStatus id status kiosk.activeRecipe.commands } }
  | .displayUiSuccess => kiosk.navigateTo .mixSuccessPage
  | .displayUiError data =>
      { kiosk with context := kiosk.context.showError data }.navigateTo
        .mixErrorPage

variable (hmac : String → String → String) (config : OperatorAuthConfig)

def Kiosk.handle (kiosk : Kiosk) : Event → Option Kiosk
  | .recipeClicked row =>
      if kiosk.shows .cocktailListPage then
        (store.findByIndex row).map fun recipe =>
          { kiosk with
            activeRecipe := transformRecipe formatMilliLitre ingredientStore
              recipe }.navigateTo .cocktailDetailPage
      else none
  | .boosterChanged value =>
      if kiosk.shows .cocktailDetailPage ∧ kiosk.activeRecipe.isBoostable ∧
          -80 ≤ value ∧ value ≤ 80 then
        { kiosk with boostValue := value }.boostRecipeCallback
          formatMilliLitre store ingredientStore value
      else none
  | .processRecipe =>
      if kiosk.shows .cocktailDetailPage then some (kiosk.processRecipe store)
      else none
  | .glassClicked row =>
      if kiosk.shows .mixGlassSelectionPage then
        kiosk.glasses.entries[row]?.map kiosk.selectGlass
      else none
  | .volumeClicked row =>
      if kiosk.shows .mixGlassSelectionPage then kiosk.selectVolume row
      else none
  | .glassConfirmed =>
      if kiosk.shows .mixGlassSelectionPage ∧ kiosk.canConfirm then
        some (kiosk.processActiveRecipe store)
      else none
  | .back =>
      if kiosk.deviceReady ∧ kiosk.bootScreenConfirmed ∧
          ¬ kiosk.shows .cocktailListPage ∧ ¬ kiosk.shows .finishedPage then
        some (kiosk.navigateTo .cocktailListPage)
      else none
  | .abort =>
      if kiosk.shows .mixPage then
        some { kiosk with
          closures := kiosk.closures ++ [.displayUiError makeAbort] }
      else none
  | .submitOperatorPin pin now =>
      some (kiosk.navigated
        (kiosk.bridge.onSubmitOperatorPin hmac config pin now))
  | .changeGlasses glasses =>
      if kiosk.shows .adminAreaPage then some { kiosk with glasses } else none
  | .setStationReady ready =>
      some { kiosk with
        deviceReady := ready
        bootScreenConfirmed := kiosk.bootScreenConfirmed && ready }
  | .bootComplete =>
      if kiosk.deviceReady then some { kiosk with bootScreenConfirmed := true }
      else none
  | .invokeFromEventLoop closure =>
      some { kiosk with closures := kiosk.closures ++ [closure] }
  | .runClosure =>
      match kiosk.closures with
      | [] => none
      | closure :: closures =>
          some ({ kiosk with closures }.perform formatMilliLitre
            ingredientStore closure)

/-- The detail page is made anew whenever it appears. -/
def Kiosk.instantiate (kiosk : Kiosk) : Kiosk :=
  if kiosk.shows .cocktailDetailPage then kiosk
  else { kiosk with boostValue := 0 }

def step (kiosk : Kiosk) (event : Event) : Option Kiosk :=
  (kiosk.handle formatMilliLitre store ingredientStore hmac config event).map
    Kiosk.instantiate

/-- The commands that `async_process_recipe` executes. -/
def Order.commands (order : Order) : Except Failure Commands := do
  let scaled ← scaleRecipe order.recipe.commands
    order.recipe.nominalServingVolume order.targetVolume
  boostRecipe scaled order.boost ingredientStore

end Bridges

section Navigation

/-- The orders among what was posted. -/
def ordersOf (posted : List Task) : List Order :=
  posted.filterMap fun
    | .startRecipeProcessing order => some order
    | .abortActiveRecipe => none

abbrev Kiosk.screen (kiosk : Kiosk) : Page :=
  kiosk.bridge.context.activeScreen

variable {kiosk : Kiosk}

theorem screen_of_shows {page : Page} (shown : kiosk.shows page = true) :
    kiosk.screen = page := by
  simp only [Kiosk.shows, Bool.and_eq_true, beq_iff_eq] at shown
  exact shown.2

@[simp]
theorem ordersOf_append (first second : List Task) :
    ordersOf (first ++ second) = ordersOf first ++ ordersOf second :=
  List.filterMap_append

theorem ordersOf_tasksOf (navigations : List (Page × Page)) :
    ordersOf (navigations.flatMap tasksOf) = [] := by
  induction navigations with
  | nil => rfl
  | cons navigation navigations ih =>
      rw [List.flatMap_cons, ordersOf_append, ih, List.append_nil, tasksOf]
      split <;> rfl

@[simp]
theorem ordersOf_navigated (bridge : StationStateBridge) :
    ordersOf (kiosk.navigated bridge).posted = ordersOf kiosk.posted := by
  rw [Kiosk.navigated, ordersOf_append, ordersOf_tasksOf, List.append_nil]

@[simp]
theorem ordersOf_navigateTo (target : Page) :
    ordersOf (kiosk.navigateTo target).posted = ordersOf kiosk.posted :=
  ordersOf_navigated _

theorem screen_navigateTo {target : Page} (notAdmin : target ≠ .adminAreaPage) :
    (kiosk.navigateTo target).screen = target := by
  simp [Kiosk.navigateTo, Kiosk.navigated, Kiosk.screen,
    StationStateBridge.onNavigateTo, notAdmin]

theorem screen_onSubmitOperatorPin (hmac : String → String → String)
    (config : OperatorAuthConfig) (bridge : StationStateBridge) (pin : String)
    (now : TimePoint) :
    (bridge.onSubmitOperatorPin hmac config pin now).context.activeScreen =
        bridge.context.activeScreen ∨
      (bridge.onSubmitOperatorPin hmac config pin now).context.activeScreen =
        .adminAreaPage := by
  simp only [StationStateBridge.onSubmitOperatorPin,
    StationStateBridge.onNavigateTo]
  grind

@[simp]
theorem instantiate_fields :
    kiosk.instantiate.bridge = kiosk.bridge ∧
      kiosk.instantiate.deviceReady = kiosk.deviceReady ∧
      kiosk.instantiate.bootScreenConfirmed = kiosk.bootScreenConfirmed ∧
      kiosk.instantiate.activeRecipe = kiosk.activeRecipe ∧
      kiosk.instantiate.context = kiosk.context ∧
      kiosk.instantiate.glasses = kiosk.glasses ∧
      kiosk.instantiate.posted = kiosk.posted := by
  unfold Kiosk.instantiate
  split <;> simp

end Navigation

section Steps

/-- The list of the detail page is made for a recipe and a boost. -/
def Renews : Event → Bool
  | .recipeClicked _ => true
  | .boosterChanged _ => true
  | _ => false

/-- What can change the list, or set the slider back without it. -/
def Disturbs : Event → Bool
  | .runClosure => true
  | .setStationReady ready => !ready
  | _ => false

/-- Since the recipe was tapped or the slider was moved, no closure has run and
the Pods have stayed connected. -/
def undisturbed (events : List Event) : Bool :=
  events.foldl (fun calm event =>
    Renews event || (calm && !Disturbs event)) false

/-- The event asks for nothing and orders nothing. -/
structure Kept (kiosk : Kiosk) (event : Event) (next : Kiosk) : Prop where
  orders : ordersOf next.posted = ordersOf kiosk.posted
  screen : next.screen = kiosk.screen ∨
    (next.screen ≠ .cocktailDetailPage ∧
      next.screen ≠ .mixGlassSelectionPage)
  heading : { next.activeRecipe with
    commands := kiosk.activeRecipe.commands } = kiosk.activeRecipe
  boost : next.context.boost = kiosk.context.boost
  boostValue : next.boostValue = kiosk.boostValue
  undisturbed : Disturbs event = false →
    next.activeRecipe = kiosk.activeRecipe ∧
      (kiosk.shows .cocktailDetailPage = true →
        next.screen = .cocktailDetailPage →
          next.shows .cocktailDetailPage = true)

variable {formatMilliLitre : Int → String} {store : RecipeStore}
  {ingredientStore : IngredientStore} {hmac : String → String → String}
  {config : OperatorAuthConfig}

/-- What an event does to the order. -/
inductive Handled (formatMilliLitre : Int → String) (store : RecipeStore)
    (ingredientStore : IngredientStore) (kiosk : Kiosk) :
    Event → Kiosk → Prop
  | selected {row : Nat} {recipe : Recipe}
      (isRecipe : store.findByIndex row = some recipe)
      (shown : kiosk.shows .cocktailListPage = true) :
      Handled formatMilliLitre store ingredientStore kiosk (.recipeClicked row)
        ({ kiosk with
          activeRecipe := transformRecipe formatMilliLitre ingredientStore
            recipe }.navigateTo .cocktailDetailPage)
  | boosted {value : Int} {next : Kiosk}
      (shown : kiosk.shows .cocktailDetailPage = true)
      (atLeast : -80 ≤ value) (atMost : value ≤ 80)
      (called : { kiosk with boostValue := value }.boostRecipeCallback
        formatMilliLitre store ingredientStore value = some next) :
      Handled formatMilliLitre store ingredientStore kiosk
        (.boosterChanged value) next
  | asked (shown : kiosk.shows .cocktailDetailPage = true) :
      Handled formatMilliLitre store ingredientStore kiosk .processRecipe
        (kiosk.processRecipe store)
  | confirmed (shown : kiosk.shows .mixGlassSelectionPage = true)
      (canConfirm : kiosk.canConfirm = true) :
      Handled formatMilliLitre store ingredientStore kiosk .glassConfirmed
        (kiosk.processActiveRecipe store)
  | kept {event : Event} {next : Kiosk} (isKept : Kept kiosk event next)
      (notRenewed : Renews event = false) :
      Handled formatMilliLitre store ingredientStore kiosk event next

variable {kiosk next : Kiosk}

theorem kept_navigateTo {event : Event} {target : Page}
    (closures : List Closure) {context : ProcessContext}
    (sameBoost : context.boost = kiosk.context.boost)
    (notAdmin : target ≠ .adminAreaPage)
    (notDetail : target ≠ .cocktailDetailPage)
    (notGlass : target ≠ .mixGlassSelectionPage) :
    Kept kiosk event ({ kiosk with closures, context }.navigateTo target) where
  orders := ordersOf_navigateTo target
  screen := by
    rw [screen_navigateTo notAdmin]
    exact .inr ⟨notDetail, notGlass⟩
  heading := rfl
  boost := sameBoost
  boostValue := rfl
  undisturbed _ := by
    refine ⟨rfl, fun _ isDetail => ?_⟩
    rw [screen_navigateTo notAdmin] at isDetail
    exact absurd isDetail notDetail

theorem kept_perform (closure : Closure) (closures : List Closure) :
    Kept kiosk .runClosure ({ kiosk with closures }.perform formatMilliLitre
      ingredientStore closure) := by
  cases closure with
  | updateUiRecipe commands => constructor <;> simp [Kiosk.perform, Disturbs]
  | updateCommandStatus id status =>
      constructor <;> simp [Kiosk.perform, Disturbs]
  | displayUiSuccess => exact kept_navigateTo closures rfl nofun nofun nofun
  | displayUiError data =>
      exact kept_navigateTo closures rfl nofun nofun nofun

theorem kept_onSubmitOperatorPin (hmac : String → String → String)
    (config : OperatorAuthConfig) (pin : String) (now : TimePoint) :
    Kept kiosk (.submitOperatorPin pin now) (kiosk.navigated
      (kiosk.bridge.onSubmitOperatorPin hmac config pin now)) where
  orders := ordersOf_navigated _
  screen := by
    rcases screen_onSubmitOperatorPin hmac config kiosk.bridge pin now with
      stays | isAdmin
    · exact .inl stays
    · refine .inr ⟨fun isDetail => ?_, fun isGlass => ?_⟩
      · cases isAdmin.symm.trans isDetail
      · cases isAdmin.symm.trans isGlass
  heading := rfl
  boost := rfl
  boostValue := rfl
  undisturbed _ := by
    refine ⟨rfl, fun isShown isDetail => ?_⟩
    simp only [Kiosk.shows, Bool.and_eq_true, beq_iff_eq] at isShown ⊢
    exact ⟨isShown.1, isDetail⟩

theorem handled_of_handle {event : Event}
    (handled : kiosk.handle formatMilliLitre store ingredientStore hmac config
      event = some next) :
    Handled formatMilliLitre store ingredientStore kiosk event next := by
  cases event with
  | recipeClicked row =>
      simp only [Kiosk.handle, Option.ite_none_right_eq_some,
        Option.map_eq_some_iff] at handled
      obtain ⟨shown, recipe, isRecipe, rfl⟩ := handled
      exact .selected isRecipe shown
  | boosterChanged value =>
      simp only [Kiosk.handle, Option.ite_none_right_eq_some] at handled
      obtain ⟨⟨shown, _, atLeast, atMost⟩, called⟩ := handled
      exact .boosted shown atLeast atMost called
  | processRecipe =>
      simp only [Kiosk.handle, Option.ite_none_right_eq_some] at handled
      obtain ⟨shown, isNext⟩ := handled
      obtain rfl := Option.some.inj isNext
      exact .asked shown
  | glassConfirmed =>
      simp only [Kiosk.handle, Option.ite_none_right_eq_some] at handled
      obtain ⟨⟨shown, canConfirm⟩, isNext⟩ := handled
      obtain rfl := Option.some.inj isNext
      exact .confirmed shown canConfirm
  | glassClicked row =>
      simp only [Kiosk.handle, Option.ite_none_right_eq_some,
        Option.map_eq_some_iff] at handled
      obtain ⟨shown, glass, _, rfl⟩ := handled
      refine .kept ⟨rfl, .inl rfl, rfl, rfl, rfl, fun _ => ⟨rfl, ?_⟩⟩ rfl
      exact fun isShown _ => isShown
  | volumeClicked row =>
      simp only [Kiosk.handle, Option.ite_none_right_eq_some,
        Kiosk.selectVolume] at handled
      obtain ⟨shown, selected⟩ := handled
      obtain ⟨glass, _, selected⟩ := Option.bind_eq_some_iff.mp selected
      obtain ⟨_, selected⟩ := Option.ite_none_right_eq_some.mp selected
      obtain ⟨volume, _, isNext⟩ := Option.bind_eq_some_iff.mp selected
      obtain rfl := Option.some.inj isNext
      refine .kept ⟨rfl, .inl rfl, rfl, rfl, rfl, fun _ => ⟨rfl, ?_⟩⟩ rfl
      exact fun isShown _ => isShown
  | back =>
      simp only [Kiosk.handle, Option.ite_none_right_eq_some] at handled
      obtain rfl := Option.some.inj handled.2
      exact .kept (kept_navigateTo kiosk.closures rfl nofun nofun nofun) rfl
  | abort =>
      simp only [Kiosk.handle, Option.ite_none_right_eq_some] at handled
      obtain rfl := Option.some.inj handled.2
      refine .kept ⟨rfl, .inl rfl, rfl, rfl, rfl, fun _ => ⟨rfl, ?_⟩⟩ rfl
      exact fun isShown _ => isShown
  | submitOperatorPin pin now =>
      obtain rfl := Option.some.inj handled
      exact .kept (kept_onSubmitOperatorPin hmac config pin now) rfl
  | changeGlasses glasses =>
      simp only [Kiosk.handle, Option.ite_none_right_eq_some] at handled
      obtain rfl := Option.some.inj handled.2
      refine .kept ⟨rfl, .inl rfl, rfl, rfl, rfl, fun _ => ⟨rfl, ?_⟩⟩ rfl
      exact fun isShown _ => isShown
  | setStationReady ready =>
      obtain rfl := Option.some.inj handled
      refine .kept ⟨rfl, .inl rfl, rfl, rfl, rfl, fun calm => ⟨rfl, ?_⟩⟩ rfl
      intro isShown _
      simp_all [Kiosk.shows, Disturbs]
  | bootComplete =>
      simp only [Kiosk.handle, Option.ite_none_right_eq_some] at handled
      obtain rfl := Option.some.inj handled.2
      refine .kept ⟨rfl, .inl rfl, rfl, rfl, rfl, fun calm => ⟨rfl, ?_⟩⟩ rfl
      intro isShown _
      simp_all [Kiosk.shows]
  | invokeFromEventLoop closure =>
      obtain rfl := Option.some.inj handled
      refine .kept ⟨rfl, .inl rfl, rfl, rfl, rfl, fun _ => ⟨rfl, ?_⟩⟩ rfl
      exact fun isShown _ => isShown
  | runClosure =>
      simp only [Kiosk.handle] at handled
      split at handled
      · cases handled
      · obtain rfl := Option.some.inj handled
        exact .kept (kept_perform _ _) rfl

end Steps

section DetailPage

variable (formatMilliLitre : Int → String) (store : RecipeStore)
  (ingredientStore : IngredientStore)

/-- The detail page is about the recipe, whatever it lists. -/
def IsAbout (view : RecipeView) (recipe : Recipe) : Prop :=
  store.findById view.id = some recipe ∧
    view = { transformRecipe formatMilliLitre ingredientStore recipe with
      commands := view.commands }

/-- The page lists the commands of the recipe with the boost. -/
def Lists (rows : List CommandRow) (recipe : Recipe) (boost : Percent) : Prop :=
  ∃ listed, boostRecipe recipe.commands boost ingredientStore = .ok listed ∧
    rows = transform formatMilliLitre listed ingredientStore

/-- The invariant of the detail page. -/
structure Displays (events : List Event) (kiosk : Kiosk) : Prop where
  hidden : kiosk.shows .cocktailDetailPage = false → kiosk.boostValue = 0
  inRange : |(kiosk.boostValue : Percent)| ≤ 80
  detail : kiosk.screen = .cocktailDetailPage → ∃ recipe,
    IsAbout formatMilliLitre store ingredientStore kiosk.activeRecipe recipe ∧
      (undisturbed events = true →
        Lists formatMilliLitre ingredientStore kiosk.activeRecipe.commands
          recipe kiosk.boostValue)

variable {formatMilliLitre store ingredientStore}
  {hmac : String → String → String} {config : OperatorAuthConfig}
  {events : List Event} {kiosk next : Kiosk}

theorem undisturbed_concat (events : List Event) (event : Event) :
    undisturbed (events ++ [event]) =
      (Renews event || (undisturbed events && !Disturbs event)) := by
  rw [undisturbed, List.foldl_append]
  rfl

theorem findById_of_findByIndex (distinct : (store.recipes.map Recipe.id).Nodup)
    {row : Int} {recipe : Recipe}
    (isRecipe : store.findByIndex row = some recipe) :
    store.findById recipe.id = some recipe := by
  simp only [RecipeStore.findByIndex, Option.ite_none_left_eq_some] at isRecipe
  exact KeyedRows.find_of_mem distinct (List.mem_of_getElem? isRecipe.2)

theorem isRecipeBoostable_of_boosted {commands boosted : Commands}
    {boost : Percent} (inRange : |boost| ≤ 100)
    (isBoosted : boostRecipe commands boost ingredientStore = .ok boosted) :
    isRecipeBoostable boosted ingredientStore =
      isRecipeBoostable commands ingredientStore := by
  rw [boostRecipe_eq commands inRange, Except.ok.injEq] at isBoosted
  subst isBoosted
  simp only [isRecipeBoostable_eq, scaleCommands, Commands.leaves_mapEach,
    hasCategory, List.any_map]
  congr <;> funext command <;>
    simp only [Function.comp_apply, scaleCommand_eq, category_scaleVolume]

theorem boostRecipe_zero (commands : Commands) :
    boostRecipe commands 0 ingredientStore = .ok commands := by
  have zero : effectiveScales (0 / 100)
      (boostPools ingredientStore commands) = {} := by
    rw [effectiveScales, zero_div, abs_zero]
    exact if_pos (.inl (by norm_num [epsilon]))
  rw [boostRecipe_eq commands (by norm_num), zero, scaleCommands_default]

theorem isAbout_transformRecipe {recipe : Recipe} {commands : Commands}
    (found : store.findById recipe.id = some recipe)
    (sameCategories : isRecipeBoostable commands ingredientStore =
      isRecipeBoostable recipe.commands ingredientStore) :
    IsAbout formatMilliLitre store ingredientStore
      (transformRecipe formatMilliLitre ingredientStore
        { recipe with commands }) recipe :=
  ⟨found, by simp [transformRecipe, sameCategories]⟩

theorem IsAbout.findById {view : RecipeView} {recipe : Recipe}
    (isAbout : IsAbout formatMilliLitre store ingredientStore view recipe) :
    store.findById recipe.id = some recipe := by
  have sameId := (KeyedRows.exists_split_of_find isAbout.1).1
  rw [sameId]
  exact isAbout.1

theorem IsAbout.of_heading {view other : RecipeView} {recipe : Recipe}
    (isAbout : IsAbout formatMilliLitre store ingredientStore view recipe)
    (heading : { other with commands := view.commands } = view) :
    IsAbout formatMilliLitre store ingredientStore other recipe := by
  obtain ⟨found, isView⟩ := isAbout
  constructor
  · rw [← found, ← heading]
  · rw [← heading] at isView
    simp only [RecipeView.mk.injEq] at isView
    ext1 <;> simp [isView]

theorem shows_instantiate (page : Page) :
    kiosk.instantiate.shows page = kiosk.shows page := by
  simp [Kiosk.shows]

theorem instantiate_of_shows
    (shown : kiosk.shows .cocktailDetailPage = true) :
    kiosk.instantiate = kiosk := by
  rw [Kiosk.instantiate, if_pos shown]

theorem boostValue_of_not_shows
    (hidden : kiosk.shows .cocktailDetailPage = false) :
    kiosk.instantiate.boostValue = 0 := by
  rw [Kiosk.instantiate, if_neg (Bool.eq_false_iff.mp hidden)]

/-- With the recipe found, an order is posted and the mix page opens. -/
theorem posts_of_found {recipe : Recipe}
    (found : store.findById kiosk.activeRecipe.id = some recipe) :
    (kiosk.processActiveRecipe store).screen = .mixPage ∧
      ordersOf (kiosk.processActiveRecipe store).posted =
        ordersOf kiosk.posted ++ [⟨recipe, kiosk.context.boost,
          milliLitre kiosk.context.glassVolume⟩] := by
  rw [Kiosk.processActiveRecipe, found]
  constructor
  · exact screen_navigateTo nofun
  · rw [ordersOf_append, ordersOf_navigateTo]
    rfl

theorem screen_processActiveRecipe (store : RecipeStore) (kiosk : Kiosk) :
    (kiosk.processActiveRecipe store).screen = .mixPage ∨
      (kiosk.processActiveRecipe store).screen = kiosk.screen := by
  cases found : store.findById kiosk.activeRecipe.id with
  | none =>
      rw [Kiosk.processActiveRecipe, found]
      exact .inr rfl
  | some recipe => exact .inl (posts_of_found found).1

/-- A single glass with a single volume is ordered at once, and everything else
leads to the page on which the glass is selected. -/
theorem processRecipe_cases {recipe : Recipe}
    (found : store.findById kiosk.activeRecipe.id = some recipe) :
    (∃ glass volume, kiosk.glasses.entries = [glass] ∧
      glass.commonVolumes = [volume] ∧
      (kiosk.processRecipe store).screen = .mixPage ∧
      ordersOf (kiosk.processRecipe store).posted =
        ordersOf kiosk.posted ++
          [⟨recipe, kiosk.boostValue, milliLitre (toFloat volume)⟩]) ∨
      kiosk.processRecipe store =
        { kiosk with
          context := { kiosk.context with boost := kiosk.boostValue }
          }.navigateTo .mixGlassSelectionPage := by
  unfold Kiosk.processRecipe
  dsimp only
  split
  · next glass entries =>
      split
      · next volume volumes =>
          refine .inl ⟨glass, volume, entries, volumes, ?_⟩
          exact posts_of_found found
      · exact .inr rfl
  · exact .inr rfl

theorem displays_new (glasses : GlassContext.GlassList) :
    Displays formatMilliLitre store ingredientStore [] { glasses } where
  hidden _ := rfl
  inRange := by norm_num
  detail := nofun

theorem displays_elsewhere (elsewhere : kiosk.screen ≠ .cocktailDetailPage) :
    Displays formatMilliLitre store ingredientStore events
      kiosk.instantiate := by
  have hidden : kiosk.shows .cocktailDetailPage = false :=
    Bool.eq_false_iff.mpr fun shown => elsewhere (screen_of_shows shown)
  have unset := boostValue_of_not_shows hidden
  constructor
  · exact fun _ => unset
  · rw [unset]
    norm_num
  · intro isDetail
    rw [Kiosk.screen, instantiate_fields.1] at isDetail
    exact absurd isDetail elsewhere

theorem Displays.selected (distinct : (store.recipes.map Recipe.id).Nodup)
    (displays : Displays formatMilliLitre store ingredientStore events kiosk)
    {row : Nat} {recipe : Recipe}
    (isRecipe : store.findByIndex row = some recipe)
    (shown : kiosk.shows .cocktailListPage = true) :
    Displays formatMilliLitre store ingredientStore
      (events ++ [.recipeClicked row])
      ({ kiosk with
        activeRecipe := transformRecipe formatMilliLitre ingredientStore
          recipe }.navigateTo .cocktailDetailPage).instantiate := by
  have hidden : kiosk.shows .cocktailDetailPage = false := by
    have isList := screen_of_shows shown
    simp [Kiosk.shows, isList]
  have unset : ({ kiosk with
      activeRecipe := transformRecipe formatMilliLitre ingredientStore
        recipe }.navigateTo .cocktailDetailPage).instantiate.boostValue =
      0 := by
    rw [Kiosk.instantiate]
    split
    · exact displays.hidden hidden
    · rfl
  constructor
  · exact fun _ => unset
  · rw [unset]
    norm_num
  · intro _
    have found := findById_of_findByIndex distinct isRecipe
    rw [unset, instantiate_fields.2.2.2.1, Int.cast_zero]
    refine ⟨recipe, isAbout_transformRecipe found rfl, fun _ => ?_⟩
    exact ⟨recipe.commands, boostRecipe_zero _, rfl⟩

theorem Displays.boosted
    (displays : Displays formatMilliLitre store ingredientStore events kiosk)
    {value : Int} (shown : kiosk.shows .cocktailDetailPage = true)
    (atLeast : -80 ≤ value) (atMost : value ≤ 80)
    (called : { kiosk with boostValue := value }.boostRecipeCallback
      formatMilliLitre store ingredientStore value = some next) :
    Displays formatMilliLitre store ingredientStore
      (events ++ [.boosterChanged value]) next.instantiate := by
  have inRange : |(value : Percent)| ≤ 80 := by
    rw [abs_le]
    exact_mod_cast And.intro atLeast atMost
  obtain ⟨recipe, isAbout, -⟩ := displays.detail (screen_of_shows shown)
  simp only [Kiosk.boostRecipeCallback, isAbout.1] at called
  split at called
  case h_1 => cases called
  case h_2 commands isBoosted =>
    obtain rfl := Option.some.inj called
    rw [instantiate_of_shows (by exact shown)]
    constructor
    · exact fun hidden => absurd shown (Bool.eq_false_iff.mp hidden)
    · exact inRange
    · intro _
      refine ⟨recipe, isAbout_transformRecipe isAbout.findById
        (isRecipeBoostable_of_boosted (inRange.trans (by norm_num)) isBoosted),
        fun _ => ?_⟩
      exact ⟨commands, isBoosted, rfl⟩

theorem Displays.kept
    (displays : Displays formatMilliLitre store ingredientStore events kiosk)
    {event : Event} (kept : Kept kiosk event next)
    (notRenewed : Renews event = false) :
    Displays formatMilliLitre store ingredientStore (events ++ [event])
      next.instantiate := by
  by_cases isDetail : next.screen = .cocktailDetailPage
  case neg => exact displays_elsewhere isDetail
  have wasDetail : kiosk.screen = .cocktailDetailPage := by
    rcases kept.screen with same | elsewhere
    · exact same.symm.trans isDetail
    · exact absurd isDetail elsewhere.1
  obtain ⟨recipe, isAbout, lists⟩ := displays.detail wasDetail
  constructor
  · intro hidden
    rw [shows_instantiate] at hidden
    exact boostValue_of_not_shows hidden
  · rw [Kiosk.instantiate]
    split
    · rw [kept.boostValue]
      exact displays.inRange
    · norm_num
  · intro _
    rw [instantiate_fields.2.2.2.1]
    refine ⟨recipe, isAbout.of_heading kept.heading, fun calm => ?_⟩
    rw [undisturbed_concat, notRenewed, Bool.false_or, Bool.and_eq_true,
      Bool.not_eq_true'] at calm
    obtain ⟨sameRecipe, sameShown⟩ := kept.undisturbed calm.2
    have sameValue : next.instantiate.boostValue = kiosk.boostValue := by
      cases shown : kiosk.shows .cocktailDetailPage with
      | true =>
          rw [instantiate_of_shows (sameShown shown isDetail), kept.boostValue]
      | false =>
          have unset := displays.hidden shown
          rw [Kiosk.instantiate]
          split
          · exact kept.boostValue
          · exact unset.symm
    rw [sameRecipe, sameValue]
    exact lists calm.1

theorem Displays.step (distinct : (store.recipes.map Recipe.id).Nodup)
    (displays : Displays formatMilliLitre store ingredientStore events kiosk)
    {event : Event} (stepped : step formatMilliLitre store ingredientStore hmac
      config kiosk event = some next) :
    Displays formatMilliLitre store ingredientStore (events ++ [event])
      next := by
  obtain ⟨middle, handled, rfl⟩ := Option.map_eq_some_iff.mp stepped
  cases handled_of_handle handled with
  | selected isRecipe shown => exact displays.selected distinct isRecipe shown
  | boosted shown atLeast atMost called =>
      exact displays.boosted shown atLeast atMost called
  | asked shown =>
      obtain ⟨recipe, isAbout, -⟩ := displays.detail (screen_of_shows shown)
      apply displays_elsewhere
      rcases processRecipe_cases isAbout.1 with
        ⟨glass, volume, _, _, isMix, _⟩ | isNext
      · rw [isMix]
        nofun
      · rw [isNext]
        exact (screen_navigateTo (by nofun)).trans_ne nofun
  | confirmed shown canConfirm =>
      apply displays_elsewhere
      rcases screen_processActiveRecipe store kiosk with isMix | same
      · rw [isMix]
        nofun
      · rw [same, screen_of_shows shown]
        nofun
  | kept isKept notRenewed => exact displays.kept isKept notRenewed

theorem displays_of_run (distinct : (store.recipes.map Recipe.id).Nodup)
    {glasses : GlassContext.GlassList}
    (ran : run (step formatMilliLitre store ingredientStore hmac config)
      { glasses } events = some kiosk) :
    Displays formatMilliLitre store ingredientStore events kiosk :=
  history_of_run (Displays formatMilliLitre store ingredientStore)
    (displays_new glasses)
    (fun _ _ _ _ _ displays stepped => displays.step distinct stepped) ran

end DetailPage

section Orders

variable (formatMilliLitre : Int → String) (store : RecipeStore)
  (ingredientStore : IngredientStore) (hmac : String → String → String)
  (config : OperatorAuthConfig) (glasses : GlassContext.GlassList)

/-- The event at this position of the run, and the kiosk before it. -/
def At (events : List Event) (position : Nat) (event : Event)
    (kiosk : Kiosk) : Prop :=
  events[position]? = some event ∧
    run (step formatMilliLitre store ingredientStore hmac config) { glasses }
      (events.take position) = some kiosk

/-- The order is for the recipe and the boost that the detail page showed.
What is dispensed is the recipe with the boost, scaled to the glass, and this
is what the page listed unless it was disturbed. -/
structure AsShown (before : List Event) (kiosk : Kiosk) (order : Order) :
    Prop where
  shown : kiosk.shows .cocktailDetailPage = true
  recipe : IsAbout formatMilliLitre store ingredientStore kiosk.activeRecipe
    order.recipe
  boost : order.boost = kiosk.boostValue
  inRange : |order.boost| ≤ 80
  commands : ∃ boosted,
    boostRecipe order.recipe.commands order.boost ingredientStore =
        .ok boosted ∧
      (undisturbed before = true → kiosk.activeRecipe.commands =
        transform formatMilliLitre boosted ingredientStore) ∧
      (0 < order.recipe.nominalServingVolume → 0 ≤ order.targetVolume →
        order.commands ingredientStore =
          .ok (scaleCommandsUniformly boosted (effectiveFactor
            order.recipe.nominalServingVolume order.targetVolume)))

/-- How an order goes back to the tap on the detail page at the position: the
only volume was taken at once, or the guest confirmed another one later. -/
inductive Placed (events : List Event) (order : Order) (position : Nat) : Prop
  | directly {kiosk : Kiosk} {glass : GlassContext.Entry} {volume : String}
      (isAt : At formatMilliLitre store ingredientStore hmac config glasses
        events position .processRecipe kiosk)
      (asShown : AsShown formatMilliLitre store ingredientStore
        (events.take position) kiosk order)
      (isOnly : kiosk.glasses.entries = [glass])
      (isSingle : glass.commonVolumes = [volume])
      (isVolume : order.targetVolume = milliLitre (toFloat volume))
  | confirmed {kiosk later : Kiosk} {confirmation : Nat}
      (isAt : At formatMilliLitre store ingredientStore hmac config glasses
        events position .processRecipe kiosk)
      (asShown : AsShown formatMilliLitre store ingredientStore
        (events.take position) kiosk order)
      (isLater : position < confirmation)
      (confirms : At formatMilliLitre store ingredientStore hmac config
        glasses events confirmation .glassConfirmed later)
      (onPage : later.shows .mixGlassSelectionPage = true)
      (isVolume : order.targetVolume = milliLitre later.context.glassVolume)
      (positive : 0 < order.targetVolume)

/-- The recipe and the boost that the glass is selected for. -/
def Selecting (events : List Event) (kiosk : Kiosk) (position : Nat) : Prop :=
  ∃ seen, At formatMilliLitre store ingredientStore hmac config glasses events
      position .processRecipe seen ∧
    seen.shows .cocktailDetailPage = true ∧
    kiosk.activeRecipe.id = seen.activeRecipe.id ∧
    kiosk.context.boost = seen.boostValue

/-- The invariant of the orders: each has a position of its own, and while a
glass is selected there is one more. -/
structure Served (events : List Event) (kiosk : Kiosk)
    (positions : List Nat) : Prop where
  ascending : positions.Pairwise (· < ·)
  bounded : ∀ position ∈ positions, position < events.length
  placed : List.Forall₂ (Placed formatMilliLitre store ingredientStore hmac
    config glasses events) (ordersOf kiosk.posted) positions
  selecting : kiosk.screen = .mixGlassSelectionPage → ∃ position,
    (∀ earlier ∈ positions, earlier < position) ∧
      Selecting formatMilliLitre store ingredientStore hmac config glasses
        events kiosk position

variable {formatMilliLitre store ingredientStore hmac config glasses}
  {events : List Event} {kiosk next : Kiosk}

theorem At.lt {position : Nat} {event : Event}
    (isAt : At formatMilliLitre store ingredientStore hmac config glasses
      events position event kiosk) : position < events.length :=
  (List.getElem?_eq_some_iff.mp isAt.1).1

theorem At.concat {position : Nat} {event : Event}
    (isAt : At formatMilliLitre store ingredientStore hmac config glasses
      events position event kiosk) (last : Event) :
    At formatMilliLitre store ingredientStore hmac config glasses
      (events ++ [last]) position event kiosk := by
  constructor
  · rw [List.getElem?_append_left isAt.lt, isAt.1]
  · rw [List.take_append_of_le_length isAt.lt.le]
    exact isAt.2

theorem at_last (ran : run (step formatMilliLitre store ingredientStore hmac
      config) { glasses } events = some kiosk) (last : Event) :
    At formatMilliLitre store ingredientStore hmac config glasses
      (events ++ [last]) events.length last kiosk := by
  constructor
  · simp
  · rw [List.take_left]
    exact ran

theorem Placed.concat {order : Order} {position : Nat}
    (placed : Placed formatMilliLitre store ingredientStore hmac config
      glasses events order position) (last : Event) :
    Placed formatMilliLitre store ingredientStore hmac config glasses
      (events ++ [last]) order position := by
  cases placed with
  | directly isAt asShown isOnly isSingle isVolume =>
      refine .directly (isAt.concat last) ?_ isOnly isSingle isVolume
      rw [List.take_append_of_le_length isAt.lt.le]
      exact asShown
  | confirmed isAt asShown isLater confirms onPage isVolume positive =>
      refine .confirmed (isAt.concat last) ?_ isLater (confirms.concat last)
        onPage isVolume positive
      rw [List.take_append_of_le_length isAt.lt.le]
      exact asShown

theorem asShown_of_displays {before : List Event}
    (displays : Displays formatMilliLitre store ingredientStore before kiosk)
    (shown : kiosk.shows .cocktailDetailPage = true) {recipe : Recipe}
    (found : store.findById kiosk.activeRecipe.id = some recipe)
    (targetVolume : Litre) :
    AsShown formatMilliLitre store ingredientStore before kiosk
      ⟨recipe, kiosk.boostValue, targetVolume⟩ := by
  obtain ⟨other, isAbout, lists⟩ := displays.detail (screen_of_shows shown)
  obtain rfl := Option.some.inj (isAbout.1.symm.trans found)
  have inRange := displays.inRange.trans (by norm_num : (80 : Percent) ≤ 100)
  refine ⟨shown, isAbout, rfl, displays.inRange, ?_⟩
  refine ⟨_, boostRecipe_eq _ inRange _, fun calm => ?_,
    fun nominal target => ?_⟩
  · obtain ⟨listed, isListed, rows⟩ := lists calm
    rw [boostRecipe_eq _ inRange, Except.ok.injEq] at isListed
    rw [rows, isListed]
  · simp only [Order.commands, scaleRecipe_eq _ nominal target, bind,
      Except.bind]
    rw [boostRecipe_eq _ inRange, boost_scaleCommandsUniformly ingredientStore
      (effectiveFactor_nonneg nominal target)]

theorem Served.concat {positions : List Nat}
    (served : Served formatMilliLitre store ingredientStore hmac config glasses
      events kiosk positions) (event : Event)
    (sameOrders : ordersOf next.posted = ordersOf kiosk.posted)
    (selecting : next.screen = .mixGlassSelectionPage → ∃ position,
      (∀ earlier ∈ positions, earlier < position) ∧
        Selecting formatMilliLitre store ingredientStore hmac config glasses
          (events ++ [event]) next position) :
    Served formatMilliLitre store ingredientStore hmac config glasses
      (events ++ [event]) next.instantiate positions where
  ascending := served.ascending
  bounded position member := by
    have before := served.bounded position member
    rw [List.length_append]
    omega
  placed := by
    rw [instantiate_fields.2.2.2.2.2.2, sameOrders]
    exact served.placed.imp fun _ _ placed => placed.concat event
  selecting isGlass := by
    simp only [Kiosk.screen, Selecting, instantiate_fields] at isGlass ⊢
    exact selecting isGlass

/-- One more order with a position behind all others. -/
theorem Served.order {positions : List Nat}
    (served : Served formatMilliLitre store ingredientStore hmac config glasses
      events kiosk positions) {event : Event} {order : Order} {position : Nat}
    (isLast : ∀ earlier ∈ positions, earlier < position)
    (isPosition : position ≤ events.length)
    (placed : Placed formatMilliLitre store ingredientStore hmac config glasses
      (events ++ [event]) order position)
    (posted : ordersOf next.posted = ordersOf kiosk.posted ++ [order])
    (isMix : next.screen = .mixPage) :
    Served formatMilliLitre store ingredientStore hmac config glasses
      (events ++ [event]) next.instantiate (positions ++ [position]) where
  ascending := by
    rw [List.pairwise_append]
    refine ⟨served.ascending, List.pairwise_singleton _ _, ?_⟩
    simpa using isLast
  bounded other member := by
    rw [List.length_append]
    rcases List.mem_append.mp member with isEarlier | isPosition
    · have before := served.bounded other isEarlier
      omega
    · obtain rfl := List.mem_singleton.mp isPosition
      exact Nat.lt_succ_of_le ‹_›
  placed := by
    rw [instantiate_fields.2.2.2.2.2.2, posted]
    refine List.rel_append ?_ (.cons placed .nil)
    exact served.placed.imp fun _ _ earlier => earlier.concat event
  selecting isGlass := by
    rw [Kiosk.screen, instantiate_fields.1] at isGlass
    cases isMix.symm.trans isGlass

theorem Selecting.concat {position : Nat}
    (selecting : Selecting formatMilliLitre store ingredientStore hmac config
      glasses events kiosk position) (event : Event)
    (sameRecipe : next.activeRecipe.id = kiosk.activeRecipe.id)
    (sameBoost : next.context.boost = kiosk.context.boost) :
    Selecting formatMilliLitre store ingredientStore hmac config glasses
      (events ++ [event]) next position := by
  obtain ⟨seen, isAt, shown, isRecipe, isBoost⟩ := selecting
  exact ⟨seen, isAt.concat event, shown, sameRecipe.trans isRecipe,
    sameBoost.trans isBoost⟩

theorem same_of_boostRecipeCallback {value : Int}
    (called : kiosk.boostRecipeCallback formatMilliLitre store ingredientStore
      value = some next) :
    next.bridge = kiosk.bridge ∧ next.posted = kiosk.posted := by
  unfold Kiosk.boostRecipeCallback at called
  split at called
  · obtain rfl := Option.some.inj called
    exact ⟨rfl, rfl⟩
  · split at called
    · cases called
    · obtain rfl := Option.some.inj called
      exact ⟨rfl, rfl⟩

theorem Served.asked {positions : List Nat}
    (served : Served formatMilliLitre store ingredientStore hmac config glasses
      events kiosk positions)
    (ran : run (step formatMilliLitre store ingredientStore hmac config)
      { glasses } events = some kiosk)
    (displays : Displays formatMilliLitre store ingredientStore events kiosk)
    (shown : kiosk.shows .cocktailDetailPage = true) :
    ∃ positions, Served formatMilliLitre store ingredientStore hmac config
      glasses (events ++ [.processRecipe])
      (kiosk.processRecipe store).instantiate positions := by
  obtain ⟨recipe, isAbout, -⟩ := displays.detail (screen_of_shows shown)
  have isAt := at_last ran .processRecipe
  rcases processRecipe_cases isAbout.1 with
    ⟨glass, volume, isOnly, isSingle, isMix, posted⟩ | isNext
  · refine ⟨_, served.order served.bounded le_rfl ?_ posted isMix⟩
    refine .directly isAt ?_ isOnly isSingle rfl
    rw [List.take_left]
    exact asShown_of_displays displays shown isAbout.1 _
  · rw [isNext]
    refine ⟨_, served.concat _ (ordersOf_navigateTo _) fun _ => ?_⟩
    exact ⟨events.length, served.bounded, kiosk, isAt, shown, rfl, rfl⟩

theorem Served.confirmed (distinct : (store.recipes.map Recipe.id).Nodup)
    {positions : List Nat}
    (served : Served formatMilliLitre store ingredientStore hmac config glasses
      events kiosk positions)
    (ran : run (step formatMilliLitre store ingredientStore hmac config)
      { glasses } events = some kiosk)
    (shown : kiosk.shows .mixGlassSelectionPage = true)
    (canConfirm : kiosk.canConfirm = true) :
    ∃ positions, Served formatMilliLitre store ingredientStore hmac config
      glasses (events ++ [.glassConfirmed])
      (kiosk.processActiveRecipe store).instantiate positions := by
  obtain ⟨position, isLast, seen, isAt, wasShown, sameId, sameBoost⟩ :=
    served.selecting (screen_of_shows shown)
  have displays := displays_of_run distinct isAt.2
  obtain ⟨recipe, isAbout, -⟩ := displays.detail (screen_of_shows wasShown)
  obtain ⟨isMix, posted⟩ := posts_of_found (sameId ▸ isAbout.1)
  rw [sameBoost] at posted
  refine ⟨_, served.order isLast isAt.lt.le ?_ posted isMix⟩
  refine .confirmed (isAt.concat _) ?_ isAt.lt (at_last ran _) shown rfl ?_
  · rw [List.take_append_of_le_length isAt.lt.le]
    exact asShown_of_displays displays wasShown isAbout.1 _
  · simp only [Kiosk.canConfirm, Bool.and_eq_true, decide_eq_true_eq]
      at canConfirm
    have positive : (0 : Rat) < kiosk.context.glassVolume :=
      Int.cast_pos.mpr canConfirm.2
    simpa [milliLitre] using positive

theorem Served.step (distinct : (store.recipes.map Recipe.id).Nodup)
    {positions : List Nat}
    (served : Served formatMilliLitre store ingredientStore hmac config glasses
      events kiosk positions)
    (ran : run (step formatMilliLitre store ingredientStore hmac config)
      { glasses } events = some kiosk) {event : Event}
    (stepped : RecipeOrder.step formatMilliLitre store ingredientStore hmac
      config kiosk event = some next) :
    ∃ positions, Served formatMilliLitre store ingredientStore hmac config
      glasses (events ++ [event]) next positions := by
  have displays := displays_of_run distinct ran
  obtain ⟨middle, handled, rfl⟩ := Option.map_eq_some_iff.mp stepped
  cases handled_of_handle handled with
  | selected isRecipe shown =>
      refine ⟨_, served.concat _ (ordersOf_navigateTo _) fun isGlass => ?_⟩
      rw [screen_navigateTo (by nofun)] at isGlass
      cases isGlass
  | @boosted value _ shown atLeast atMost called =>
      obtain ⟨sameBridge, samePosted⟩ := same_of_boostRecipeCallback called
      refine ⟨_, served.concat _ (congrArg ordersOf samePosted) fun isGlass => ?_⟩
      rw [Kiosk.screen, sameBridge] at isGlass
      cases (screen_of_shows shown).symm.trans isGlass
  | asked shown => exact served.asked ran displays shown
  | confirmed shown canConfirm =>
      exact served.confirmed distinct ran shown canConfirm
  | kept isKept notRenewed =>
      refine ⟨_, served.concat _ isKept.orders fun isGlass => ?_⟩
      have wasGlass : kiosk.screen = .mixGlassSelectionPage := by
        rcases isKept.screen with same | elsewhere
        · exact same.symm.trans isGlass
        · exact absurd isGlass elsewhere.2
      obtain ⟨position, isLast, selecting⟩ := served.selecting wasGlass
      refine ⟨position, isLast, selecting.concat _ ?_ isKept.boost⟩
      rw [← isKept.heading]

theorem served_new : Served formatMilliLitre store ingredientStore hmac config
    glasses [] { glasses } [] where
  ascending := .nil
  bounded := nofun
  placed := .nil
  selecting := nofun

theorem served_of_run (distinct : (store.recipes.map Recipe.id).Nodup)
    (ran : run (RecipeOrder.step formatMilliLitre store ingredientStore hmac
      config) { glasses } events = some kiosk) :
    ∃ positions, Served formatMilliLitre store ingredientStore hmac config
      glasses events kiosk positions :=
  history_of_run (fun events kiosk => ∃ positions,
      Served formatMilliLitre store ingredientStore hmac config glasses
        events kiosk positions)
    ⟨[], served_new⟩
    (fun _ _ _ _ ranBefore ⟨_, before⟩ stepped =>
      before.step distinct ranBefore stepped) ran

theorem exists_activeRecipe (distinct : (store.recipes.map Recipe.id).Nodup)
    (ran : run (RecipeOrder.step formatMilliLitre store ingredientStore hmac
      config) { glasses } events = some kiosk)
    (asks : kiosk.shows .cocktailDetailPage = true ∨
      kiosk.shows .mixGlassSelectionPage = true) :
    ∃ recipe, store.findById kiosk.activeRecipe.id = some recipe := by
  rcases asks with isDetail | isGlass
  · obtain ⟨recipe, isAbout, -⟩ :=
      (displays_of_run distinct ran).detail (screen_of_shows isDetail)
    exact ⟨recipe, isAbout.1⟩
  · obtain ⟨positions, served⟩ := served_of_run distinct ran
    obtain ⟨position, -, seen, isAt, wasShown, sameId, -⟩ :=
      served.selecting (screen_of_shows isGlass)
    obtain ⟨recipe, isAbout, -⟩ :=
      (displays_of_run distinct isAt.2).detail (screen_of_shows wasShown)
    exact ⟨recipe, sameId ▸ isAbout.1⟩

/-- Every order that was posted goes back to a tap of its own on the detail
page, in the order of the taps. -/
theorem orders_as_shown (distinct : (store.recipes.map Recipe.id).Nodup)
    (ran : run (RecipeOrder.step formatMilliLitre store ingredientStore hmac
      config) { glasses } events = some kiosk) :
    ∃ positions : List Nat, positions.Pairwise (· < ·) ∧
      List.Forall₂ (Placed formatMilliLitre store ingredientStore hmac config
        glasses events) (ordersOf kiosk.posted) positions := by
  obtain ⟨positions, served⟩ := served_of_run distinct ran
  exact ⟨positions, served.ascending, served.placed⟩

/-- So it is whatever `init` has loaded. -/
theorem orders_placed_of_init {Byte : Type*}
    {errorMessage : ApplicationInit.SimdjsonError → String}
    {codec : JsonCodec Byte} {dbDir : String}
    {storage : ApplicationInit.Storage Byte}
    {application : ApplicationInit.Application}
    {thrown : Option ApplicationInit.Thrown}
    (ended : ApplicationInit.init errorMessage codec dbDir storage =
      .ended application thrown)
    (ran : run (RecipeOrder.step formatMilliLitre application.recipeStore
        application.ingredientStore hmac config) { glasses } events =
      some kiosk) :
    ∃ positions : List Nat, positions.Pairwise (· < ·) ∧
      List.Forall₂ (Placed formatMilliLitre application.recipeStore
        application.ingredientStore hmac config glasses events)
        (ordersOf kiosk.posted) positions := by
  obtain ⟨positions, served⟩ :=
    served_of_run (ApplicationInit.nodup_ids_of_init ended) ran
  exact ⟨positions, served.ascending, served.placed⟩

/-- A store with one recipe, and a glass with two active volumes. -/
def punchStore : RecipeStore where
  recipes :=
    [{ id := "punch"
       displayName := "Punch"
       description := ""
       tags := ["fresh"]
       imagePath := ⟨"", "", ""⟩
       nominalServingVolume := 1 / 5
       commands := rumPunch }]

def highball : GlassContext.GlassList where
  entries := [⟨"highball", "Highball", ["300", "400"], 0⟩]
  volumeModels := [.make [milliLitre 300, milliLitre 400]]

/-- A guest moves the slider twice and takes the larger volume. -/
def strongPunch : List Event :=
  [.setStationReady true, .bootComplete, .recipeClicked 0, .boosterChanged 80,
    .boosterChanged 50, .processRecipe, .glassClicked 0, .volumeClicked 1,
    .glassConfirmed]

theorem orders_as_shown_strongPunch : ∃ kiosk : Kiosk,
    ∃ positions : List Nat, positions.Pairwise (· < ·) ∧
      List.Forall₂ (Placed (fun _ => "") punchStore rumAndLime
          (fun salt pin => salt ++ pin) ⟨"", "", 3, 10⟩ highball strongPunch)
        (ordersOf kiosk.posted) positions ∧
      (ordersOf kiosk.posted).map Order.boost = [50] ∧
      (ordersOf kiosk.posted).map Order.targetVolume = [milliLitre 400] := by
  have ran : (run (RecipeOrder.step (fun _ => "") punchStore rumAndLime
      (fun salt pin => salt ++ pin) ⟨"", "", 3, 10⟩) { glasses := highball }
      strongPunch).any (fun kiosk =>
        (ordersOf kiosk.posted).map Order.boost = [50] ∧
        (ordersOf kiosk.posted).map Order.targetVolume = [milliLitre 400]) =
      true := by
    decide +kernel
  obtain ⟨kiosk, ran, ordered⟩ := (Option.any_eq_true _ _).mp ran
  obtain ⟨positions, ascending, placed⟩ := orders_as_shown (by decide) ran
  obtain ⟨isBoost, isVolume⟩ := of_decide_eq_true ordered
  exact ⟨kiosk, positions, ascending, placed, isBoost, isVolume⟩

end Orders

end RecipeOrder

end CocktailMaker
