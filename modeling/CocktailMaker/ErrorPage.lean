import CocktailMaker.CreateDispenser
import CocktailMaker.ParseRecipe
import CocktailMaker.ReceiveResponse

/-!
# The texts of the error page

Whatever ends a recipe early is shown on one page: a short text for the guest,
which depends on the category alone, and the details for the staff.  An empty
dispenser is shown as the ingredient that is assigned to it.
-/

namespace CocktailMaker

namespace ErrorPage

open CreateDispenser

/-- The exceptions that `async_process_recipe` catches; those without a page of
their own are shown with their `what`. -/
inductive MixError
  | pod (error : PodError)
  | dispatch (error : DispatchError)
  | other (what : String)
  deriving DecidableEq

/-- What the error page is shown for: two exceptions are made by the bridge
itself. -/
inductive Reason
  | abort
  | recipeNotFound (recipeId : RecipeId)
  | mix (error : MixError)
  deriving DecidableEq

inductive ErrorItemCategory
  | ingredient
  | abort
  | unknown
  deriving DecidableEq

def toSlintString : ErrorItemCategory → String
  | .ingredient => "I"
  | .abort => "A"
  | .unknown => "U"

theorem toSlintString_injective : Function.Injective toSlintString := by
  intro first second same
  cases first <;> cases second <;> simp_all [toSlintString]

structure ErrorPageData where
  technicalTitle : String
  technicalDescription : String
  itemCategory : ErrorItemCategory
  itemName : String
  itemDetails : String
  deriving DecidableEq

structure CustomerFacingText where
  title : String
  message : String
  deriving DecidableEq

def customerTextFor : ErrorItemCategory → CustomerFacingText
  | .ingredient =>
      ⟨"Zutat nicht verfügbar", "Bitte wende dich kurz an das Personal."⟩
  | .abort => ⟨"Abgebrochen", "Die Zubereitung wurde abgebrochen."⟩
  | .unknown =>
      ⟨"Kurze Unterbrechung",
        "Es gab ein technisches Problem. " ++
          "Bitte wende dich an das Personal."⟩

def makeAbort : ErrorPageData where
  technicalTitle := "Prozess abgebrochen!"
  technicalDescription := "Prozess wurde abgebrochen."
  itemCategory := .abort
  itemName := "Nutzer"
  itemDetails := "Bitte neustarten."

def makeRecipeNotFound : ErrorPageData where
  technicalTitle := "Rezept nicht gefunden!"
  technicalDescription :=
    "Das ausgewählte Rezept konnte nicht geladen werden."
  itemCategory := .unknown
  itemName := "Rezept"
  itemDetails :=
    "Bitte ein anderes Rezept wählen oder die Rezeptdaten prüfen."

def makeDispenserNotFound (error : DispenserNotFoundError) : ErrorPageData where
  technicalTitle := "Dispenser nicht gefunden!"
  technicalDescription :=
    "Der für diese Zutat konfigurierte Dispenser konnte am Pod " ++
      "nicht gefunden werden."
  itemCategory := .unknown
  itemName := "Konfiguration"
  itemDetails :=
    "Pod '" ++ error.podId ++ "', Dispenser '" ++
      toString error.dispenserId ++
      "' - Bitte Stationskonfiguration und Verkabelung prüfen."

/-- The `'Pod …'` that details about a Pod begin with. -/
def podLabel (podId : PodId) : String :=
  "Pod '" ++ podId ++ "'"

def makePodReceive (podId : PodId) : ErrorCode → ErrorPageData
  | .hardwareFault =>
      { technicalTitle := "Hardwarefehler!"
        technicalDescription := "Der Pod meldet einen Hardwaredefekt."
        itemCategory := .unknown
        itemName := "Hardware"
        itemDetails :=
          podLabel podId ++ " - Bitte Pod prüfen und Support kontaktieren." }
  | .busy =>
      { technicalTitle := "Pod beschäftigt!"
        technicalDescription :=
          "Der Pod verarbeitet noch einen anderen Befehl."
        itemCategory := .unknown
        itemName := "Pod"
        itemDetails :=
          podLabel podId ++ " - Bitte kurz warten und erneut versuchen." }
  | .notCalibrated =>
      { technicalTitle := "Nicht kalibriert!"
        technicalDescription :=
          "Der angesprochene Dispenser wurde noch nicht kalibriert."
        itemCategory := .unknown
        itemName := "Kalibrierung"
        itemDetails :=
          podLabel podId ++
            " - Bitte den Dispenser in den Einstellungen kalibrieren." }
  | .unsupportedInCurrentState =>
      { technicalTitle := "Aktion nicht möglich!"
        technicalDescription :=
          "Der Pod befindet sich in einem Zustand, " ++
            "der diesen Befehl aktuell nicht zulässt."
        itemCategory := .unknown
        itemName := "Pod"
        itemDetails :=
          podLabel podId ++
            " - Bitte Pod neustarten und erneut versuchen." }
  | .dispenserNotFound =>
      { technicalTitle := "Dispenser unbekannt!"
        technicalDescription :=
          "Der Pod kennt den angesprochenen Dispenser nicht."
        itemCategory := .unknown
        itemName := "Dispenser"
        itemDetails :=
          podLabel podId ++ " - Bitte Stationskonfiguration prüfen." }
  | .invalidParameter | .internalError | .dispenserEmpty | .valuesLimit =>
      { technicalTitle := "Unbekannter Pod-Fehler!"
        technicalDescription :=
          "Der Pod hat einen unerwarteten Fehler gemeldet."
        itemCategory := .unknown
        itemName := "Pod"
        itemDetails := podLabel podId ++ " - Bitte Support kontaktieren." }

def makePodTimeout (podId : PodId) : ErrorPageData where
  technicalTitle := "Pod antwortet nicht!"
  technicalDescription :=
    "Der Pod hat innerhalb der erwarteten Zeit nicht reagiert."
  itemCategory := .unknown
  itemName := "Verbindung"
  itemDetails :=
    podLabel podId ++
      " - Bitte USB-Verbindung prüfen und den Pod neu starten."

def makeProtocol : ErrorPageData where
  technicalTitle := "Kommunikationsfehler!"
  technicalDescription :=
    "Die Nachricht an den Pod konnte nicht verarbeitet werden."
  itemCategory := .unknown
  itemName := "Verbindung"
  itemDetails :=
    "Bitte USB-Verbindung prüfen. Besteht das Problem weiterhin, " ++
      "Support kontaktieren."

/-- Every other exception. -/
def makeOther (what : String) : ErrorPageData where
  technicalTitle := "Unbekannter Fehler!"
  technicalDescription := "Es ist ein unerwarteter Fehler aufgetreten."
  itemCategory := .unknown
  itemName := "Fehlerdetails"
  itemDetails := "Bitte Support kontaktieren. Details: " ++ what

section Station

variable {store : IngredientStore} (config : StationConfig store)
  (order : IterationOrder IngredientId PodDispenser)

/-- Without an ingredient of the store the page goes without its name. -/
def makeDispenserEmpty (podId : PodId) (dispenserId : DispenserId) :
    ErrorPageData where
  technicalTitle := "Behälter leer!"
  technicalDescription := "Bitte auffüllen."
  itemCategory := .ingredient
  itemName :=
    match config.findIngredientByDispenser order
        ⟨podId, Int32.ofInt dispenserId⟩ with
    | .error _ => "Unbekannte Zutat"
    | .ok id =>
        match store.findById id with
        | none => "Unbekannte Zutat"
        | some ingredient => ingredient.displayName
  itemDetails :=
    "Bitte Behälter '" ++ toString dispenserId ++ "' von Pod '" ++ podId ++
      "' befüllen"

def makeIngredientNotAssigned (store : IngredientStore)
    (error : IngredientNotAssignedError) : ErrorPageData where
  technicalTitle := "Zutat nicht zugeordnet!"
  technicalDescription := "Für diese Zutat ist kein Dispenser konfiguriert."
  itemCategory := .ingredient
  itemName :=
    match store.findById error.ingredientId with
    | some ingredient => ingredient.displayName
    | none => error.ingredientId
  itemDetails := "Bitte in der Administration einen Dispenser zuweisen."

/-- The overloads of `error_page::make`. -/
def make : Reason → ErrorPageData
  | .abort => makeAbort
  | .recipeNotFound _ => makeRecipeNotFound
  | .mix (.pod (.dispenserEmpty podId dispenserId)) =>
      makeDispenserEmpty config order podId dispenserId
  | .mix (.pod (.podReceive podId errorCode)) => makePodReceive podId errorCode
  | .mix (.pod (.podTimeout podId)) => makePodTimeout podId
  | .mix (.pod (.protocol _ _)) => makeProtocol
  | .mix (.dispatch (.dispenserNotFound error)) => makeDispenserNotFound error
  | .mix (.dispatch (.ingredientNotAssigned error)) =>
      makeIngredientNotAssigned store error
  | .mix (.other what) => makeOther what

end Station

section Categories

variable {store : IngredientStore} {config : StationConfig store}
  {order : IterationOrder IngredientId PodDispenser}

theorem itemCategory_makePodReceive (podId : PodId) (errorCode : ErrorCode) :
    (makePodReceive podId errorCode).itemCategory = .unknown := by
  cases errorCode <;> rfl

theorem itemCategory_eq_abort {reason : Reason} :
    (make config order reason).itemCategory = .abort ↔ reason = .abort := by
  cases reason with
  | abort => exact iff_of_true rfl rfl
  | recipeNotFound recipeId => exact iff_of_false nofun nofun
  | mix error =>
      refine iff_of_false ?_ nofun
      cases error with
      | pod error =>
          cases error with
          | podReceive podId errorCode =>
              rw [make, itemCategory_makePodReceive]
              nofun
          | podTimeout podId => nofun
          | dispenserEmpty podId dispenserId => nofun
          | protocol errorStatus reason => nofun
      | dispatch error => cases error <;> nofun
      | other what => nofun

/-- An ingredient is said to be missing when its dispenser is empty or it has
none. -/
theorem itemCategory_eq_ingredient {reason : Reason} :
    (make config order reason).itemCategory = .ingredient ↔
      (∃ podId dispenserId,
        reason = .mix (.pod (.dispenserEmpty podId dispenserId))) ∨
      ∃ error, reason = .mix (.dispatch (.ingredientNotAssigned error)) := by
  constructor
  · intro isIngredient
    cases reason with
    | abort => cases isIngredient
    | recipeNotFound recipeId => cases isIngredient
    | mix error =>
        cases error with
        | pod error =>
            cases error with
            | podReceive podId errorCode =>
                rw [make, itemCategory_makePodReceive] at isIngredient
                cases isIngredient
            | podTimeout podId => cases isIngredient
            | dispenserEmpty podId dispenserId =>
                exact .inl ⟨podId, dispenserId, rfl⟩
            | protocol errorStatus reason => cases isIngredient
        | dispatch error =>
            cases error with
            | dispenserNotFound error => cases isIngredient
            | ingredientNotAssigned error => exact .inr ⟨error, rfl⟩
        | other what => cases isIngredient
  · rintro (⟨podId, dispenserId, rfl⟩ | ⟨error, rfl⟩) <;> rfl

/-- The page for an empty dispenser names the ingredient that is assigned to
it, when there is one only. -/
theorem itemName_makeDispenserEmpty {podId : PodId} {dispenserId : DispenserId}
    {ingredientId : IngredientId} {ingredient : Ingredient}
    (assigned : config.mapping.lookup ingredientId =
      some ⟨podId, Int32.ofInt dispenserId⟩)
    (unique : ∀ other, config.mapping.lookup other =
      some ⟨podId, Int32.ofInt dispenserId⟩ → other = ingredientId)
    (found : store.findById ingredientId = some ingredient) :
    (makeDispenserEmpty config order podId dispenserId).itemName =
      ingredient.displayName := by
  simp only [makeDispenserEmpty,
    StationConfig.findIngredientByDispenser_eq_ok assigned unique order, found]

theorem itemName_makeIngredientNotAssigned {error : IngredientNotAssignedError}
    {ingredient : Ingredient}
    (found : store.findById error.ingredientId = some ingredient) :
    (makeIngredientNotAssigned store error).itemName =
      ingredient.displayName := by
  simp only [makeIngredientNotAssigned, found]

end Categories

end ErrorPage

end CocktailMaker
