import CocktailMaker.OperatorAuth

/-!
# Entering the maintenance area

`StationStateBridge` handles the requests of the user interface for another
page and the PINs that an operator submits.  A right PIN opens the admin area,
and every navigation to another page locks it again.
-/

namespace CocktailMaker

namespace MaintenanceAccess

open OperatorPin

inductive Page
  | cocktailListPage
  | cocktailDetailPage
  | mixPage
  | mixGlassSelectionPage
  | mixErrorPage
  | mixSuccessPage
  | finishedPage
  | bootScreen
  | adminAreaPage
  deriving DecidableEq

/-- The part of `StationStateContext` that the bridge sets. -/
structure StationStateContext where
  activeScreen : Page := .cocktailListPage
  operatorRemainingAttempts : Int := 5
  operatorLockedOut : Bool := false
  operatorLockoutSecondsRemaining : Int := 0
  deriving DecidableEq

structure StationStateBridge where
  context : StationStateContext := {}
  operatorAuth : OperatorAuth := {}
  operatorAuthenticated : Bool := false
  /-- The calls of `navigated_to`. -/
  navigatedTo : List (Page × Page) := []

/-- A request of the user interface. -/
inductive Request
  | navigateTo (target : Page)
  | submitOperatorPin (pin : String) (now : TimePoint)

def StationStateBridge.onNavigateTo (bridge : StationStateBridge)
    (target : Page) : StationStateBridge :=
  if target = .adminAreaPage ∧ ¬ bridge.operatorAuthenticated then bridge
  else
    let authenticated :=
      if target ≠ .adminAreaPage then false else bridge.operatorAuthenticated
    let previous := bridge.context.activeScreen
    { bridge with
      operatorAuthenticated := authenticated
      context := { bridge.context with activeScreen := target }
      navigatedTo := bridge.navigatedTo ++ [(previous, target)] }

variable (hmac : String → String → String) (config : OperatorAuthConfig)

def StationStateBridge.onSubmitOperatorPin (bridge : StationStateBridge)
    (pin : String) (now : TimePoint) : StationStateBridge :=
  let verified := bridge.operatorAuth.verify hmac config pin now
  let auth := verified.2
  let submitted : StationStateBridge :=
    { bridge with
      operatorAuthenticated := verified.1
      operatorAuth := auth
      context :=
        { bridge.context with
          operatorLockedOut := auth.isLockedOut now
          operatorRemainingAttempts := auth.remainingAttempts config
          operatorLockoutSecondsRemaining := auth.lockoutRemaining now } }
  if submitted.operatorAuthenticated then
    submitted.onNavigateTo .adminAreaPage
  else submitted

def StationStateBridge.handle (bridge : StationStateBridge) :
    Request → StationStateBridge
  | .navigateTo target => bridge.onNavigateTo target
  | .submitOperatorPin pin now => bridge.onSubmitOperatorPin hmac config pin now

/-- The bridge after the requests. -/
def StationStateBridge.handleAll (bridge : StationStateBridge)
    (requests : List Request) : StationStateBridge :=
  requests.foldl (fun bridge request => bridge.handle hmac config request)
    bridge

/-- The PINs that are submitted. -/
def attempts (requests : List Request) : List Attempt :=
  requests.filterMap fun request =>
    match request with
    | .navigateTo _ => none
    | .submitOperatorPin pin now => some ⟨pin, now⟩

section Navigation

/-- An authenticated operator is in the admin area. -/
def Locked (bridge : StationStateBridge) : Prop :=
  bridge.operatorAuthenticated = true →
    bridge.context.activeScreen = .adminAreaPage

@[simp]
theorem operatorAuth_onNavigateTo (bridge : StationStateBridge)
    (target : Page) :
    (bridge.onNavigateTo target).operatorAuth = bridge.operatorAuth := by
  unfold StationStateBridge.onNavigateTo
  split <;> rfl

/-- Navigation alone does not enter the admin area. -/
theorem activeScreen_onNavigateTo {bridge : StationStateBridge}
    (locked : Locked bridge)
    (outside : bridge.context.activeScreen ≠ .adminAreaPage) (target : Page) :
    (bridge.onNavigateTo target).context.activeScreen ≠ .adminAreaPage := by
  have notAuthenticated : ¬ bridge.operatorAuthenticated = true :=
    fun authenticated => outside (locked authenticated)
  unfold StationStateBridge.onNavigateTo
  split
  case isTrue denied => exact outside
  case isFalse permitted =>
    exact fun isAdmin => permitted ⟨isAdmin, notAuthenticated⟩

theorem Locked.onNavigateTo {bridge : StationStateBridge}
    (locked : Locked bridge) (target : Page) :
    Locked (bridge.onNavigateTo target) := by
  unfold StationStateBridge.onNavigateTo
  split
  case isTrue denied => exact locked
  case isFalse permitted =>
    intro authenticated
    by_contra elsewhere
    simp [if_pos elsewhere] at authenticated

end Navigation

section Submission

theorem onSubmitOperatorPin_cases (bridge : StationStateBridge) (pin : String)
    (now : TimePoint) :
    let submitted := bridge.onSubmitOperatorPin hmac config pin now
    let verified := bridge.operatorAuth.verify hmac config pin now
    submitted.operatorAuth = verified.2 ∧
      submitted.operatorAuthenticated = verified.1 ∧
      submitted.context.activeScreen =
        if verified.1 then .adminAreaPage else bridge.context.activeScreen := by
  intro submitted verified
  simp only [submitted, StationStateBridge.onSubmitOperatorPin]
  cases accepted : (bridge.operatorAuth.verify hmac config pin now).1 <;>
    simp [verified, StationStateBridge.onNavigateTo]

theorem Locked.handle {bridge : StationStateBridge} (locked : Locked bridge)
    (request : Request) : Locked (bridge.handle hmac config request) := by
  cases request with
  | navigateTo target => exact locked.onNavigateTo target
  | submitOperatorPin pin now =>
      obtain ⟨-, authenticated, screen⟩ :=
        onSubmitOperatorPin_cases hmac config bridge pin now
      intro isAuthenticated
      rw [StationStateBridge.handle] at isAuthenticated ⊢
      rw [screen, if_pos (authenticated.symm.trans isAuthenticated)]

theorem handleAll_concat (bridge : StationStateBridge)
    (requests : List Request) (request : Request) :
    bridge.handleAll hmac config (requests ++ [request]) =
      (bridge.handleAll hmac config requests).handle hmac config request := by
  simp [StationStateBridge.handleAll]

theorem locked_handleAll (requests : List Request) :
    Locked (StationStateBridge.handleAll hmac config {} requests) := by
  induction requests using List.reverseRecOn with
  | nil => exact fun authenticated => by cases authenticated
  | append_singleton requests request ih =>
      rw [handleAll_concat]
      exact ih.handle hmac config request

/-- The members of `OperatorAuth` follow from the submitted PINs alone. -/
theorem operatorAuth_handleAll (requests : List Request) :
    (StationStateBridge.handleAll hmac config {} requests).operatorAuth =
      OperatorAuth.after hmac config {} (attempts requests) := by
  induction requests using List.reverseRecOn with
  | nil => rfl
  | append_singleton requests request ih =>
      rw [handleAll_concat, attempts, List.filterMap_append]
      cases request with
      | navigateTo target =>
          refine (operatorAuth_onNavigateTo _ target).trans (ih.trans ?_)
          simp [attempts]
      | submitOperatorPin pin now =>
          refine (onSubmitOperatorPin_cases hmac config _ pin now).1.trans ?_
          refine Eq.trans ?_ (after_concat hmac config {} _ ⟨pin, now⟩).symm
          exact congrArg
            (fun auth => (OperatorAuth.verify hmac config auth pin now).2) ih

end Submission

section MainResult

/-- The admin area is entered through the PIN alone: in every step that changes
the page to it a PIN with the configured hash is submitted while no lockout is
active, and the operator counts as authenticated nowhere else. -/
theorem adminArea_only_through_pin :
    (∀ requests,
      let bridge := StationStateBridge.handleAll hmac config {} requests
      bridge.operatorAuthenticated = true →
        bridge.context.activeScreen = .adminAreaPage) ∧
    ∀ requests request, Ordered (attempts (requests ++ [request])) →
      let bridge := StationStateBridge.handleAll hmac config {} requests
      let next := bridge.handle hmac config request
      let history := OperatorAuth.records hmac config {} (attempts requests)
      bridge.context.activeScreen ≠ .adminAreaPage →
      next.context.activeScreen = .adminAreaPage →
      ∃ pin now, request = .submitOperatorPin pin now ∧
        hashPin hmac pin config.salt = config.pinHash ∧
        ¬ LockoutActive config history now := by
  refine ⟨locked_handleAll hmac config, ?_⟩
  intro requests request ordered bridge next history outside entered
  have locked : Locked bridge := locked_handleAll hmac config requests
  cases request with
  | navigateTo target =>
      exact absurd entered (activeScreen_onNavigateTo locked outside target)
  | submitOperatorPin pin now =>
      obtain ⟨-, -, screen⟩ :=
        onSubmitOperatorPin_cases hmac config bridge pin now
      have accepted :
          (bridge.operatorAuth.verify hmac config pin now).1 = true := by
        by_contra refused
        rw [if_neg refused] at screen
        exact outside (screen.symm.trans entered)
      have orderedBefore : Ordered (attempts requests) := by
        rw [attempts, List.filterMap_append] at ordered
        exact (List.pairwise_append.mp ordered).1
      obtain ⟨unlocked, right⟩ := verify_accepts hmac config accepted
      refine ⟨pin, now, rfl, right, fun active => ?_⟩
      rw [← (describes_after hmac orderedBefore).isLockedOut_iff,
        ← operatorAuth_handleAll] at active
      exact absurd active (Bool.eq_false_iff.mp unlocked)

end MainResult

end MaintenanceAccess

end CocktailMaker
