import CocktailMaker.IntegralType
import CocktailMaker.OperatorAuth

/-!
# The operator PIN on the machine

The counter of wrong PINs is an `int`, and time points are 64-bit numbers of
nanoseconds.  The language leaves an overflow undefined; here the result wraps
around, as it does on the machine.  While nothing overflows, `OperatorAuth`
does what it does over unbounded numbers.
-/

namespace CocktailMaker

namespace OperatorPin

namespace Machine

open IntegralType

structure OperatorAuthConfig where
  pinHash : String
  salt : String
  maxAttempts : int.Value
  lockoutDuration : int64.Value

structure OperatorAuth where
  failedAttempts : int.Value := ⟨0, by decide⟩
  lockedUntil : Option int64.Value := none
  deriving DecidableEq

structure Attempt where
  pin : String
  now : int64.Value
  deriving DecidableEq

section Model

variable (hmac : String → String → String) (config : OperatorAuthConfig)

def OperatorAuth.isLockedOut (auth : OperatorAuth) (now : int64.Value) :
    Bool :=
  match auth.lockedUntil with
  | some deadline => now.val < deadline.val
  | none => false

/-- `now + config_.lockout_duration`, in nanoseconds. -/
def OperatorAuthConfig.deadline (config : OperatorAuthConfig)
    (now : int64.Value) : int64.Value :=
  int64.cast
    (now.val + (int64.cast (nanoseconds config.lockoutDuration.val)).val)

def OperatorAuth.verify (auth : OperatorAuth) (pin : String)
    (now : int64.Value) : Bool × OperatorAuth :=
  if auth.isLockedOut now then (false, auth)
  else if hashPin hmac pin config.salt = config.pinHash then (true, {})
  else
    let failed := int.cast (auth.failedAttempts.val + 1)
    if failed.val ≥ config.maxAttempts.val then
      (false,
        { failedAttempts := failed
          lockedUntil := some (config.deadline now) })
    else (false, { auth with failedAttempts := failed })

def OperatorAuth.remainingAttempts (auth : OperatorAuth) : Int :=
  max 0 (int.wrap (config.maxAttempts.val - auth.failedAttempts.val))

def OperatorAuth.record (auth : OperatorAuth) (attempt : Attempt) : Record where
  now := attempt.now.val
  rejected := auth.isLockedOut attempt.now
  accepted := (auth.verify hmac config attempt.pin attempt.now).1

def OperatorAuth.next (auth : OperatorAuth) (attempt : Attempt) :
    OperatorAuth :=
  (auth.verify hmac config attempt.pin attempt.now).2

/-- The state after the attempts. -/
def OperatorAuth.after (auth : OperatorAuth) (attempts : List Attempt) :
    OperatorAuth :=
  attempts.foldl (fun auth attempt => auth.next hmac config attempt) auth

def OperatorAuth.records (auth : OperatorAuth) :
    List Attempt → List Record
  | [] => []
  | attempt :: attempts =>
      auth.record hmac config attempt ::
        (auth.next hmac config attempt).records attempts

/-- The configuration, with unbounded numbers. -/
def OperatorAuthConfig.exact (config : OperatorAuthConfig) :
    OperatorPin.OperatorAuthConfig where
  pinHash := config.pinHash
  salt := config.salt
  maxAttempts := config.maxAttempts.val
  lockoutDuration := config.lockoutDuration.val

def Attempt.exact (attempt : Attempt) : OperatorPin.Attempt where
  pin := attempt.pin
  now := attempt.now.val

/-- When a wrong PIN is compared, it can be counted, and a lockout that begins
with it ends at a time point of the clock. -/
def Fits (auth : OperatorAuth) (attempt : Attempt) : Prop :=
  auth.isLockedOut attempt.now = false →
    hashPin hmac attempt.pin config.salt ≠ config.pinHash →
      auth.failedAttempts.val < int.max ∧
        (config.maxAttempts.val ≤ auth.failedAttempts.val + 1 →
          int64.InRange (attempt.now.val + config.exact.lockout))

instance (auth : OperatorAuth) (attempt : Attempt) :
    Decidable (Fits hmac config auth attempt) :=
  inferInstanceAs (Decidable (_ → _ → _ ∧ (_ → _)))

/-- Nothing overflows in the attempts. -/
def AllFit (attempts : List Attempt) : Prop :=
  ∀ before attempt after, attempts = before ++ attempt :: after →
    Fits hmac config (OperatorAuth.after hmac config {} before) attempt

end Model

section Simulation

variable {hmac : String → String → String} {config : OperatorAuthConfig}

/-- The members have the values that they have over unbounded numbers. -/
structure Represents (auth : OperatorAuth) (exact : OperatorPin.OperatorAuth) :
    Prop where
  counted : auth.failedAttempts.val = exact.failedAttempts
  locked : auth.lockedUntil.map Subtype.val = exact.lockedUntil

theorem deadline_val (config : OperatorAuthConfig) (now : int64.Value) :
    (config.deadline now).val =
      int64.wrap (now.val + config.exact.lockout) :=
  int64.wrap_add_wrap _ _

theorem Represents.isLockedOut {auth : OperatorAuth}
    {exact : OperatorPin.OperatorAuth} (represents : Represents auth exact)
    (now : int64.Value) : auth.isLockedOut now = exact.isLockedOut now.val := by
  rw [OperatorPin.OperatorAuth.isLockedOut, ← represents.locked,
    OperatorAuth.isLockedOut]
  cases auth.lockedUntil <;> rfl

/-- What `verify` does with an attempt. -/
inductive Outcome (hmac : String → String → String)
    (config : OperatorAuthConfig) (auth : OperatorAuth) (attempt : Attempt) :
    Record → OperatorAuth → Prop
  | rejected (isLocked : auth.isLockedOut attempt.now = true) :
      Outcome hmac config auth attempt ⟨attempt.now.val, true, false⟩ auth
  | accepted (unlocked : auth.isLockedOut attempt.now = false)
      (right : hashPin hmac attempt.pin config.salt = config.pinHash) :
      Outcome hmac config auth attempt ⟨attempt.now.val, false, true⟩ {}
  | locked (unlocked : auth.isLockedOut attempt.now = false)
      (wrong : hashPin hmac attempt.pin config.salt ≠ config.pinHash)
      (exhausted : config.maxAttempts.val ≤
        (int.cast (auth.failedAttempts.val + 1)).val) :
      Outcome hmac config auth attempt ⟨attempt.now.val, false, false⟩
        ⟨int.cast (auth.failedAttempts.val + 1),
          some (config.deadline attempt.now)⟩
  | counted (unlocked : auth.isLockedOut attempt.now = false)
      (wrong : hashPin hmac attempt.pin config.salt ≠ config.pinHash)
      (remaining : (int.cast (auth.failedAttempts.val + 1)).val <
        config.maxAttempts.val) :
      Outcome hmac config auth attempt ⟨attempt.now.val, false, false⟩
        ⟨int.cast (auth.failedAttempts.val + 1), auth.lockedUntil⟩

variable (hmac config) in
theorem outcome (auth : OperatorAuth) (attempt : Attempt) :
    Outcome hmac config auth attempt (auth.record hmac config attempt)
      (auth.next hmac config attempt) := by
  unfold OperatorAuth.record OperatorAuth.next OperatorAuth.verify
  cases isLocked : auth.isLockedOut attempt.now with
  | true => exact .rejected isLocked
  | false =>
      simp only [Bool.false_eq_true, if_false]
      by_cases right : hashPin hmac attempt.pin config.salt = config.pinHash
      · rw [if_pos right]
        exact .accepted isLocked right
      · rw [if_neg right]
        by_cases exhausted : config.maxAttempts.val ≤
            (int.cast (auth.failedAttempts.val + 1)).val
        · rw [if_pos exhausted]
          exact .locked isLocked right exhausted
        · rw [if_neg exhausted]
          exact .counted isLocked right (not_le.mp exhausted)

theorem cast_succ {failedAttempts : int.Value}
    (counts : failedAttempts.val < int.max) :
    (int.cast (failedAttempts.val + 1)).val = failedAttempts.val + 1 := by
  have atLeast := failedAttempts.2.1
  exact int.wrap_of_inRange ⟨by omega, by omega⟩

/-- An attempt in which nothing overflows has the result it has over unbounded
numbers. -/
theorem Represents.next {auth : OperatorAuth}
    {exact : OperatorPin.OperatorAuth} (represents : Represents auth exact)
    {attempt : Attempt} (fits : Fits hmac config auth attempt) :
    auth.record hmac config attempt =
        exact.record hmac config.exact attempt.exact ∧
      Represents (auth.next hmac config attempt)
        (exact.next hmac config.exact attempt.exact) := by
  have isLocked := represents.isLockedOut attempt.now
  have machine := outcome hmac config auth attempt
  have unbounded := OperatorPin.outcome hmac config.exact exact attempt.exact
  generalize auth.record hmac config attempt = record at machine ⊢
  generalize auth.next hmac config attempt = next at machine ⊢
  generalize exact.record hmac config.exact attempt.exact = exactRecord
    at unbounded ⊢
  generalize exact.next hmac config.exact attempt.exact = exactNext
    at unbounded ⊢
  cases machine with
  | rejected locked =>
      have exactLocked := isLocked.symm.trans locked
      cases unbounded with
      | rejected => exact ⟨rfl, represents⟩
      | accepted unlocked => cases exactLocked.symm.trans unlocked
      | locked unlocked => cases exactLocked.symm.trans unlocked
      | counted unlocked => cases exactLocked.symm.trans unlocked
  | accepted unlocked right =>
      cases unbounded with
      | rejected deadline armed early =>
          have locked := OperatorPin.isLockedOut_iff.mpr ⟨_, armed, early⟩
          cases (isLocked.symm.trans unlocked).symm.trans locked
      | accepted => exact ⟨rfl, rfl, rfl⟩
      | locked _ wrong => exact absurd right wrong
      | counted _ wrong => exact absurd right wrong
  | locked unlocked wrong exhausted =>
      obtain ⟨counts, ends⟩ := fits unlocked wrong
      rw [cast_succ counts] at exhausted
      cases unbounded with
      | rejected deadline armed early =>
          have locked := OperatorPin.isLockedOut_iff.mpr ⟨_, armed, early⟩
          cases (isLocked.symm.trans unlocked).symm.trans locked
      | accepted _ right => exact absurd right wrong
      | locked =>
          refine ⟨rfl, ?_, congrArg some ?_⟩
          · exact (cast_succ counts).trans (by simp [represents.counted])
          · exact (deadline_val config attempt.now).trans
              (int64.wrap_of_inRange (ends exhausted))
      | counted _ _ remaining =>
          rw [represents.counted] at exhausted
          exact absurd remaining (not_lt.mpr (by exact_mod_cast exhausted))
  | counted unlocked wrong remaining =>
      obtain ⟨counts, -⟩ := fits unlocked wrong
      rw [cast_succ counts] at remaining
      cases unbounded with
      | rejected deadline armed early =>
          have locked := OperatorPin.isLockedOut_iff.mpr ⟨_, armed, early⟩
          cases (isLocked.symm.trans unlocked).symm.trans locked
      | accepted _ right => exact absurd right wrong
      | locked _ _ exhausted =>
          rw [represents.counted] at remaining
          exact absurd remaining (not_lt.mpr (by exact_mod_cast exhausted))
      | counted =>
          refine ⟨rfl, ?_, represents.locked⟩
          exact (cast_succ counts).trans (by simp [represents.counted])

/-- While nothing overflows, the machine follows the unbounded numbers. -/
theorem Represents.run {auth : OperatorAuth}
    {exact : OperatorPin.OperatorAuth} (represents : Represents auth exact)
    {attempts : List Attempt}
    (fits : ∀ before attempt after, attempts = before ++ attempt :: after →
      Fits hmac config (auth.after hmac config before) attempt) :
    auth.records hmac config attempts =
        exact.records hmac config.exact (attempts.map Attempt.exact) ∧
      Represents (auth.after hmac config attempts)
        (exact.after hmac config.exact (attempts.map Attempt.exact)) := by
  induction attempts generalizing auth exact with
  | nil => exact ⟨rfl, represents⟩
  | cons attempt attempts ih =>
      have fitsFirst := fits [] attempt attempts rfl
      obtain ⟨record, next⟩ := represents.next fitsFirst
      obtain ⟨records, after⟩ := ih next fun before other rest split =>
        fits (attempt :: before) other rest (by rw [split]; rfl)
      refine ⟨?_, after⟩
      rw [OperatorAuth.records, record, records]
      rfl

theorem represents_initial : Represents {} {} :=
  ⟨rfl, rfl⟩

theorem isLockedOut_iff {attempts : List Attempt}
    (ordered : Ordered (attempts.map Attempt.exact))
    (fits : AllFit hmac config attempts) (now : int64.Value) :
    (OperatorAuth.after hmac config {} attempts).isLockedOut now = true ↔
      LockoutActive config.exact
        (OperatorAuth.records hmac config {} attempts) now.val := by
  obtain ⟨records, represents⟩ := represents_initial.run fits
  rw [represents.isLockedOut, records]
  exact (describes_after hmac ordered).isLockedOut_iff now.val

theorem not_isLockedOut_of_verify {auth : OperatorAuth} {pin : String}
    {now : int64.Value}
    (accepted : (auth.verify hmac config pin now).1 = true) :
    auth.isLockedOut now = false := by
  have step := outcome hmac config auth ⟨pin, now⟩
  have recorded : (auth.record hmac config ⟨pin, now⟩).accepted = true :=
    accepted
  generalize auth.record hmac config ⟨pin, now⟩ = record at step recorded
  generalize auth.next hmac config ⟨pin, now⟩ = next at step
  cases step with
  | rejected => cases recorded
  | accepted unlocked => exact unlocked
  | locked => cases recorded
  | counted => cases recorded

theorem allFit_nil : AllFit hmac config [] := by
  intro before attempt after split
  simp at split

theorem AllFit.concat {attempts : List Attempt}
    (fits : AllFit hmac config attempts) {attempt : Attempt}
    (fitsLast : Fits hmac config (OperatorAuth.after hmac config {} attempts)
      attempt) :
    AllFit hmac config (attempts ++ [attempt]) := by
  intro before other after split
  rcases List.eq_nil_or_concat after with rfl | ⟨earlier, last, rfl⟩
  · obtain ⟨rfl, rfl⟩ : attempts = before ∧ attempt = other := by
      simpa using split
    exact fitsLast
  · have regrouped : attempts ++ [attempt] =
        (before ++ other :: earlier) ++ [last] := by
      simpa using split
    exact fits before other earlier (List.append_inj' regrouped rfl).1

theorem AllFit.before {attempts more : List Attempt}
    (fits : AllFit hmac config (attempts ++ more)) :
    AllFit hmac config attempts := by
  intro before attempt after split
  apply fits before attempt (after ++ more)
  rw [split, List.append_assoc, List.cons_append]

theorem AllFit.rest {attempts more : List Attempt}
    (fits : AllFit hmac config (attempts ++ more)) :
    ∀ before attempt after, more = before ++ attempt :: after →
      Fits hmac config
        ((OperatorAuth.after hmac config {} attempts).after hmac config before)
        attempt := by
  intro before attempt after split
  have first := fits (attempts ++ before) attempt after
    (by rw [split, List.append_assoc])
  rwa [OperatorAuth.after, List.foldl_append] at first

end Simulation

section MainResult

variable (hmac : String → String → String) (config : OperatorAuthConfig)

/-- Guessing the PIN is rate limited as long as nothing overflows.  A PIN is
rejected exactly while a lockout is active, so that no PIN is accepted then.
In a stretch without a right PIN, no window of the lockout duration has more
comparisons than permitted. -/
theorem rate_limited_of_allFit :
    (∀ (attempts : List Attempt) (attempt : Attempt),
      Ordered ((attempts ++ [attempt]).map Attempt.exact) →
      AllFit hmac config attempts →
      let auth := OperatorAuth.after hmac config {} attempts
      let history := OperatorAuth.records hmac config {} attempts
      (auth.isLockedOut attempt.now = true ↔
        LockoutActive config.exact history attempt.now.val) ∧
      ((auth.verify hmac config attempt.pin attempt.now).1 = true →
        ¬ LockoutActive config.exact history attempt.now.val)) ∧
    ∀ attempts stretch : List Attempt,
      Ordered ((attempts ++ stretch).map Attempt.exact) →
      AllFit hmac config (attempts ++ stretch) →
      let auth := OperatorAuth.after hmac config {} attempts
      let records := auth.records hmac config stretch
      (∀ record ∈ records, record.accepted = false) →
      ∀ start, (comparedIn config.exact start records : Int) ≤
        max 1 config.maxAttempts.val := by
  constructor
  · intro attempts attempt ordered fits auth history
    rw [List.map_append] at ordered
    obtain ⟨orderedBefore, -⟩ := List.pairwise_append.mp ordered
    have active : auth.isLockedOut attempt.now = true ↔
        LockoutActive config.exact history attempt.now.val :=
      isLockedOut_iff orderedBefore fits attempt.now
    refine ⟨active, fun accepted => ?_⟩
    rw [← active, not_isLockedOut_of_verify accepted]
    exact Bool.false_ne_true
  · intro attempts stretch ordered fits auth records noSuccess start
    rw [List.map_append] at ordered
    obtain ⟨before, represents⟩ := represents_initial.run fits.before
    obtain ⟨sameRecords, -⟩ := represents.run fits.rest
    have exactly : records = (OperatorPin.OperatorAuth.after hmac config.exact
        {} (attempts.map Attempt.exact)).records hmac config.exact
          (stretch.map Attempt.exact) := sameRecords
    rw [exactly] at noSuccess ⊢
    exact (verify_rate_limited hmac config.exact).2 _ _ ordered noSuccess start

/-- The second wrong PIN begins a lockout of thirty seconds. -/
theorem rate_limited_two_wrong :
    let config : OperatorAuthConfig :=
      ⟨"42", "4", ⟨2, by decide⟩, ⟨30, by decide⟩⟩
    let attempts : List Attempt :=
      [⟨"1", ⟨0, by decide⟩⟩, ⟨"3", ⟨1000000000, by decide⟩⟩]
    let records :=
      OperatorAuth.records (fun salt pin => salt ++ pin) config {} attempts
    LockoutActive config.exact records 2000000000 ∧
      (comparedIn config.exact 0 records : Int) ≤ 2 := by
  intro config attempts records
  have limited := rate_limited_of_allFit (fun salt pin => salt ++ pin) config
  have fitsFirst : AllFit (fun salt pin => salt ++ pin) config
      [⟨"1", ⟨0, by decide⟩⟩] := allFit_nil.concat (by decide)
  have fits : AllFit (fun salt pin => salt ++ pin) config attempts :=
    fitsFirst.concat (by decide)
  constructor
  · exact (limited.1 attempts ⟨"2", ⟨2000000000, by decide⟩⟩ (by decide)
      fits).1.mp (by decide)
  · exact limited.2 [] attempts (by decide) fits (by decide) 0

/-- One wrong PIN is allowed, and the lockout is to last as long as a number
of seconds can tell.  Its end overflows into the past, and the next wrong PIN
is compared, too. -/
theorem not_rate_limited_of_overflow :
    ¬ ∀ (config : OperatorAuthConfig) (attempts stretch : List Attempt),
      Ordered ((attempts ++ stretch).map Attempt.exact) →
      let auth :=
        OperatorAuth.after (fun salt pin => salt ++ pin) config {} attempts
      let records := auth.records (fun salt pin => salt ++ pin) config stretch
      (∀ record ∈ records, record.accepted = false) →
      ∀ start, (comparedIn config.exact start records : Int) ≤
        max 1 config.maxAttempts.val := by
  intro limited
  have compared := limited ⟨"42", "4", ⟨1, by decide⟩, int64.limitsMax⟩ []
    [⟨"1", ⟨0, by decide⟩⟩, ⟨"1", ⟨1, by decide⟩⟩] (by decide) (by decide) 0
  exact absurd compared (by decide)

end MainResult

end Machine

end OperatorPin

end CocktailMaker
