import Mathlib.Algebra.Order.Ring.Int
import Mathlib.Data.List.Induction
import Mathlib.Order.Basic
import Mathlib.Tactic.Linarith

/-!
# The operator PIN

`OperatorAuth` compares the hash of a PIN with the configured one.  It counts
the wrong PINs since the last right one.  From `max_attempts` of them on, every
further wrong PIN starts a lockout, and no PIN is compared before it is over.
Time points are numbers of nanoseconds.
-/

namespace CocktailMaker

namespace OperatorPin

abbrev TimePoint := Int

/-- A `std::chrono::seconds` on the clock. -/
def nanoseconds (seconds : Int) : Int :=
  seconds * 1000000000

structure OperatorAuthConfig where
  pinHash : String
  salt : String
  maxAttempts : Int := 5
  lockoutDuration : Int := 30

/-- The lockout duration on the clock. -/
def OperatorAuthConfig.lockout (config : OperatorAuthConfig) : Int :=
  nanoseconds config.lockoutDuration

/-- `hmac` is the HMAC of a message under a key, as text. -/
def hashPin (hmac : String → String → String) (pin salt : String) : String :=
  hmac salt pin

/-- The members of `OperatorAuth` that change. -/
structure OperatorAuth where
  failedAttempts : Nat := 0
  lockedUntil : Option TimePoint := none
  deriving DecidableEq

variable (hmac : String → String → String) (config : OperatorAuthConfig)

def OperatorAuth.isLockedOut (auth : OperatorAuth) (now : TimePoint) : Bool :=
  match auth.lockedUntil with
  | some deadline => now < deadline
  | none => false

def OperatorAuth.verify (auth : OperatorAuth) (pin : String)
    (now : TimePoint) : Bool × OperatorAuth :=
  if auth.isLockedOut now then (false, auth)
  else if hashPin hmac pin config.salt = config.pinHash then
    (true, { failedAttempts := 0, lockedUntil := none })
  else
    let failed := auth.failedAttempts + 1
    if (failed : Int) ≥ config.maxAttempts then
      (false,
        { failedAttempts := failed
          lockedUntil := some (now + nanoseconds config.lockoutDuration) })
    else (false, { auth with failedAttempts := failed })

def OperatorAuth.remainingAttempts (auth : OperatorAuth) : Int :=
  max 0 (config.maxAttempts - auth.failedAttempts)

def OperatorAuth.lockoutRemaining (auth : OperatorAuth) (now : TimePoint) :
    Int :=
  match auth.lockedUntil with
  | some deadline =>
      if now < deadline then (deadline - now).tdiv 1000000000 else 0
  | none => 0

/-- A call of `verify`. -/
structure Attempt where
  pin : String
  now : TimePoint
  deriving DecidableEq

/-- A call of `verify` and what came of it. -/
structure Record where
  now : TimePoint
  rejected : Bool
  accepted : Bool
  deriving DecidableEq

/-- The PIN was compared and was wrong. -/
def Record.wrong (record : Record) : Bool :=
  !record.rejected && !record.accepted

def OperatorAuth.record (auth : OperatorAuth) (attempt : Attempt) : Record where
  now := attempt.now
  rejected := auth.isLockedOut attempt.now
  accepted := (auth.verify hmac config attempt.pin attempt.now).1

def OperatorAuth.next (auth : OperatorAuth) (attempt : Attempt) :
    OperatorAuth :=
  (auth.verify hmac config attempt.pin attempt.now).2

/-- The state after the attempts. -/
def OperatorAuth.after (auth : OperatorAuth) (attempts : List Attempt) :
    OperatorAuth :=
  attempts.foldl (fun auth attempt => auth.next hmac config attempt) auth

def OperatorAuth.records (auth : OperatorAuth) :
    List Attempt → List Record
  | [] => []
  | attempt :: attempts =>
      auth.record hmac config attempt ::
        (auth.next hmac config attempt).records attempts

/-- The time points of the attempts never decrease. -/
def Ordered (attempts : List Attempt) : Prop :=
  attempts.Pairwise fun earlier later => earlier.now ≤ later.now

instance : DecidablePred Ordered :=
  fun attempts => inferInstanceAs (Decidable (attempts.Pairwise _))

section Outcomes

/-- What `verify` does with an attempt. -/
inductive Outcome (auth : OperatorAuth) (attempt : Attempt) :
    Record → OperatorAuth → Prop
  | rejected (deadline : TimePoint) (armed : auth.lockedUntil = some deadline)
      (early : attempt.now < deadline) :
      Outcome auth attempt ⟨attempt.now, true, false⟩ auth
  | accepted (unlocked : auth.isLockedOut attempt.now = false)
      (right : hashPin hmac attempt.pin config.salt = config.pinHash) :
      Outcome auth attempt ⟨attempt.now, false, true⟩ {}
  | locked (unlocked : auth.isLockedOut attempt.now = false)
      (wrong : hashPin hmac attempt.pin config.salt ≠ config.pinHash)
      (exhausted : config.maxAttempts ≤ (auth.failedAttempts + 1 : Nat)) :
      Outcome auth attempt ⟨attempt.now, false, false⟩
        ⟨auth.failedAttempts + 1, some (attempt.now + config.lockout)⟩
  | counted (unlocked : auth.isLockedOut attempt.now = false)
      (wrong : hashPin hmac attempt.pin config.salt ≠ config.pinHash)
      (remaining : (auth.failedAttempts + 1 : Nat) < config.maxAttempts) :
      Outcome auth attempt ⟨attempt.now, false, false⟩
        ⟨auth.failedAttempts + 1, auth.lockedUntil⟩

theorem isLockedOut_iff {auth : OperatorAuth} {now : TimePoint} :
    auth.isLockedOut now = true ↔
      ∃ deadline, auth.lockedUntil = some deadline ∧ now < deadline := by
  unfold OperatorAuth.isLockedOut
  cases auth.lockedUntil <;> simp

theorem outcome (auth : OperatorAuth) (attempt : Attempt) :
    Outcome hmac config auth attempt (auth.record hmac config attempt)
      (auth.next hmac config attempt) := by
  unfold OperatorAuth.record OperatorAuth.next OperatorAuth.verify
  cases locked : auth.isLockedOut attempt.now with
  | true =>
      obtain ⟨deadline, armed, early⟩ := isLockedOut_iff.mp locked
      exact .rejected deadline armed early
  | false =>
      simp only [Bool.false_eq_true, if_false]
      by_cases right : hashPin hmac attempt.pin config.salt = config.pinHash
      · rw [if_pos right]
        exact .accepted locked right
      · rw [if_neg right]
        by_cases exhausted :
            config.maxAttempts ≤ (auth.failedAttempts + 1 : Nat)
        · rw [if_pos exhausted]
          exact .locked locked right exhausted
        · rw [if_neg exhausted]
          exact .counted locked right (not_le.mp exhausted)

theorem after_concat (auth : OperatorAuth) (attempts : List Attempt)
    (attempt : Attempt) :
    auth.after hmac config (attempts ++ [attempt]) =
      (auth.after hmac config attempts).next hmac config attempt := by
  simp [OperatorAuth.after]

theorem records_concat (auth : OperatorAuth) (attempts : List Attempt)
    (attempt : Attempt) :
    auth.records hmac config (attempts ++ [attempt]) =
      auth.records hmac config attempts ++
        [(auth.after hmac config attempts).record hmac config attempt] := by
  induction attempts generalizing auth with
  | nil => rfl
  | cons first attempts ih =>
      simp only [List.cons_append, OperatorAuth.records]
      rw [ih]
      rfl

theorem map_now_records (auth : OperatorAuth) (attempts : List Attempt) :
    (auth.records hmac config attempts).map Record.now =
      attempts.map Attempt.now := by
  induction attempts generalizing auth with
  | nil => rfl
  | cons attempt attempts ih =>
      rw [OperatorAuth.records, List.map_cons, List.map_cons, ih]
      rfl

theorem exists_attempt_of_mem_records {auth : OperatorAuth}
    {attempts : List Attempt} {record : Record}
    (member : record ∈ auth.records hmac config attempts) :
    ∃ attempt ∈ attempts, attempt.now = record.now := by
  have isTime : record.now ∈ attempts.map Attempt.now :=
    map_now_records hmac config auth attempts ▸ List.mem_map_of_mem member
  exact List.mem_map.mp isTime

end Outcomes

section Lockouts

/-- The wrong PINs since the last right one. -/
def failures (history : List Record) : Nat :=
  history.foldl
    (fun count record =>
      if record.accepted then 0
      else if record.rejected then count
      else count + 1) 0

/-- A wrong PIN since the last right one has started a lockout that ends at
`deadline`. -/
def Armed (history : List Record) (deadline : TimePoint) : Prop :=
  ∃ before wrong after, history = before ++ wrong :: after ∧
    wrong.wrong = true ∧
    config.maxAttempts ≤ (failures before + 1 : Nat) ∧
    (∀ record ∈ after, record.accepted = false) ∧
    deadline = wrong.now + config.lockout

/-- Some lockout that has been started is not over yet. -/
def LockoutActive (history : List Record) (now : TimePoint) : Prop :=
  ∃ deadline, Armed config history deadline ∧ now < deadline

theorem failures_concat (history : List Record) (record : Record) :
    failures (history ++ [record]) =
      if record.accepted then 0
      else if record.rejected then failures history
      else failures history + 1 := by
  simp [failures]

variable {config}

theorem Armed.exists_record {history : List Record} {deadline : TimePoint}
    (armed : Armed config history deadline) :
    ∃ record ∈ history, deadline = record.now + config.lockout := by
  obtain ⟨before, wrong, after, rfl, -, -, -, ends⟩ := armed
  exact ⟨wrong, by simp, ends⟩

theorem armed_concat {history : List Record} {record : Record}
    {deadline : TimePoint} :
    Armed config (history ++ [record]) deadline ↔
      (record.wrong = true ∧
          config.maxAttempts ≤ (failures history + 1 : Nat) ∧
          deadline = record.now + config.lockout) ∨
        (Armed config history deadline ∧ record.accepted = false) := by
  constructor
  · rintro ⟨before, wrong, after, split, isWrong, exhausted, notAccepted, ends⟩
    rcases List.eq_nil_or_concat after with rfl | ⟨earlier, last, rfl⟩
    · obtain ⟨rfl, rfl⟩ : history = before ∧ record = wrong := by
        simpa using split
      exact .inl ⟨isWrong, exhausted, ends⟩
    · have regrouped : history ++ [record] =
          (before ++ wrong :: earlier) ++ [last] := by
        simpa using split
      obtain ⟨rfl, sameRecord⟩ := List.append_inj' regrouped rfl
      obtain rfl : record = last := List.singleton_inj.mp sameRecord
      exact .inr ⟨⟨before, wrong, earlier, rfl, isWrong, exhausted,
        fun other member => notAccepted other (by simp [member]), ends⟩,
        notAccepted record (by simp)⟩
  · rintro (⟨isWrong, exhausted, ends⟩ |
      ⟨⟨before, wrong, after, rfl, isWrong, exhausted, notAccepted, ends⟩,
        alsoNot⟩)
    · exact ⟨history, record, [], rfl, isWrong, exhausted, by simp, ends⟩
    · refine ⟨before, wrong, after ++ [record], by simp, isWrong, exhausted,
        ?_, ends⟩
      intro other member
      rcases List.mem_append.mp member with earlier | last
      · exact notAccepted other earlier
      · exact List.mem_singleton.mp last ▸ alsoNot

variable (config)

/-- How the members follow from the history. -/
structure Describes (history : List Record) (auth : OperatorAuth) : Prop where
  counted : auth.failedAttempts = failures history
  armed : ∀ deadline, auth.lockedUntil = some deadline →
    Armed config history deadline
  latest : ∀ deadline, Armed config history deadline →
    ∃ later, auth.lockedUntil = some later ∧ deadline ≤ later

theorem describes_initial : Describes config [] {} where
  counted := rfl
  armed := by simp
  latest := by
    rintro deadline ⟨before, wrong, after, split, -⟩
    simp at split

variable {config}

theorem Describes.next {history : List Record} {auth : OperatorAuth}
    (describes : Describes config history auth) (attempt : Attempt)
    (ordered : ∀ record ∈ history, record.now ≤ attempt.now) :
    Describes config (history ++ [auth.record hmac config attempt])
      (auth.next hmac config attempt) := by
  obtain ⟨counted, armed, latest⟩ := describes
  have earlier {deadline : TimePoint} (before : Armed config history deadline) :
      deadline ≤ attempt.now + config.lockout := by
    obtain ⟨record, member, rfl⟩ := before.exists_record
    exact add_le_add_left (ordered record member) _
  have step := outcome hmac config auth attempt
  generalize auth.record hmac config attempt = record at step ⊢
  generalize auth.next hmac config attempt = next at step ⊢
  cases step with
  | rejected deadline locked early =>
      refine ⟨?_, ?_, ?_⟩
      · rw [failures_concat]
        exact counted
      · exact fun deadline endsAt => armed_concat.mpr
          (.inr ⟨armed deadline endsAt, rfl⟩)
      · intro deadline armedAfter
        rcases armed_concat.mp armedAfter with ⟨wrong, -⟩ | ⟨before, -⟩
        · cases wrong
        · exact latest deadline before
  | accepted unlocked right =>
      refine ⟨?_, ?_, ?_⟩
      · rw [failures_concat]
        rfl
      · simp
      · intro deadline armedAfter
        rcases armed_concat.mp armedAfter with ⟨wrong, -⟩ | ⟨-, notAccepted⟩
        · cases wrong
        · cases notAccepted
  | locked unlocked wrong exhausted =>
      refine ⟨?_, ?_, ?_⟩
      · rw [failures_concat, counted]
        rfl
      · intro deadline endsAt
        refine armed_concat.mpr (.inl ⟨rfl, counted ▸ exhausted, ?_⟩)
        exact (Option.some.inj endsAt).symm
      · intro deadline armedAfter
        refine ⟨_, rfl, ?_⟩
        rcases armed_concat.mp armedAfter with ⟨-, -, ends⟩ | ⟨before, -⟩
        · exact ends.le
        · exact earlier before
  | counted unlocked wrong remaining =>
      refine ⟨?_, ?_, ?_⟩
      · rw [failures_concat, counted]
        rfl
      · exact fun deadline endsAt => armed_concat.mpr
          (.inr ⟨armed deadline endsAt, rfl⟩)
      · intro deadline armedAfter
        rcases armed_concat.mp armedAfter with ⟨-, exhausted, -⟩ | ⟨before, -⟩
        · rw [← counted] at exhausted
          exact absurd exhausted (not_le.mpr remaining)
        · exact latest deadline before

theorem describes_after {attempts : List Attempt} (ordered : Ordered attempts) :
    Describes config (OperatorAuth.records hmac config {} attempts)
      (OperatorAuth.after hmac config {} attempts) := by
  induction attempts using List.reverseRecOn with
  | nil => exact describes_initial config
  | append_singleton attempts attempt ih =>
      obtain ⟨orderedBefore, -, last⟩ := List.pairwise_append.mp ordered
      rw [records_concat, after_concat]
      refine (ih orderedBefore).next hmac attempt fun record member => ?_
      obtain ⟨earlier, inAttempts, sameTime⟩ :=
        exists_attempt_of_mem_records hmac config member
      exact sameTime ▸ last earlier inAttempts attempt (by simp)

theorem Describes.isLockedOut_iff {history : List Record} {auth : OperatorAuth}
    (describes : Describes config history auth) (now : TimePoint) :
    auth.isLockedOut now = true ↔ LockoutActive config history now := by
  rw [OperatorPin.isLockedOut_iff]
  constructor
  · rintro ⟨deadline, endsAt, early⟩
    exact ⟨deadline, describes.armed deadline endsAt, early⟩
  · rintro ⟨deadline, armed, early⟩
    obtain ⟨later, endsAt, ends⟩ := describes.latest deadline armed
    exact ⟨later, endsAt, early.trans_le ends⟩

end Lockouts

section Windows

/-- A wrong PIN in the window of the lockout duration from `start` on. -/
def inWindow (start : TimePoint) (record : Record) : Bool :=
  record.wrong && decide (start ≤ record.now) &&
    decide (record.now < start + config.lockout)

/-- How many wrong PINs are compared in the window. -/
def comparedIn (start : TimePoint) (records : List Record) : Nat :=
  records.countP (inWindow config start)

theorem comparedIn_cons (start : TimePoint) (record : Record)
    (records : List Record) :
    comparedIn config start (record :: records) =
      comparedIn config start records +
        if inWindow config start record then 1 else 0 :=
  List.countP_cons

variable {config} {start : TimePoint}

theorem comparedIn_of_late {auth : OperatorAuth} {attempts : List Attempt}
    (late : ∀ attempt ∈ attempts, start + config.lockout ≤ attempt.now) :
    comparedIn config start (auth.records hmac config attempts) = 0 := by
  refine List.countP_eq_zero.mpr fun record member => ?_
  obtain ⟨attempt, inAttempts, sameTime⟩ :=
    exists_attempt_of_mem_records hmac config member
  have tooLate : ¬ record.now < start + config.lockout :=
    not_lt.mpr (sameTime ▸ late attempt inAttempts)
  simp [inWindow, tooLate]

/-- A lockout that lasts to the end of the window lets no PIN be compared. -/
theorem comparedIn_of_lockedUntil {auth : OperatorAuth}
    {deadline : TimePoint} (locked : auth.lockedUntil = some deadline)
    (lasts : start + config.lockout ≤ deadline) {attempts : List Attempt}
    (ordered : Ordered attempts) :
    comparedIn config start (auth.records hmac config attempts) = 0 := by
  induction attempts with
  | nil => rfl
  | cons attempt attempts ih =>
      obtain ⟨first, orderedRest⟩ := List.pairwise_cons.mp ordered
      cases early : auth.isLockedOut attempt.now with
      | false =>
          -- The lockout is over, and so is the window.
          have passed : deadline ≤ attempt.now := by
            simpa [OperatorAuth.isLockedOut, locked] using early
          refine comparedIn_of_late hmac fun later member => ?_
          rcases List.mem_cons.mp member with rfl | inRest
          · exact lasts.trans passed
          · exact (lasts.trans passed).trans (first later inRest)
      | true =>
          have step := outcome hmac config auth attempt
          rw [OperatorAuth.records, comparedIn_cons]
          generalize auth.record hmac config attempt = record at step ⊢
          generalize auth.next hmac config attempt = next at step ⊢
          cases step with
          | rejected => exact ih orderedRest
          | accepted unlocked => simp [early] at unlocked
          | locked unlocked => simp [early] at unlocked
          | counted unlocked => simp [early] at unlocked

/-- Until the next right PIN, a window has room for the attempts that remain,
and for one when none remain. -/
theorem comparedIn_le {auth : OperatorAuth} {attempts : List Attempt}
    (ordered : Ordered attempts)
    (noSuccess : ∀ record ∈ auth.records hmac config attempts,
      record.accepted = false) :
    (comparedIn config start (auth.records hmac config attempts) : Int) ≤
      max 1 (config.maxAttempts - auth.failedAttempts) := by
  induction attempts generalizing auth with
  | nil => exact zero_le_one.trans (le_max_left _ _)
  | cons attempt attempts ih =>
      obtain ⟨-, orderedRest⟩ := List.pairwise_cons.mp ordered
      rw [OperatorAuth.records] at noSuccess ⊢
      obtain ⟨notNow, notLater⟩ := List.forall_mem_cons.mp noSuccess
      have rest := ih orderedRest notLater
      have step := outcome hmac config auth attempt
      have afterLockout {deadline : TimePoint}
          (locked : (auth.next hmac config attempt).lockedUntil =
            some deadline)
          (lasts : start + config.lockout ≤ deadline) :=
        comparedIn_of_lockedUntil hmac locked lasts orderedRest
      rw [comparedIn_cons]
      generalize auth.record hmac config attempt = record at step notNow ⊢
      generalize auth.next hmac config attempt = next at *
      cases step with
      | rejected => exact rest
      | accepted => cases notNow
      | locked unlocked wrong exhausted =>
          split
          case isTrue within =>
            have begun : start ≤ attempt.now := by
              simp [inWindow] at within
              exact within.1.2
            rw [afterLockout rfl (add_le_add_left begun _)]
            exact le_max_left _ _
          case isFalse outside =>
            refine rest.trans (max_le_max_left 1 ?_)
            push_cast
            linarith
      | counted unlocked wrong remaining =>
          have room : max 1 (config.maxAttempts -
              ((auth.failedAttempts + 1 : Nat) : Int)) + 1 ≤
              config.maxAttempts - auth.failedAttempts := by
            push_cast at remaining ⊢
            omega
          refine le_trans ?_ (le_max_right _ _)
          refine le_trans ?_ room
          push_cast
          refine add_le_add rest ?_
          split <;> simp

end Windows

section MainResult

theorem verify_accepts {auth : OperatorAuth} {pin : String} {now : TimePoint}
    (accepted : (auth.verify hmac config pin now).1 = true) :
    auth.isLockedOut now = false ∧
      hashPin hmac pin config.salt = config.pinHash := by
  have step := outcome hmac config auth ⟨pin, now⟩
  have recorded : (auth.record hmac config ⟨pin, now⟩).accepted = true :=
    accepted
  generalize auth.record hmac config ⟨pin, now⟩ = record at step recorded
  generalize auth.next hmac config ⟨pin, now⟩ = next at step
  cases step with
  | rejected => cases recorded
  | accepted unlocked right => exact ⟨unlocked, right⟩
  | locked => cases recorded
  | counted => cases recorded

/-- Guessing the PIN is rate limited.  A PIN is rejected exactly while a
lockout is active, so that no PIN is accepted then.  In a stretch without a
right PIN, no window of the lockout duration has more comparisons than
permitted. -/
theorem verify_rate_limited :
    (∀ (attempts : List Attempt) (attempt : Attempt),
      Ordered (attempts ++ [attempt]) →
      let auth := OperatorAuth.after hmac config {} attempts
      let history := OperatorAuth.records hmac config {} attempts
      (auth.isLockedOut attempt.now = true ↔
        LockoutActive config history attempt.now) ∧
      ((auth.verify hmac config attempt.pin attempt.now).1 = true →
        ¬ LockoutActive config history attempt.now)) ∧
    ∀ attempts stretch : List Attempt, Ordered (attempts ++ stretch) →
      let auth := OperatorAuth.after hmac config {} attempts
      let records := auth.records hmac config stretch
      (∀ record ∈ records, record.accepted = false) →
      ∀ start, (comparedIn config start records : Int) ≤
        max 1 config.maxAttempts := by
  constructor
  · intro attempts attempt ordered auth history
    obtain ⟨orderedBefore, -⟩ := List.pairwise_append.mp ordered
    have active : auth.isLockedOut attempt.now = true ↔
        LockoutActive config history attempt.now :=
      (describes_after hmac orderedBefore).isLockedOut_iff attempt.now
    refine ⟨active, fun accepted => ?_⟩
    rw [← active, (verify_accepts hmac config accepted).1]
    exact Bool.false_ne_true
  · intro attempts stretch ordered auth records noSuccess start
    obtain ⟨-, orderedStretch, -⟩ := List.pairwise_append.mp ordered
    calc
      (comparedIn config start records : Int) ≤
          max 1 (config.maxAttempts - auth.failedAttempts) :=
        comparedIn_le hmac orderedStretch noSuccess
      _ ≤ max 1 config.maxAttempts := by
        refine max_le_max_left 1 ?_
        omega

end MainResult

end OperatorPin

end CocktailMaker
