import CocktailMaker.MachineAuth

/-!
# The advertised number of PIN attempts

`remaining_attempts` tells the operator how many wrong PINs are left until the
next lockout.  The number comes from the counter of wrong PINs, which a lockout
does not reset.  From the first lockout on it stays zero until a right PIN,
although one more wrong PIN is compared after each lockout.
-/

namespace CocktailMaker

namespace OperatorPin

section Histories

variable {config : OperatorAuthConfig} {history : List Record}

variable (config history) in
/-- No wrong PIN since the last right one has started a lockout. -/
def NeverLocked : Prop :=
  ∀ deadline, ¬ Armed config history deadline

variable (history) in
theorem failures_concat_of_wrong {record : Record}
    (wrong : record.wrong = true) :
    failures (history ++ [record]) = failures history + 1 := by
  obtain ⟨notRejected, notAccepted⟩ :
      record.rejected = false ∧ record.accepted = false := by
    simpa [Record.wrong] using wrong
  rw [failures_concat, notRejected, notAccepted]
  rfl

variable (history) in
theorem failures_le_append {after : List Record}
    (notAccepted : ∀ record ∈ after, record.accepted = false) :
    failures history ≤ failures (history ++ after) := by
  induction after using List.reverseRecOn with
  | nil => rw [List.append_nil]
  | append_singleton earlier record ih =>
      have before := ih fun other member => notAccepted other (by simp [member])
      rw [← List.append_assoc, failures_concat,
        notAccepted record (by simp)]
      simp only [Bool.false_eq_true, if_false]
      split <;> omega

theorem maxAttempts_le_failures {deadline : TimePoint}
    (armed : Armed config history deadline) :
    config.maxAttempts ≤ failures history := by
  obtain ⟨before, wrong, after, rfl, isWrong, exhausted, notAccepted, -⟩ := armed
  have counted := failures_concat_of_wrong before isWrong
  have kept := failures_le_append (before ++ [wrong]) notAccepted
  rw [List.append_assoc, List.singleton_append, counted] at kept
  omega

theorem exists_armed (positiveAttempts : 1 ≤ config.maxAttempts)
    (exhausted : config.maxAttempts ≤ failures history) :
    ∃ deadline, Armed config history deadline := by
  induction history using List.reverseRecOn with
  | nil => exact absurd (positiveAttempts.trans exhausted) (by decide)
  | append_singleton history record ih =>
      rw [failures_concat] at exhausted
      cases accepted : record.accepted with
      | true =>
          rw [if_pos accepted] at exhausted
          exact absurd (positiveAttempts.trans exhausted) (by decide)
      | false =>
          rw [accepted] at exhausted
          cases rejected : record.rejected with
          | true =>
              obtain ⟨deadline, armed⟩ := ih (by simpa [rejected] using exhausted)
              exact ⟨deadline, armed_concat.mpr (.inr ⟨armed, accepted⟩)⟩
          | false =>
              refine ⟨_, armed_concat.mpr (.inl ⟨?_, ?_, rfl⟩)⟩
              · simp [Record.wrong, accepted, rejected]
              · simpa [rejected] using exhausted

/-- While attempts are left, no lockout has begun. -/
theorem neverLocked_iff (positiveAttempts : 1 ≤ config.maxAttempts) :
    NeverLocked config history ↔
      (failures history : Int) < config.maxAttempts := by
  constructor
  · intro never
    by_contra exhausted
    obtain ⟨deadline, armed⟩ :=
      exists_armed positiveAttempts (not_lt.mp exhausted)
    exact never deadline armed
  · intro left deadline armed
    exact absurd (maxAttempts_le_failures armed) (not_le.mpr left)

end Histories

namespace Machine

open IntegralType

section Model

variable (hmac : String → String → String) (config : OperatorAuthConfig)

/-- A lockout begins with the attempt. -/
def BeginsLockout (auth : OperatorAuth) (attempt : Attempt) : Prop :=
  auth.isLockedOut attempt.now = false ∧
    (auth.next hmac config attempt).isLockedOut attempt.now = true

instance (auth : OperatorAuth) :
    DecidablePred (BeginsLockout hmac config auth) :=
  fun _ => inferInstanceAs (Decidable (_ ∧ _))

/-- Nothing but wrong PINs is submitted, from `now` on. -/
structure WrongFrom (now : int64.Value) (attempts : List Attempt) : Prop where
  wrong : ∀ attempt ∈ attempts,
    hashPin hmac attempt.pin config.salt ≠ config.pinHash
  later : ∀ attempt ∈ attempts, now.val ≤ attempt.now.val

/-- There is an attempt left, and of the further attempts it is the last one
of those advertised with which the next lockout begins. -/
structure AdvertisesExactly (auth : OperatorAuth) (further : List Attempt) :
    Prop where
  positive : 1 ≤ auth.remainingAttempts config
  begins : ∀ before attempt after, further = before ++ attempt :: after →
    (before.length : Int) < auth.remainingAttempts config →
      (BeginsLockout hmac config (auth.after hmac config before) attempt ↔
        (before.length + 1 : Int) = auth.remainingAttempts config)

/-- The permitted wrong PINs without those since the last right one, as an
`int`. -/
def attemptsLeft (history : List Record) : Int :=
  int.wrap (config.maxAttempts.val - failures history)

/-- So many wrong PINs have been compared since the last right one that the
counter has overflowed, and it has become too small again. -/
def CounterOverflowed (history : List Record) : Prop :=
  int.max < failures history ∧ 1 ≤ attemptsLeft config history

/-- A lockout that begins with the attempt ends after it. -/
def EndsLater (attempt : Attempt) : Prop :=
  attempt.now.val < int64.wrap (attempt.now.val + config.exact.lockout)

instance : DecidablePred (EndsLater config) :=
  fun _ => inferInstanceAs (Decidable (_ < _))

/-- The lockout that begins with the last attempt left ends after it. -/
def LastEndsLater (history : List Record) (further : List Attempt) : Prop :=
  ∀ before attempt after, further = before ++ attempt :: after →
    (before.length + 1 : Int) = attemptsLeft config history →
      EndsLater config attempt

end Model

section Counter

variable {hmac : String → String → String} {config : OperatorAuthConfig}

theorem after_concat (auth : OperatorAuth) (attempts : List Attempt)
    (attempt : Attempt) :
    auth.after hmac config (attempts ++ [attempt]) =
      (auth.after hmac config attempts).next hmac config attempt := by
  simp [OperatorAuth.after]

theorem records_concat (auth : OperatorAuth) (attempts : List Attempt)
    (attempt : Attempt) :
    auth.records hmac config (attempts ++ [attempt]) =
      auth.records hmac config attempts ++
        [(auth.after hmac config attempts).record hmac config attempt] := by
  induction attempts generalizing auth with
  | nil => rfl
  | cons first attempts ih =>
      simp only [List.cons_append, OperatorAuth.records]
      rw [ih]
      rfl

variable (hmac config) in
theorem failedAttempts_after (attempts : List Attempt) :
    (OperatorAuth.after hmac config {} attempts).failedAttempts.val =
      int.wrap (failures (OperatorAuth.records hmac config {} attempts)) := by
  have zero : (0 : Int) = int.wrap ((0 : Nat) : Int) :=
    (int.wrap_of_inRange (by decide)).symm
  induction attempts using List.reverseRecOn with
  | nil => exact zero
  | append_singleton attempts attempt ih =>
      rw [after_concat, records_concat, failures_concat]
      have step := outcome hmac config
        (OperatorAuth.after hmac config {} attempts) attempt
      generalize OperatorAuth.after hmac config {} attempts = auth at ih step ⊢
      generalize auth.record hmac config attempt = record at step ⊢
      generalize auth.next hmac config attempt = next at step ⊢
      have counted : (int.cast (auth.failedAttempts.val + 1)).val =
          int.wrap ((failures
            (OperatorAuth.records hmac config {} attempts) + 1 : Nat)) := by
        rw [ih, add_comm]
        exact (int.wrap_add_wrap 1 _).trans (by rw [add_comm]; rfl)
      cases step with
      | rejected => exact ih
      | accepted => exact zero
      | locked => exact counted
      | counted => exact counted

theorem remainingAttempts_after (attempts : List Attempt) :
    (OperatorAuth.after hmac config {} attempts).remainingAttempts config =
      max 0 (attemptsLeft config
        (OperatorAuth.records hmac config {} attempts)) := by
  rw [OperatorAuth.remainingAttempts, failedAttempts_after,
    int.wrap_sub_wrap]
  rfl

theorem failedAttempts_add_attemptsLeft
    (positiveAttempts : 1 ≤ config.maxAttempts.val) {auth : OperatorAuth}
    {history : List Record}
    (counted : auth.failedAttempts.val = int.wrap (failures history))
    (left : 1 ≤ attemptsLeft config history) :
    auth.failedAttempts.val + attemptsLeft config history =
      config.maxAttempts.val := by
  have difference : attemptsLeft config history =
      int.wrap (config.maxAttempts.val - auth.failedAttempts.val) := by
    rw [counted, int.wrap_sub_wrap]
    rfl
  have atMost : auth.failedAttempts.val ≤ 2147483647 :=
    auth.failedAttempts.2.2
  have bounded : config.maxAttempts.val ≤ 2147483647 :=
    config.maxAttempts.2.2
  have atLeast : -2147483648 ≤ auth.failedAttempts.val :=
    auth.failedAttempts.2.1
  have isMin : int.min = -2147483648 := rfl
  have isWidth : (2 : Int) ^ int.width = 4294967296 := rfl
  rw [difference] at left ⊢
  unfold wrap at left ⊢
  rw [isMin, isWidth] at left ⊢
  omega

theorem isLockedOut_of_le {auth : OperatorAuth} {now later : int64.Value}
    (le : now.val ≤ later.val) (unlocked : auth.isLockedOut now = false) :
    auth.isLockedOut later = false := by
  unfold OperatorAuth.isLockedOut at unlocked ⊢
  cases isLocked : auth.lockedUntil with
  | none => rfl
  | some deadline =>
      simp only [isLocked, decide_eq_false_iff_not, not_lt] at unlocked ⊢
      exact unlocked.trans le

theorem isLockedOut_congr {auth other : OperatorAuth}
    (same : auth.lockedUntil = other.lockedUntil) (now : int64.Value) :
    auth.isLockedOut now = other.isLockedOut now := by
  rw [OperatorAuth.isLockedOut, same]
  rfl

/-- Nothing but the counter changes while attempts are left. -/
theorem after_wrong {auth : OperatorAuth} {now : int64.Value}
    (unlocked : auth.isLockedOut now = false) {attempts : List Attempt}
    (wrongFrom : WrongFrom hmac config now attempts)
    (left : auth.failedAttempts.val + attempts.length <
      config.maxAttempts.val) :
    (auth.after hmac config attempts).failedAttempts.val =
        auth.failedAttempts.val + attempts.length ∧
      (auth.after hmac config attempts).lockedUntil = auth.lockedUntil := by
  induction attempts using List.reverseRecOn with
  | nil => exact ⟨(add_zero _).symm, rfl⟩
  | append_singleton attempts attempt ih =>
      simp only [List.length_append, List.length_singleton] at left ⊢
      obtain ⟨counted, lockedUntil⟩ := ih
        ⟨fun other member => wrongFrom.wrong other (by simp [member]),
          fun other member => wrongFrom.later other (by simp [member])⟩
        (by omega)
      have notRight := wrongFrom.wrong attempt (by simp)
      have unlockedThen :=
        isLockedOut_of_le (wrongFrom.later attempt (by simp)) unlocked
      have bounded := config.maxAttempts.2.2
      rw [after_concat]
      have step := outcome hmac config (auth.after hmac config attempts) attempt
      generalize auth.after hmac config attempts = reached
        at counted lockedUntil step ⊢
      generalize reached.record hmac config attempt = record at step
      generalize reached.next hmac config attempt = next at step ⊢
      rw [← isLockedOut_congr lockedUntil] at unlockedThen
      have succ : (int.cast (reached.failedAttempts.val + 1)).val =
          reached.failedAttempts.val + 1 := cast_succ (by omega)
      cases step with
      | rejected locked => simp [unlockedThen] at locked
      | accepted _ right => exact absurd right notRight
      | locked _ _ exhausted => omega
      | counted => exact ⟨succ.trans (by omega), lockedUntil⟩

theorem beginsLockout_iff {auth : OperatorAuth} {attempt : Attempt}
    (unlocked : auth.isLockedOut attempt.now = false)
    (wrong : hashPin hmac attempt.pin config.salt ≠ config.pinHash)
    (counts : auth.failedAttempts.val < int.max) :
    BeginsLockout hmac config auth attempt ↔
      config.maxAttempts.val ≤ auth.failedAttempts.val + 1 ∧
        EndsLater config attempt := by
  have step := outcome hmac config auth attempt
  unfold BeginsLockout
  generalize auth.record hmac config attempt = record at step
  generalize auth.next hmac config attempt = next at step ⊢
  cases step with
  | rejected locked => simp [unlocked] at locked
  | accepted _ right => exact absurd right wrong
  | locked _ _ exhausted =>
      rw [cast_succ counts] at exhausted
      have lasts : EndsLater config attempt ↔
          attempt.now.val < (config.deadline attempt.now).val := by
        rw [deadline_val]
        rfl
      rw [lasts, unlocked]
      simp [exhausted, OperatorAuth.isLockedOut]
  | counted _ _ remaining =>
      rw [cast_succ counts] at remaining
      have stillUnlocked : OperatorAuth.isLockedOut
          ⟨int.cast (auth.failedAttempts.val + 1), auth.lockedUntil⟩
          attempt.now = false := unlocked
      refine iff_of_false ?_ fun last => not_le.mpr remaining last.1
      rw [stillUnlocked]
      exact fun begins => Bool.false_ne_true begins.2

end Counter

section MainResult

variable {hmac : String → String → String} {config : OperatorAuthConfig}

theorem attemptsLeft_pos_iff (positiveAttempts : 1 ≤ config.maxAttempts.val)
    (history : List Record) :
    1 ≤ attemptsLeft config history ↔
      NeverLocked config.exact history ∨ CounterOverflowed config history := by
  have atMost := config.maxAttempts.2.2
  by_cases few : (failures history : Int) ≤ int.max
  · have isMax : int.max = 2147483647 := rfl
    have exactly : attemptsLeft config history =
        config.maxAttempts.val - failures history := by
      apply int.wrap_of_inRange
      rw [isMax] at few atMost
      exact ⟨by change -2147483648 ≤ _; omega, by change _ ≤ 2147483647; omega⟩
    rw [exactly, neverLocked_iff positiveAttempts]
    constructor
    · intro left
      left
      change (failures history : Int) < config.maxAttempts.val
      omega
    · rintro (left | ⟨overflowed, -⟩)
      · change (failures history : Int) < config.maxAttempts.val at left
        omega
      · omega
  · constructor
    · exact fun left => .inr ⟨not_le.mp few, left⟩
    · rintro (never | ⟨-, left⟩)
      · rw [neverLocked_iff positiveAttempts] at never
        change (failures history : Int) < config.maxAttempts.val at never
        omega
      · exact left

/-- When no lockout is active, the advertised number of attempts is exact,
unless a lockout has begun since the last right PIN, or the end of the next one
overflows. -/
theorem advertisesExactly_iff (positiveAttempts : 1 ≤ config.maxAttempts.val)
    (attempts : List Attempt) {now : int64.Value}
    (unlocked :
      (OperatorAuth.after hmac config {} attempts).isLockedOut now = false)
    {further : List Attempt} (wrongFrom : WrongFrom hmac config now further) :
    let auth := OperatorAuth.after hmac config {} attempts
    let history := OperatorAuth.records hmac config {} attempts
    AdvertisesExactly hmac config auth further ↔
      (NeverLocked config.exact history ∨ CounterOverflowed config history) ∧
        LastEndsLater config history further := by
  intro auth history
  have counted : auth.failedAttempts.val = int.wrap (failures history) :=
    failedAttempts_after hmac config attempts
  have advertised : auth.remainingAttempts config =
      max 0 (attemptsLeft config history) :=
    remainingAttempts_after attempts
  change auth.isLockedOut now = false at unlocked
  clear_value auth history
  rw [← attemptsLeft_pos_iff positiveAttempts]
  -- Both sides need an attempt left, and then agree on the last one.
  by_cases left : 1 ≤ attemptsLeft config history
  · have total := failedAttempts_add_attemptsLeft positiveAttempts counted left
    have remaining : auth.remainingAttempts config =
        attemptsLeft config history := by omega
    have begins {before : List Attempt} {attempt : Attempt}
        {after : List Attempt} (split : further = before ++ attempt :: after)
        (inside : (before.length : Int) < attemptsLeft config history) :
        BeginsLockout hmac config (auth.after hmac config before) attempt ↔
          (before.length + 1 : Int) = attemptsLeft config history ∧
            EndsLater config attempt := by
      have atMost := config.maxAttempts.2.2
      have wrongBefore : WrongFrom hmac config now before :=
        ⟨fun other member => wrongFrom.wrong other (by simp [split, member]),
          fun other member => wrongFrom.later other (by simp [split, member])⟩
      obtain ⟨failed, lockedUntil⟩ :=
        after_wrong unlocked wrongBefore (by omega)
      have unlockedThen := isLockedOut_of_le
        (wrongFrom.later attempt (by simp [split])) unlocked
      rw [← isLockedOut_congr lockedUntil] at unlockedThen
      rw [beginsLockout_iff unlockedThen
        (wrongFrom.wrong attempt (by simp [split])) (by omega), failed]
      exact and_congr_left fun _ => by omega
    constructor
    · intro exactly
      refine ⟨left, fun before attempt after split last => ?_⟩
      have inside : (before.length : Int) < attemptsLeft config history := by
        omega
      have begun := (exactly.begins before attempt after split
        (by omega)).mpr (by omega)
      exact ((begins split inside).mp begun).2
    · rintro ⟨-, endsLater⟩
      refine ⟨by omega, fun before attempt after split inside => ?_⟩
      rw [begins split (by omega), remaining]
      exact and_iff_left_of_imp (endsLater before attempt after split)
  · refine iff_of_false (fun exactly => ?_) fun condition => left condition.1
    have positive := exactly.positive
    omega

/-- Of three attempts one is used up.  The second of two more begins a lockout
of thirty seconds. -/
theorem advertisesExactly_one_wrong :
    AdvertisesExactly (fun salt pin => salt ++ pin)
      ⟨"42", "4", ⟨3, by decide⟩, ⟨30, by decide⟩⟩
      (OperatorAuth.after (fun salt pin => salt ++ pin)
        ⟨"42", "4", ⟨3, by decide⟩, ⟨30, by decide⟩⟩ {}
        [⟨"1", ⟨0, by decide⟩⟩])
      [⟨"1", ⟨1, by decide⟩⟩, ⟨"3", ⟨2, by decide⟩⟩] := by
  have wrongFrom : WrongFrom (fun salt pin => salt ++ pin)
      ⟨"42", "4", ⟨3, by decide⟩, ⟨30, by decide⟩⟩ ⟨1, by decide⟩
      [⟨"1", ⟨1, by decide⟩⟩, ⟨"3", ⟨2, by decide⟩⟩] :=
    ⟨by decide, by decide⟩
  refine (advertisesExactly_iff (by decide) [⟨"1", ⟨0, by decide⟩⟩]
    (by decide) wrongFrom).mpr ⟨?_, ?_⟩
  · exact .inl ((neverLocked_iff (by decide)).mpr (by decide))
  · have endsLater : ∀ attempt ∈ ([⟨"1", ⟨1, by decide⟩⟩,
        ⟨"3", ⟨2, by decide⟩⟩] : List Attempt),
        EndsLater ⟨"42", "4", ⟨3, by decide⟩, ⟨30, by decide⟩⟩ attempt := by
      decide
    exact fun before attempt after split _ =>
      endsLater attempt (by simp [split])

/-- One wrong PIN is allowed.  When the lockout is over, no attempt is left. -/
theorem not_advertisesExactly_after_lockout :
    ¬ ∀ (config : OperatorAuthConfig) (attempts : List Attempt)
      (now : int64.Value), 1 ≤ config.maxAttempts.val →
      0 < config.lockoutDuration.val →
      Ordered (attempts.map Attempt.exact) →
      (∀ attempt ∈ attempts, attempt.now.val ≤ now.val) →
      (OperatorAuth.after (fun salt pin => salt ++ pin) config {}
        attempts).isLockedOut now = false →
      ∀ further, WrongFrom (fun salt pin => salt ++ pin) config now further →
        AdvertisesExactly (fun salt pin => salt ++ pin) config
          (OperatorAuth.after (fun salt pin => salt ++ pin) config {} attempts)
          further := by
  intro exactly
  have advertises := exactly
    ⟨"42", "4", ⟨1, by decide⟩, ⟨30, by decide⟩⟩
    [⟨"1", ⟨0, by decide⟩⟩] ⟨30000000000, by decide⟩ (by decide) (by decide)
    (by decide) (by decide) (by decide) [] ⟨by decide, by decide⟩
  exact absurd advertises.positive (by decide)

end MainResult

end Machine

end OperatorPin

end CocktailMaker
