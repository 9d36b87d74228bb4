import CocktailMaker.IntegralType
import CocktailMaker.ReceiveResponse
import Mathlib.Data.Nat.Find

/-!
# Retrying after a timeout

`retry_on_timeout` calls a function again as long as it throws a
`TimeoutError`, each time with the next timeout of a policy.  The timeouts of
an `ExponentialBackoffPolicy` double until they reach its maximum.
-/

namespace CocktailMaker

/-- The counts of `initial` and `maximum` in milliseconds. -/
structure ExponentialBackoffPolicy where
  initial : Int := 100
  maximum : Int := 30000
  deriving DecidableEq

namespace ExponentialBackoffPolicy

/-- The loop of the policy from its variables on.  There is no delay when the
count of `delay * 2` overflows. -/
def delayFrom (policy : ExponentialBackoffPolicy) (retry i : Nat)
    (delay : Int) : Option Int :=
  if i < retry ∧ delay < policy.maximum then do
    let doubled ← IntegralType.int64.checked (delay * 2)
    delayFrom policy retry (i + 1) (min doubled policy.maximum)
  else some delay
termination_by retry - i

/-- `operator()` -/
def delay (policy : ExponentialBackoffPolicy) (retry : Nat) : Option Int :=
  policy.delayFrom retry 0 policy.initial

/-- The initial timeout doubled for every retry, up to the maximum. -/
def schedule (policy : ExponentialBackoffPolicy) (retry : Nat) : Int :=
  min (policy.initial * 2 ^ retry) policy.maximum

/-- The initial timeout is positive and not above the maximum, and twice the
maximum is still a count. -/
structure Bounded (policy : ExponentialBackoffPolicy) : Prop where
  positive : 0 < policy.initial
  ordered : policy.initial ≤ policy.maximum
  halved : policy.maximum ≤ IntegralType.int64.max / 2

variable {policy : ExponentialBackoffPolicy}

/-- A bound that is reached before a multiplication is reached behind it. -/
theorem min_mul_min {value bound factor : Int} (nonneg : 0 ≤ bound)
    (grows : 1 ≤ factor) :
    min (min value bound * factor) bound = min (value * factor) bound := by
  rcases le_total value bound with below | above
  · rw [min_eq_left below]
  · have boundGrows : bound ≤ bound * factor :=
      le_mul_of_one_le_right nonneg grows
    have valueGrows : bound * factor ≤ value * factor :=
      mul_le_mul_of_nonneg_right above (Int.le_trans (by decide) grows)
    rw [min_eq_right above, min_eq_right boundGrows,
      min_eq_right (boundGrows.trans valueGrows)]

/-- The loop doubles the delay once for each retry that is left. -/
theorem delayFrom_eq (bounded : policy.Bounded) (retry i : Nat) {delay : Int}
    (positive : 0 < delay) (atMost : delay ≤ policy.maximum) :
    policy.delayFrom retry i delay =
      some (min (delay * 2 ^ (retry - i)) policy.maximum) := by
  fun_induction delayFrom policy retry i delay with
  | case1 i delay goesOn ih =>
      have doubled : IntegralType.int64.checked (delay * 2) =
          some (delay * 2) := by
        have halved := bounded.halved
        have below := goesOn.2
        have nonpos := IntegralType.int64.min_nonpos
        exact IntegralType.checked_of_inRange _ ⟨by omega, by omega⟩
      have left : retry - i = retry - (i + 1) + 1 := by omega
      rw [doubled, Option.bind_eq_bind, Option.bind_some,
        ih (delay * 2) (by omega) (min_le_right _ _),
        min_mul_min (positive.trans_le atMost).le (one_le_pow₀ one_le_two),
        left, pow_succ', mul_assoc]
  | case2 i delay ends =>
      rw [Option.some.injEq, eq_comm]
      by_cases retriesLeft : i < retry
      · -- The delay has reached the maximum, and doubling it keeps the minimum.
        have reached : policy.maximum ≤ delay := by
          by_contra below
          exact ends ⟨retriesLeft, Int.not_le.mp below⟩
        have grows : delay ≤ delay * 2 ^ (retry - i) :=
          le_mul_of_one_le_right positive.le (one_le_pow₀ one_le_two)
        rw [min_eq_right (reached.trans grows)]
        exact Int.le_antisymm reached atMost
      · rw [Nat.sub_eq_zero_of_le (Nat.not_lt.mp retriesLeft), pow_zero,
          mul_one, min_eq_left atMost]

/-- The policy follows its schedule without an overflow. -/
theorem delay_eq (bounded : policy.Bounded) (retry : Nat) :
    policy.delay retry = some (policy.schedule retry) := by
  rw [delay, delayFrom_eq bounded retry 0 bounded.positive bounded.ordered,
    Nat.sub_zero, schedule]

theorem schedule_le (policy : ExponentialBackoffPolicy) (retry : Nat) :
    policy.schedule retry ≤ policy.maximum :=
  min_le_right _ _

theorem schedule_monotone (bounded : policy.Bounded) {retry later : Nat}
    (notEarlier : retry ≤ later) :
    policy.schedule retry ≤ policy.schedule later := by
  have grows : (2 : Int) ^ retry ≤ 2 ^ later :=
    pow_le_pow_right₀ one_le_two notEarlier
  exact min_le_min_right _
    (mul_le_mul_of_nonneg_left grows bounded.positive.le)

end ExponentialBackoffPolicy

/-- How a call of `f` ends. -/
inductive Outcome (Result Exception : Type)
  | returned (result : Result)
  | thrown (exception : Exception)
  | stopped
  deriving DecidableEq

section Retries

variable {Result Exception : Type} (isTimeoutError : Exception → Bool)
  (maxRetries : Nat) (policy : Nat → Option Int)
  (outcomes : Nat → Outcome Result Exception)

/-- The loop of `retry_on_timeout` from a retry on: the timeouts with which it
calls `f`, and how it completes.  A handler of `TimeoutError` catches the
exceptions for which `isTimeoutError` holds. -/
def retryFrom (retry : Nat) : Option (List Int × Outcome Result Exception) := do
  let timeout ← policy retry
  match outcomes retry with
  | .thrown exception =>
      if isTimeoutError exception then
        if exhausted : retry ≥ maxRetries then
          return ([timeout], .thrown exception)
        else
          let later ← retryFrom (retry + 1)
          return (timeout :: later.1, later.2)
      else return ([timeout], .thrown exception)
  | outcome => return ([timeout], outcome)
termination_by maxRetries - retry

def retryOnTimeout : Option (List Int × Outcome Result Exception) :=
  retryFrom isTimeoutError maxRetries policy outcomes 0

/-- The outcome is a `TimeoutError`, or an exception derived from it. -/
def Outcome.TimedOut (outcome : Outcome Result Exception) : Prop :=
  ∃ exception, outcome = .thrown exception ∧ isTimeoutError exception = true

/-- A call is the last one when it does not time out, or when no retry is
left. -/
structure LastCall (last : Nat) : Prop where
  bounded : last ≤ maxRetries
  earlier : ∀ retry < last, (outcomes retry).TimedOut isTimeoutError
  ends : ¬ (outcomes last).TimedOut isTimeoutError ∨ last = maxRetries

theorem exists_lastCall :
    ∃ last, LastCall isTimeoutError maxRetries outcomes last := by
  classical
  by_cases ends : ∃ retry ≤ maxRetries,
      ¬ (outcomes retry).TimedOut isTimeoutError
  · obtain ⟨bounded, ended⟩ := Nat.find_spec ends
    refine ⟨Nat.find ends, bounded, fun retry before => ?_, .inl ended⟩
    by_contra ended
    exact Nat.find_min ends before ⟨(before.trans_le bounded).le, ended⟩
  · refine ⟨maxRetries, Nat.le_refl _, fun retry before => ?_, .inr rfl⟩
    by_contra ended
    exact ends ⟨retry, before.le, ended⟩

variable {isTimeoutError maxRetries outcomes}

section Passes

variable {timeouts : Nat → Int}

theorem retryFrom_again {retry : Nat}
    (timedOut : (outcomes retry).TimedOut isTimeoutError)
    (retriesLeft : retry < maxRetries) :
    retryFrom isTimeoutError maxRetries (fun n => some (timeouts n)) outcomes
        retry =
      (retryFrom isTimeoutError maxRetries (fun n => some (timeouts n)) outcomes
        (retry + 1)).map fun later => (timeouts retry :: later.1, later.2) := by
  obtain ⟨exception, outcome, caught⟩ := timedOut
  rw [retryFrom, Option.map_eq_bind]
  simp [outcome, caught, Nat.not_le.mpr retriesLeft]

theorem retryFrom_last {last : Nat}
    (isLast : LastCall isTimeoutError maxRetries outcomes last) :
    retryFrom isTimeoutError maxRetries (fun n => some (timeouts n)) outcomes
        last = some ([timeouts last], outcomes last) := by
  rw [retryFrom]
  cases outcome : outcomes last with
  | returned result => simp
  | stopped => simp
  | thrown exception =>
      by_cases caught : isTimeoutError exception = true
      · obtain ended | exhausted := isLast.ends
        · exact absurd ⟨exception, outcome, caught⟩ ended
        · simp [caught, exhausted]
      · simp [caught]

theorem retryFrom_eq {last : Nat}
    (isLast : LastCall isTimeoutError maxRetries outcomes last) {retry : Nat}
    (reached : retry ≤ last) :
    retryFrom isTimeoutError maxRetries (fun n => some (timeouts n)) outcomes
        retry =
      some ((List.range' retry (last - retry + 1)).map timeouts,
        outcomes last) := by
  induction reached using Nat.decreasingInduction with
  | self =>
      rw [retryFrom_last isLast, Nat.sub_self]
      rfl
  | of_succ retry before ih =>
      have left : last - retry + 1 = last - (retry + 1) + 1 + 1 := by omega
      rw [retryFrom_again (isLast.earlier retry before)
        (before.trans_le isLast.bounded), left, List.range'_succ,
        List.map_cons, ih, Option.map_some]

/-- The calls have the timeouts of the policy in order, up to the last call. -/
theorem retryOnTimeout_eq {last : Nat}
    (isLast : LastCall isTimeoutError maxRetries outcomes last) :
    retryOnTimeout isTimeoutError maxRetries (fun n => some (timeouts n))
        outcomes =
      some ((List.range (last + 1)).map timeouts, outcomes last) := by
  rw [retryOnTimeout, retryFrom_eq isLast (Nat.zero_le last),
    List.range_eq_range', Nat.sub_zero]

end Passes

theorem LastCall.timedOut_iff {last : Nat}
    (isLast : LastCall isTimeoutError maxRetries outcomes last) :
    (outcomes last).TimedOut isTimeoutError ↔
      ∀ retry ≤ maxRetries, (outcomes retry).TimedOut isTimeoutError := by
  constructor
  · intro timedOut retry within
    obtain ended | rfl := isLast.ends
    · exact absurd timedOut ended
    · rcases within.lt_or_eq with before | rfl
      · exact isLast.earlier retry before
      · exact timedOut
  · exact fun all => all last isLast.bounded

end Retries

/-- The timeouts double from the initial one up to the maximum.  `f` is called
with them in order until it does not time out or no retry is left, and the last
outcome is passed on. -/
theorem retryOnTimeout_follows_schedule {policy : ExponentialBackoffPolicy}
    (bounded : policy.Bounded) :
    (∀ n, policy.delay n =
        some (min (policy.initial * 2 ^ n) policy.maximum)) ∧
      (∀ n later, n ≤ later → policy.schedule n ≤ policy.schedule later) ∧
      (∀ n, policy.delay n = some (policy.schedule n) ∧
        policy.schedule n ≤ policy.maximum) ∧
      ∀ {Result Exception : Type} (isTimeoutError : Exception → Bool)
        (maxRetries : Nat) (outcomes : Nat → Outcome Result Exception),
        ∃ last, LastCall isTimeoutError maxRetries outcomes last ∧
          retryOnTimeout isTimeoutError maxRetries policy.delay outcomes =
            some ((List.range (last + 1)).map policy.schedule,
              outcomes last) ∧
          ((outcomes last).TimedOut isTimeoutError ↔
            ∀ retry ≤ maxRetries,
              (outcomes retry).TimedOut isTimeoutError) := by
  have scheduled : policy.delay = fun n => some (policy.schedule n) :=
    funext (ExponentialBackoffPolicy.delay_eq bounded)
  refine ⟨ExponentialBackoffPolicy.delay_eq bounded,
    fun _ _ => ExponentialBackoffPolicy.schedule_monotone bounded,
    fun n => ⟨ExponentialBackoffPolicy.delay_eq bounded n,
      policy.schedule_le n⟩, ?_⟩
  intro Result Exception isTimeoutError maxRetries outcomes
  obtain ⟨last, isLast⟩ :=
    exists_lastCall isTimeoutError maxRetries outcomes
  rw [scheduled]
  exact ⟨last, isLast, retryOnTimeout_eq isLast, isLast.timedOut_iff⟩

/-- The request for the device info: no answer comes, and the sixth timeout is
passed on. -/
theorem retryOnTimeout_follows_schedule_silence :
    retryOnTimeout (fun _ => true) 5
        { maximum := 10000 : ExponentialBackoffPolicy }.delay
        (fun retry => (.thrown retry : Outcome Unit Nat)) =
      some ([100, 200, 400, 800, 1600, 3200], .thrown 5) := by
  have bounded : { maximum := 10000 : ExponentialBackoffPolicy }.Bounded :=
    ⟨by decide, by decide, by decide⟩
  obtain ⟨last, isLast, ran, -⟩ :=
    (retryOnTimeout_follows_schedule bounded).2.2.2 (fun _ => true) 5
      (fun retry => (.thrown retry : Outcome Unit Nat))
  obtain rfl : last = 5 := isLast.ends.resolve_left
    fun ended => ended ⟨last, rfl, rfl⟩
  exact ran

section Requests

/-- `send_and_receive<RxMsg>` once its wait is over. -/
def sendAndReceive (rxMsg : MsgId) (env : MessageEnvironment)
    (signal : Signal) : Except PodError InMessage :=
  match receiveMatching [rxMsg] signal with
  | .error error => .error (rethrowTimeout env error)
  | .ok message => .ok message

/-- A `PodTimeoutError` is a `TimeoutError`. -/
def PodError.isTimeoutError : PodError → Bool
  | .podTimeout _ => true
  | .dispenserEmpty .. | .podReceive .. | .protocol .. => false

/-- How a request ends: by the signal that ends its wait, or by a stop. -/
def requestOutcome (rxMsg : MsgId) (env : MessageEnvironment) :
    Option Signal → Outcome InMessage PodError
  | none => .stopped
  | some signal =>
      match sendAndReceive rxMsg env signal with
      | .error error => .thrown error
      | .ok message => .returned message

theorem sendAndReceive_message (rxMsg : MsgId) (env : MessageEnvironment)
    (message : InMessage) :
    sendAndReceive rxMsg env (.message message) =
      if message.getId = rxMsg then .ok message
      else .error (.protocol .invalidMsgId (.unexpected message.getId)) := by
  rw [sendAndReceive, receiveMatching_message]
  by_cases isExpected : message.getId = rxMsg
  · rw [if_pos (List.mem_singleton.mpr isExpected), if_pos isExpected]
  · rw [if_neg (List.mem_singleton.not.mpr isExpected), if_neg isExpected]
    rfl

theorem requestOutcome_timedOut_iff (rxMsg : MsgId) (env : MessageEnvironment)
    (signal : Option Signal) :
    (requestOutcome rxMsg env signal).TimedOut PodError.isTimeoutError ↔
      signal = some .timedOut := by
  rcases signal with - | message | -
  · exact iff_of_false nofun nofun
  · refine iff_of_false ?_ nofun
    rintro ⟨exception, outcome, caught⟩
    rw [requestOutcome, sendAndReceive_message] at outcome
    by_cases isExpected : message.getId = rxMsg
    · simp only [if_pos isExpected] at outcome
      cases outcome
    · simp only [if_neg isExpected] at outcome
      cases outcome
      cases caught
  · exact iff_of_true ⟨.podTimeout env.podId, rfl, rfl⟩ rfl

/-- A request that is sent again after a timeout. -/
structure RetriedRequest where
  rxMsg : MsgId
  maxRetries : Nat
  policy : ExponentialBackoffPolicy
  bounded : policy.Bounded

/-- `monitor_device` asks for the device info. -/
def deviceInfoRequest : RetriedRequest where
  rxMsg := .deviceInfoResponse
  maxRetries := 5
  policy := { maximum := 10000 }
  bounded := ⟨by decide, by decide, by decide⟩

/-- `keep_alive` sends a ping. -/
def pingRequest : RetriedRequest where
  rxMsg := .pong
  maxRetries := 3
  policy := { maximum := 1000 }
  bounded := ⟨by decide, by decide, by decide⟩

namespace RetriedRequest

variable (request : RetriedRequest) (env : MessageEnvironment)
  (signals : Nat → Option Signal)

/-- The request with the signals that end its waits. -/
def run : Option (List Int × Outcome InMessage PodError) :=
  retryOnTimeout PodError.isTimeoutError request.maxRetries
    request.policy.delay
    (fun retry => requestOutcome request.rxMsg env (signals retry))

/-- The request ends with its last call, and its waits follow the schedule. -/
theorem run_eq :
    ∃ last, LastCall PodError.isTimeoutError request.maxRetries
        (fun retry => requestOutcome request.rxMsg env (signals retry)) last ∧
      request.run env signals =
        some ((List.range (last + 1)).map request.policy.schedule,
          requestOutcome request.rxMsg env (signals last)) := by
  obtain ⟨last, isLast⟩ :=
    exists_lastCall PodError.isTimeoutError request.maxRetries
      fun retry => requestOutcome request.rxMsg env (signals retry)
  have scheduled : request.policy.delay =
      fun n => some (request.policy.schedule n) :=
    funext (ExponentialBackoffPolicy.delay_eq request.bounded)
  rw [run, scheduled]
  exact ⟨last, isLast, retryOnTimeout_eq isLast⟩

/-- A Pod is given up for its silence exactly when it has left every request
of the schedule without an answer. -/
theorem run_givesUp_iff :
    (∃ calls, request.run env signals =
        some (calls, .thrown (.podTimeout env.podId))) ↔
      ∀ retry ≤ request.maxRetries, signals retry = some .timedOut := by
  obtain ⟨last, isLast, ran⟩ := request.run_eq env signals
  have silent := isLast.timedOut_iff
  simp only [requestOutcome_timedOut_iff] at silent
  rw [← silent, ran]
  simp only [Option.some.injEq, Prod.mk.injEq, exists_eq_left']
  constructor
  · intro outcome
    exact (requestOutcome_timedOut_iff request.rxMsg env _).mp
      ⟨_, outcome, rfl⟩
  · intro isSilent
    rw [isSilent]
    rfl

end RetriedRequest

/-- The pings are repeated after 100, 200 and 400 ms, and the last one has
800 ms. -/
example : (List.range 4).map pingRequest.policy.schedule =
    [100, 200, 400, 800] := by
  decide

end Requests

end CocktailMaker
