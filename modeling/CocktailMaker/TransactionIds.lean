import CocktailMaker.LabelledRun
import CocktailMaker.PodMessage
import Mathlib.Data.List.Basic

/-!
# Transaction ids of a Pod session

Every exchange takes its id from an 8-bit counter that is incremented without
a look at the exchanges that still wait.  The protocol asks for ids that are
unique among the pending requests.  Exchange number `n` gets the id `n` modulo
`256`, so this holds exactly as long as no exchange is still pending when the
exchange `256` places behind it starts.
-/

namespace CocktailMaker

open LabelledRun

/-- An exchange, with its place in the order of starts. -/
structure Exchange where
  number : Nat
  transactionId : TransactionId
  deriving DecidableEq

/-- The counter of a session and the exchanges that are pending. -/
structure TransactionIds where
  transactionIdCounter : TransactionId
  started : Nat
  pending : List Exchange
  deriving DecidableEq

namespace TransactionIds

/-- A new session. -/
def initial : TransactionIds := ⟨0, 0, []⟩

/-- `generate_new_transaction_id`: the incremented counter. -/
def generateNewTransactionId (session : TransactionIds) : TransactionId :=
  session.transactionIdCounter + 1

/-- An exchange of any kind starts, or one that is pending concludes: it is
answered, it times out or it is cancelled. -/
inductive Event
  | start
  | conclude (number : Nat)
  deriving DecidableEq

def start (session : TransactionIds) : TransactionIds where
  transactionIdCounter := session.generateNewTransactionId
  started := session.started + 1
  pending := session.pending ++
    [⟨session.started + 1, session.generateNewTransactionId⟩]

def conclude (session : TransactionIds) (number : Nat) : TransactionIds :=
  { session with
    pending := session.pending.filter fun exchange =>
      exchange.number ≠ number }

def step (session : TransactionIds) : Event → Option TransactionIds
  | .start => some session.start
  | .conclude number =>
      if ∃ exchange ∈ session.pending, exchange.number = number then
        some (session.conclude number)
      else none

/-- No exchange is started with an id that a pending one holds. -/
def NewIdsUnique (events : List Event) : Prop :=
  ∀ before after session, events = before ++ .start :: after →
    run step initial before = some session →
      ∀ exchange ∈ session.pending,
        exchange.transactionId ≠ session.generateNewTransactionId

/-- How many exchanges were started. -/
def starts (events : List Event) : Nat :=
  events.count .start

/-- An exchange is concluded before the `256`th one after it starts. -/
def ConcludedInTime (events : List Event) : Prop :=
  ∀ before after, events = before ++ .start :: after →
    256 ≤ starts before → .conclude (starts before + 1 - 256) ∈ before

theorem starts_concat_start (events : List Event) :
    starts (events ++ [.start]) = starts events + 1 := by
  simp [starts]

theorem starts_concat_conclude (events : List Event) (number : Nat) :
    starts (events ++ [.conclude number]) = starts events := by
  simp [starts]

theorem transactionId_eq_iff (first second : Nat) :
    (UInt8.ofNat first = UInt8.ofNat second) ↔ first % 256 = second % 256 := by
  rw [UInt8.ofNat_eq_iff_mod_eq_toNat, UInt8.toNat_ofNat']

/-- What the events of a run say about the state it leads to. -/
structure Numbered (events : List Event) (session : TransactionIds) : Prop
    where
  started : session.started = starts events
  counter : session.transactionIdCounter = UInt8.ofNat (starts events)
  ids : ∀ exchange ∈ session.pending,
    exchange.transactionId = UInt8.ofNat exchange.number
  concluded : ∀ number, .conclude number ∈ events → number ≤ starts events
  pending : ∀ number,
    (∃ exchange ∈ session.pending, exchange.number = number) ↔
      0 < number ∧ number ≤ starts events ∧ .conclude number ∉ events

theorem numbered_initial : Numbered [] initial where
  started := rfl
  counter := rfl
  ids := by simp [initial]
  concluded := by simp
  pending number := by
    simp only [initial, starts, List.not_mem_nil, false_and, exists_false,
      List.count_nil, Nat.le_zero_eq, not_false_eq_true, and_true, false_iff]
    omega

theorem Numbered.newId {events : List Event} {session : TransactionIds}
    (numbered : Numbered events session) :
    session.generateNewTransactionId = UInt8.ofNat (starts events + 1) := by
  rw [generateNewTransactionId, numbered.counter, UInt8.ofNat_add]
  rfl

theorem numbered_start {events : List Event} {session : TransactionIds}
    (numbered : Numbered events session) :
    Numbered (events ++ [.start]) session.start where
  started := by rw [starts_concat_start, start, numbered.started]
  counter := by rw [starts_concat_start, ← numbered.newId, start]
  ids exchange member := by
    simp only [start, List.mem_append, List.mem_singleton] at member
    rcases member with before | new
    · exact numbered.ids exchange before
    · rw [new, numbered.started]
      exact numbered.newId
  concluded number member := by
    simp only [List.mem_append, List.mem_singleton, reduceCtorEq,
      or_false] at member
    have before := numbered.concluded number member
    rw [starts_concat_start]
    omega
  pending number := by
    have pendingBefore := numbered.pending number
    have concludedBefore := numbered.concluded number
    simp only [start, List.mem_append, List.mem_singleton, reduceCtorEq,
      or_false, starts_concat_start, numbered.started]
    constructor
    · rintro ⟨exchange, before | rfl, rfl⟩
      · obtain ⟨positive, atMost, unanswered⟩ :=
          pendingBefore.mp ⟨exchange, before, rfl⟩
        exact ⟨positive, by omega, unanswered⟩
      · refine ⟨by simp, Nat.le_refl _, fun concluded => ?_⟩
        have bound := concludedBefore concluded
        simp only at bound
        omega
    · rintro ⟨positive, atMost, unanswered⟩
      by_cases isNew : number = starts events + 1
      · exact ⟨_, .inr rfl, isNew.symm⟩
      · obtain ⟨exchange, before, same⟩ :=
          pendingBefore.mpr ⟨positive, by omega, unanswered⟩
        exact ⟨exchange, .inl before, same⟩

theorem numbered_conclude {events : List Event} {session : TransactionIds}
    (numbered : Numbered events session) {number : Nat}
    (isPending : ∃ exchange ∈ session.pending, exchange.number = number) :
    Numbered (events ++ [.conclude number]) (session.conclude number) where
  started := by rw [starts_concat_conclude, conclude, numbered.started]
  counter := by rw [starts_concat_conclude, conclude, numbered.counter]
  ids exchange member := numbered.ids exchange (List.mem_filter.mp member).1
  concluded other member := by
    rw [starts_concat_conclude]
    simp only [List.mem_append, List.mem_singleton, Event.conclude.injEq]
      at member
    rcases member with before | rfl
    · exact numbered.concluded other before
    · exact ((numbered.pending other).mp isPending).2.1
  pending other := by
    have pendingBefore := numbered.pending other
    simp only [conclude, List.mem_filter, decide_eq_true_eq, List.mem_append,
      List.mem_singleton, Event.conclude.injEq, starts_concat_conclude,
      not_or]
    constructor
    · rintro ⟨exchange, ⟨before, differs⟩, rfl⟩
      obtain ⟨positive, atMost, unanswered⟩ :=
        pendingBefore.mp ⟨exchange, before, rfl⟩
      exact ⟨positive, atMost, unanswered, differs⟩
    · rintro ⟨positive, atMost, unanswered, differs⟩
      obtain ⟨exchange, before, rfl⟩ :=
        pendingBefore.mpr ⟨positive, atMost, unanswered⟩
      exact ⟨exchange, ⟨before, differs⟩, rfl⟩

theorem numbered_of_run {events : List Event} {session : TransactionIds}
    (ran : run step initial events = some session) :
    Numbered events session := by
  refine history_of_run _ numbered_initial ?_ ran
  intro events session event next _ numbered stepped
  cases event with
  | start =>
      cases stepped
      exact numbered_start numbered
  | conclude number =>
      simp only [step, Option.ite_none_right_eq_some] at stepped
      obtain ⟨isPending, concluded⟩ := stepped
      cases concluded
      exact numbered_conclude numbered isPending

/-- The start of any exchange of a run splits the run there. -/
theorem exists_start_of_lt_starts {events : List Event} {earlier : Nat}
    (inside : earlier < starts events) :
    ∃ before after, events = before ++ .start :: after ∧
      starts before = earlier := by
  induction events using List.reverseRecOn with
  | nil => simp [starts] at inside
  | append_singleton events event ih =>
      by_cases inBefore : earlier < starts events
      · obtain ⟨before, after, split, count⟩ := ih inBefore
        exact ⟨before, after ++ [event], by simp [split], count⟩
      · cases event with
        | start =>
            rw [starts_concat_start] at inside
            exact ⟨events, [], rfl, by omega⟩
        | conclude number =>
            rw [starts_concat_conclude] at inside
            exact absurd inside inBefore

/-- In every run, new ids are unique among the pending ones exactly when each
exchange is concluded before the `256`th one after it starts. -/
theorem newIdsUnique_iff {events : List Event} {last : TransactionIds}
    (ran : run step initial events = some last) :
    NewIdsUnique events ↔ ConcludedInTime events := by
  constructor
  · intro unique before after split many
    rw [split] at ran
    obtain ⟨session, ranBefore, _⟩ := run_append_eq_some.mp ran
    have numbered := numbered_of_run ranBefore
    by_contra notConcluded
    obtain ⟨exchange, isPending, number⟩ :=
      (numbered.pending (starts before + 1 - 256)).mpr
        ⟨by omega, by omega, notConcluded⟩
    refine unique before after session split ranBefore exchange isPending ?_
    rw [numbered.ids exchange isPending, numbered.newId, transactionId_eq_iff,
      number]
    omega
  · intro inTime before after session split ranBefore exchange isPending sameId
    have numbered := numbered_of_run ranBefore
    obtain ⟨positive, atMost, notConcluded⟩ :=
      (numbered.pending exchange.number).mp ⟨exchange, isPending, rfl⟩
    rw [numbered.ids exchange isPending, numbered.newId,
      transactionId_eq_iff] at sameId
    -- Ids agree at a distance that `256` divides; the first such distance is
    -- reached no later than the start at hand.
    have inside : exchange.number + 255 < starts (before ++ [.start]) := by
      rw [starts_concat_start]
      omega
    obtain ⟨early, rest, earlySplit, count⟩ := exists_start_of_lt_starts inside
    have earlyStart : events = early ++ .start :: (rest ++ after) := by
      calc events = (before ++ [.start]) ++ after := by simp [split]
        _ = early ++ .start :: (rest ++ after) := by simp [earlySplit]
    have concluded := inTime early _ earlyStart (by omega)
    rw [count, show exchange.number + 255 + 1 - 256 = exchange.number by omega]
      at concluded
    have member : Event.conclude exchange.number ∈ before ++ [.start] := by
      rw [earlySplit]
      exact List.mem_append_left _ concluded
    exact notConcluded (by simpa using member)

theorem newIdsUnique_of_concluded :
    NewIdsUnique [.start, .conclude 1, .start] ↔
      ConcludedInTime [.start, .conclude 1, .start] :=
  newIdsUnique_iff (show _ = some ⟨2, 2, [⟨2, 2⟩]⟩ by decide)

/-- `count` exchanges that are concluded before the next one starts, such as
pings. -/
def pings (started : Nat) : Nat → List Event
  | 0 => []
  | count + 1 =>
      .start :: .conclude (started + 1) :: pings (started + 1) count

theorem run_pings (counter : TransactionId) (started : Nat)
    (positive : 0 < started) (count : Nat) :
    run step ⟨counter, started, [⟨1, 1⟩]⟩ (pings started count) =
      some ⟨counter + UInt8.ofNat count, started + count, [⟨1, 1⟩]⟩ := by
  induction count generalizing counter started with
  | zero => simp [pings]
  | succ count ih =>
      have differs : started ≠ 0 := Nat.pos_iff_ne_zero.mp positive
      rw [pings, run_cons, step, Option.bind_some, run_cons, step,
        if_pos ⟨⟨started + 1, counter + 1⟩, by
          simp [start, generateNewTransactionId], rfl⟩, Option.bind_some]
      have next : (start ⟨counter, started, [⟨1, 1⟩]⟩).conclude (started + 1) =
          ⟨counter + 1, started + 1, [⟨1, 1⟩]⟩ := by
        simp [start, conclude, generateNewTransactionId, differs]
      rw [next, ih (counter + 1) (started + 1) (Nat.succ_pos _),
        Nat.add_comm count 1, UInt8.ofNat_add, UInt8.add_assoc, Nat.add_assoc]
      rfl

/-- A calibration is pending while `255` pings come and go: the exchange after
them gets its id. -/
theorem newId_of_pending_calibration :
    ¬ ∀ events last, run step initial events = some last →
      NewIdsUnique events := by
  intro unique
  have ran : run step initial (.start :: pings 1 255) =
      some ⟨0, 256, [⟨1, 1⟩]⟩ := by
    rw [run_cons, step, Option.bind_some]
    exact run_pings 1 1 Nat.one_pos 255
  have ranOn : run step initial ((.start :: pings 1 255) ++ [.start]) =
      some ⟨1, 257, [⟨1, 1⟩, ⟨257, 1⟩]⟩ :=
    run_concat_eq_some.mpr ⟨_, ran, rfl⟩
  exact unique _ _ ranOn _ [] _ rfl ran ⟨1, 1⟩ (by simp) rfl

end TransactionIds

end CocktailMaker
