import Mathlib.Data.List.Basic

/-!
# Incremental parsing of a symbol stream

A front parser looks at the symbols received so far.  It either waits for more
of them, or hands on at most one output and discards a positive number of
symbols from the front.  `drain` repeats this until the parser waits.  When
the parser's decisions are stable under appending further symbols, draining
after every received piece gives the outputs and the remainder of draining the
whole stream at once, however the stream is cut.
-/

namespace CocktailMaker

namespace IncrementalParsing

variable {Symbol Output : Type*}

/-- A parser for the front of a stream.  An attempt that does not wait
discards between one and all of the pending symbols. -/
structure FrontParser (Symbol Output : Type*) where
  attempt : List Symbol → Option (Option Output × Nat)
  count_pos : ∀ {pending output count},
    attempt pending = some (output, count) → 0 < count
  count_le : ∀ {pending output count},
    attempt pending = some (output, count) → count ≤ pending.length

namespace FrontParser

variable (parser : FrontParser Symbol Output)

/-- Every decision other than waiting survives further input. -/
def PrefixStable : Prop :=
  ∀ pending more output count,
    parser.attempt pending = some (output, count) →
      parser.attempt (pending ++ more) = some (output, count)

theorem drop_length_lt {pending : List Symbol} {output : Option Output}
    {count : Nat} (attempted : parser.attempt pending = some (output, count)) :
    (pending.drop count).length < pending.length := by
  have positive := parser.count_pos attempted
  have bounded := parser.count_le attempted
  rw [List.length_drop]
  omega

/-- Repeat the attempts until the parser waits, collecting the outputs. -/
def drain (pending : List Symbol) : List Output × List Symbol :=
  match _attempted : parser.attempt pending with
  | none => ([], pending)
  | some (output, count) =>
      let later := drain (pending.drop count)
      (output.toList ++ later.1, later.2)
termination_by pending.length
decreasing_by exact parser.drop_length_lt _attempted

variable {parser}

theorem drain_of_waits {pending : List Symbol}
    (waits : parser.attempt pending = none) :
    parser.drain pending = ([], pending) := by
  rw [drain]
  split
  · rfl
  · next attempted => rw [waits] at attempted; cases attempted

theorem drain_of_attempt {pending : List Symbol} {output : Option Output}
    {count : Nat} (attempted : parser.attempt pending = some (output, count)) :
    parser.drain pending =
      (output.toList ++ (parser.drain (pending.drop count)).1,
        (parser.drain (pending.drop count)).2) := by
  rw [drain]
  split
  · next waits => rw [attempted] at waits; cases waits
  · next again =>
      rw [attempted] at again
      cases again
      rfl

theorem attempt_drain_snd (pending : List Symbol) :
    parser.attempt (parser.drain pending).2 = none := by
  fun_induction drain parser pending with
  | case1 pending waits => exact waits
  | case2 pending output count attempted later ih => exact ih

theorem drain_snd_suffix (pending : List Symbol) :
    (parser.drain pending).2 <:+ pending := by
  fun_induction drain parser pending with
  | case1 pending waits => exact List.suffix_rfl
  | case2 pending output count attempted later ih =>
      exact ih.trans (List.drop_suffix count pending)

/-- Draining a longer stream continues from the remainder of a prefix. -/
theorem drain_append (stable : parser.PrefixStable)
    (pending more : List Symbol) :
    parser.drain (pending ++ more) =
      ((parser.drain pending).1 ++
          (parser.drain ((parser.drain pending).2 ++ more)).1,
        (parser.drain ((parser.drain pending).2 ++ more)).2) := by
  fun_induction drain parser pending with
  | case1 pending waits => rfl
  | case2 pending output count attempted later ih =>
      have onLonger := stable pending more output count attempted
      have dropped : (pending ++ more).drop count =
          pending.drop count ++ more :=
        List.drop_append_of_le_length (parser.count_le attempted)
      rw [drain_of_attempt onLonger, dropped, ih]
      simp [later, List.append_assoc]

/-- Receive one piece of the stream: append it to the remainder and drain. -/
def feed (received : List Output × List Symbol) (piece : List Symbol) :
    List Output × List Symbol :=
  (received.1 ++ (parser.drain (received.2 ++ piece)).1,
    (parser.drain (received.2 ++ piece)).2)

/-- Feeding a stream piece by piece is draining it at once. -/
theorem foldl_feed (stable : parser.PrefixStable) (outputs : List Output)
    (pending : List Symbol) (waits : parser.attempt pending = none)
    (pieces : List (List Symbol)) :
    pieces.foldl parser.feed (outputs, pending) =
      (outputs ++ (parser.drain (pending ++ pieces.flatten)).1,
        (parser.drain (pending ++ pieces.flatten)).2) := by
  induction pieces generalizing outputs pending with
  | nil => simp [drain_of_waits waits]
  | cons piece pieces ih =>
      rw [List.foldl_cons, feed, ih _ _ (attempt_drain_snd _),
        List.flatten_cons, ← List.append_assoc,
        drain_append stable (pending ++ piece), List.append_assoc]

/-- Two ways of cutting one stream give the same outputs and the same
remainder. -/
theorem foldl_feed_eq_of_flatten_eq (stable : parser.PrefixStable)
    {pending : List Symbol} (waits : parser.attempt pending = none)
    {first second : List (List Symbol)}
    (sameStream : first.flatten = second.flatten) :
    first.foldl parser.feed ([], pending) =
      second.foldl parser.feed ([], pending) := by
  rw [foldl_feed stable [] pending waits, foldl_feed stable [] pending waits,
    sameStream]

end FrontParser

end IncrementalParsing

end CocktailMaker
