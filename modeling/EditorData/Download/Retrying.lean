/-!
# Trying again

Something is tried again, up to a number of tries, as long as its outcome is one to be tried
again after, with a pause in front of each further try. A library from outside does that, of which
only what it promises is known: the fields of `Retrying` that are statements. Pauses grow
exponentially between two bounds. The library of the program keeps the promises by a plain
recursion (`Retrying.plain`).
-/

namespace EditorData.Download

/-- How something is tried again. -/
structure Policy (Outcome : Type) where
  /-- How many tries there are at most. -/
  tries : Nat
  /-- The least number of seconds between two tries. -/
  least : Nat
  /-- Up to how many seconds the pauses grow, unless that is less than the least. -/
  most : Nat
  /-- Whether an outcome is one to be tried again after. -/
  retries : Outcome -> Bool

namespace Policy

variable {Outcome : Type}

/-- A policy with another number of tries and other pauses. -/
def retryWith (policy : Policy Outcome) (tries least most : Nat) : Policy Outcome :=
  { policy with tries, least, most }

/-- The seconds to wait behind the try with the given number. -/
def pause (policy : Policy Outcome) (tryNumber : Nat) : Nat :=
  max policy.least (min (Nat.pow 2 (tryNumber - 1)) policy.most)

end Policy

/-- A library that tries something again, and what it promises. What is tried changes a state and
has an outcome. Pauses change the state too, and may be too long to be made. -/
class Retrying where
  /-- Make the try with the given number and what follows it. The outcome is that of the last try,
  unless a pause is too long. -/
  run : {State Outcome : Type} -> Policy Outcome -> (State -> Outcome × State) ->
    (pause : Nat -> State -> Option State) -> (tryNumber : Nat) -> State -> Option Outcome × State
  /-- An outcome that is none to be tried again after is the last one. -/
  run_ended : ∀ {State Outcome : Type} (policy : Policy Outcome) (act : State -> Outcome × State)
    (pause : Nat -> State -> Option State) (tryNumber : Nat) (state : State),
    policy.retries (act state).1 = false →
    run policy act pause tryNumber state = (some (act state).1, (act state).2)
  /-- The outcome of the last try is passed on as it is. -/
  run_last : ∀ {State Outcome : Type} (policy : Policy Outcome) (act : State -> Outcome × State)
    (pause : Nat -> State -> Option State) (tryNumber : Nat) (state : State),
    policy.tries ≤ tryNumber →
    run policy act pause tryNumber state = (some (act state).1, (act state).2)
  /-- Behind any other try there is a pause, and then the next try. -/
  run_again : ∀ {State Outcome : Type} (policy : Policy Outcome) (act : State -> Outcome × State)
    (pause : Nat -> State -> Option State) (tryNumber : Nat) (state : State),
    policy.retries (act state).1 = true → tryNumber < policy.tries →
    run policy act pause tryNumber state =
      match pause (policy.pause tryNumber) (act state).2 with
      | none => (none, (act state).2)
      | some rested => run policy act pause (tryNumber + 1) rested

namespace Retrying

variable {State Outcome : Type}

/-- Try again as long as tries are left. -/
def runLeft (policy : Policy Outcome) (act : State -> Outcome × State)
    (pause : Nat -> State -> Option State) : (left tryNumber : Nat) -> State ->
    Option Outcome × State
  | 0, _, state => (some (act state).1, (act state).2)
  | left + 1, tryNumber, state =>
      if policy.retries (act state).1 then
        match pause (policy.pause tryNumber) (act state).2 with
        | none => (none, (act state).2)
        | some rested => runLeft policy act pause left (tryNumber + 1) rested
      else (some (act state).1, (act state).2)

/-- The library that makes one try after the other. -/
@[reducible] def plain : Retrying where
  run policy act pause tryNumber := runLeft policy act pause (policy.tries - tryNumber) tryNumber
  run_ended policy act pause tryNumber state ended := by
    cases policy.tries - tryNumber with
    | zero => rfl
    | succ left => exact if_neg (by rw [ended]; exact Bool.false_ne_true)
  run_last policy act pause tryNumber state last := by
    rw [Nat.sub_eq_zero_of_le last]
    rfl
  run_again policy act pause tryNumber state again more := by
    have left : policy.tries - tryNumber = policy.tries - (tryNumber + 1) + 1 := by omega
    rw [left]
    exact if_pos again

end Retrying

end EditorData.Download
