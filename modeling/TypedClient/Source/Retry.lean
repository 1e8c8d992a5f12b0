import TypedClient.Config.Basic
import TypedClient.Failure

/-!
# Repeated attempts

An attempt that fails for a passing reason is repeated, each time after a longer delay, until the
retries are used up. Delays double from one retry to the next, for sixteen retries, and stay within 64
bits.
-/

namespace TypedClient.Retry

/-- Whether a failure may pass: a timeout, a failed connection, too many requests, or a fault of the
server. -/
def isTransient : Failure → Bool
  | .network _ .timeout => true
  | .network _ .connection => true
  | .network _ (.status code) => code = 429 || 500 ≤ code
  | _ => false

/-- The delay in milliseconds before a retry, counted from zero. -/
def delay (backoffMs attempt : Nat) : Nat :=
  min (backoffMs * Number.twoTo (min attempt 16)) (Number.twoTo 64 - 1)

/-- What is said before a retry. -/
def announcement (failure : Failure) (fetch : Config.Fetch) (attempt : Nat) : Log.Message :=
  ⟨.warn, failure.message ++ "; retrying in " ++ toString (delay fetch.backoffMs attempt) ++ "ms (" ++
    toString (attempt + 1) ++ "/" ++ toString fetch.retries ++ ")"⟩

section

variable {m : Type → Type} [Monad m] {α : Type}

/-- Attempts until one succeeds, fails for good, or no retry is left. `left` retries remain, and `pause`
is what happens before each of them. -/
def attempts (attempt : m (Except Failure α)) (pause : Log.Message → Nat → m Unit)
    (fetch : Config.Fetch) : (left : Nat) → m (Except Failure α)
  | 0 => attempt
  | left + 1 => do
    match ← attempt with
    | .ok result => return .ok result
    | .error failure =>
      if isTransient failure then
        let number := fetch.retries - (left + 1)
        pause (announcement failure fetch number) (delay fetch.backoffMs number)
        attempts attempt pause fetch left
      else return .error failure

/-- Attempts with as many retries as the settings allow. -/
def run (attempt : m (Except Failure α)) (pause : Log.Message → Nat → m Unit)
    (fetch : Config.Fetch) : m (Except Failure α) :=
  attempts attempt pause fetch fetch.retries

end

end TypedClient.Retry
