import TypedClient.Files.Store
import TypedClient.Log

/-!
# The surroundings of the program

Besides files, the program needs two streams for text, a log, a clock, and a way to fetch documents.
-/

namespace TypedClient

/-- What comes of one attempt to fetch a URL. -/
inductive Reply
  /-- An answer with its status; its body is missing if it broke off. -/
  | answer (status : Nat) (body : Option String)
  /-- No answer in time. -/
  | timedOut
  /-- No connection, or one that closed without an answer. -/
  | refused

/-- The surroundings of the program. -/
class Host (m : Type → Type) extends Files.Store m where
  /-- Writes to the standard output. -/
  out : String → m Unit
  /-- Writes to the standard error. -/
  err : String → m Unit
  /-- Reports a message. -/
  log : Log.Message → m Unit
  /-- The time in seconds, such as `2024-01-31T12:00:00Z`. -/
  now : m String
  /-- Fetches a URL and waits for so many milliseconds at most. -/
  fetch : (url : String) → (timeoutMs : Nat) → m Reply
  /-- Waits for so many milliseconds. -/
  sleep : Nat → m Unit

end TypedClient
