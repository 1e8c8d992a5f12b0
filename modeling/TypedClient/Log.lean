/-!
# Log messages

What a pass has to say apart from its result: a list of messages, each with a level. Progress of a
longer step is told by the messages of its start and of its end.
-/

namespace TypedClient.Log

/-- How urgent a message is. -/
inductive Level
  | error
  | warn
  | info
  | debug
deriving DecidableEq, Repr

/-- The word for a level. -/
def Level.word : Level → String
  | error => "ERROR"
  | warn => "WARN"
  | info => "INFO"
  | debug => "DEBUG"

/-- A message. -/
structure Message where
  level : Level
  text : String
deriving DecidableEq, Repr

/-- How many warnings there are among messages. -/
def warnings (messages : List Message) : Nat :=
  messages.countP fun message => message.level = .warn

/-! ## Lines -/

/-- Whether messages of a level are shown. -/
def Level.isShown : Level → Bool
  | error | warn | info => true
  | debug => false

/-- The word for a level and as many blanks as make it five characters wide. -/
def Level.column : Level → String
  | error => "ERROR"
  | warn => "WARN "
  | info => "INFO "
  | debug => "DEBUG"

/-- A text whose lines after the first one are indented by four blanks. -/
def indented (cs : List Char) : List Char :=
  cs.flatMap fun c => if c = '\n' then "\n    ".toList else [c]

/-- A message as it is shown at a time. -/
def Message.line (message : Message) (time : String) : String :=
  "[" ++ time ++ " " ++ message.level.column ++ " acg] " ++
    String.ofList (indented message.text.toList) ++ "\n"

/-! ## Progress -/

/-- What is said when a step starts. -/
def started (label : String) : Message :=
  ⟨.debug, label ++ "..."⟩

/-- What is said when a step is done. -/
def finished (label summary : String) : Message :=
  ⟨.info, label ++ ": " ++ summary⟩

/-- What is said when a step ends before it is done. -/
def abandoned (label : String) : Message :=
  ⟨.warn, label ++ ": did not complete"⟩

end TypedClient.Log
