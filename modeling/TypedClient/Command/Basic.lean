import TypedClient.Files.Path

/-!
# Commands

What a command line asks for. A command line is a word for the command and options in any order; each
option is given once at most. Nothing else can stand on it: a request for help or for the completions of a
shell asks for none of these commands, and what would answer it is left out.
-/

namespace TypedClient

/-- How the operations of a document are shown. -/
inductive Command.Format
  | yaml
  | json
deriving DecidableEq, Repr

/-- The options of `generate`. -/
structure Command.Generation where
  input : Option String
  output : Option Files.Path
  /-- Whether the modules meant for editing are written anew. -/
  force : Bool
  /-- Whether nothing is written. -/
  dryRun : Bool
  /-- Whether warnings count as errors. -/
  strict : Bool
  /-- Whether the client is written although the document is unchanged. -/
  refresh : Bool
deriving DecidableEq, Repr

/-- What a command line asks for. -/
inductive Command
  | generate (options : Command.Generation)
  | validate (input : Option String) (strict : Bool)
  | diff (old new : String)
  | inspect (input : Option String) (format : Command.Format)
  | init (force : Bool)
  | version
deriving DecidableEq, Repr

namespace Command

/-! ## Options -/

/-- An option. -/
structure Switch where
  /-- The name behind two hyphens. -/
  name : String
  /-- The letter behind one hyphen. -/
  letter : Option Char
  takesValue : Bool
deriving DecidableEq, Repr

/-- A word cut at its first equals sign. -/
def cutAtEquals (cs : List Char) : List Char × Option (List Char) :=
  match cs.dropWhile (· ≠ '=') with
  | [] => (cs, none)
  | _ :: value => (cs.takeWhile (· ≠ '='), some value)

/-- The value in a word behind the letter of an option. -/
def valueBehindLetter : List Char → Option (List Char)
  | [] => none
  | '=' :: value => some value
  | value => some value

/-- The option that a word gives, and the value in that word. -/
def switchOfWord (switches : List Switch) (word : List Char) :
    Option (Switch × Option String) :=
  match word with
  | '-' :: '-' :: cs => do
    let (name, value) := cutAtEquals cs
    let switch ← switches.find? fun switch => switch.name.toList = name
    return (switch, value.map String.ofList)
  | '-' :: c :: cs => do
    let switch ← switches.find? fun switch => switch.letter = some c
    return (switch, (valueBehindLetter cs).map String.ofList)
  | _ => none

/-- Whether a word can be the value of the option before it: words that look like options cannot. -/
def canBeValue (word : String) : Bool :=
  match word.toList with
  | '-' :: _ :: _ => false
  | _ => true

/-- The options on a command line with their values. A double hyphen may end them. -/
def readSwitches (switches : List Switch) : List String → Option (List (String × String))
  | [] => some []
  | "--" :: rest => if rest.isEmpty then some [] else none
  | word :: rest =>
    match switchOfWord switches word.toList with
    | none => none
    | some (switch, value) =>
      if switch.takesValue then
        match value, rest with
        | some value, rest => (readSwitches switches rest).map ((switch.name, value) :: ·)
        | none, value :: rest =>
          if canBeValue value then
            (readSwitches switches rest).map ((switch.name, value) :: ·)
          else none
        | none, [] => none
      else if value.isSome then none
      else (readSwitches switches rest).map ((switch.name, "") :: ·)

/-- The options on a command line, each given once at most. -/
def readOptions (switches : List Switch) (words : List String) : Option (List (String × String)) := do
  let options ← readSwitches switches words
  if (options.map Prod.fst).Nodup then some options else none

/-! ## Command lines -/

/-- Whether an option is given. -/
def isGiven (options : List (String × String)) (name : String) : Bool :=
  (options.lookup name).isSome

/-- An option without a value. -/
def flag (name : String) : Switch := ⟨name, none, false⟩

/-- The option for the source of a document. -/
def inputSwitch : Switch := ⟨"input", some 'i', true⟩

/-- The path of the output, which has to say something. -/
def outputOption (options : List (String × String)) : Option (Option Files.Path) :=
  match options.lookup "output" with
  | none => some none
  | some "" => none
  | some path => some (some (.ofString path))

/-- The options of `generate`. -/
def readGenerate (words : List String) : Option Command := do
  let options ← readOptions
    [inputSwitch, ⟨"output", some 'o', true⟩, flag "force", flag "dry-run", flag "strict",
      flag "refresh"] words
  return .generate
    { input := options.lookup "input"
      output := ← outputOption options
      force := isGiven options "force"
      dryRun := isGiven options "dry-run"
      strict := isGiven options "strict"
      refresh := isGiven options "refresh" }

/-- The options of `validate`. -/
def readValidate (words : List String) : Option Command := do
  let options ← readOptions [inputSwitch, flag "strict"] words
  return .validate (options.lookup "input") (isGiven options "strict")

/-- The options of `diff`, which are both needed. -/
def readDiff (words : List String) : Option Command := do
  let options ← readOptions [⟨"old", none, true⟩, ⟨"new", none, true⟩] words
  return .diff (← options.lookup "old") (← options.lookup "new")

/-- A format by its name. -/
def Format.ofWord? : String → Option Format
  | "yaml" => some .yaml
  | "json" => some .json
  | _ => none

/-- The options of `inspect`. -/
def readInspect (words : List String) : Option Command := do
  let options ← readOptions [inputSwitch, ⟨"format", none, true⟩] words
  let format ← match options.lookup "format" with
    | none => some .yaml
    | some word => Format.ofWord? word
  return .inspect (options.lookup "input") format

/-- The options of `init`. -/
def readInit (words : List String) : Option Command := do
  let options ← readOptions [flag "force"] words
  return .init (isGiven options "force")

/-- Whether a word asks for the version. -/
def asksForVersion (word : String) : Bool :=
  word = "--version" || "-V".toList.isPrefixOf word.toList

/-- The command that a command line asks for, if it is one. -/
def ofWords : List String → Option Command
  | [] => none
  | "generate" :: words => readGenerate words
  | "validate" :: words => readValidate words
  | "diff" :: words => readDiff words
  | "inspect" :: words => readInspect words
  | "init" :: words => readInit words
  | word :: _ => if asksForVersion word then some .version else none

end Command

end TypedClient
