import TypedClient.Operation.Extraction

/-!
# Issues of a document

Checking goes over the same tree as the extraction of operations and lists what is wrong with it, in
the order of the document. It reports more than the extraction skips: fields that a document should
have, and ids that occur twice.
-/

namespace TypedClient

/-- Whether an issue stands in the way. -/
inductive Severity
  | error
  | warning
deriving DecidableEq, Repr

/-- The word for a severity. -/
def Severity.word : Severity → String
  | error => "error"
  | warning => "warning"

/-- What is wrong with a document. The name of a kind tells what was found instead of an object. -/
inductive Issue
  | root (kind : String)
  | version
  | info
  | infoShape (kind : String)
  | paths
  | pathsShape (kind : String)
  | itemShape (path kind : String)
  | operationShape (slot : Slot) (kind : String)
  | unnamed (slot : Slot)
  /-- The id was given to an earlier operation already. -/
  | duplicate (slot : Slot) (id : String) (first : Slot)
  | responses (slot : Slot)
  | componentsShape (kind : String)
  | schemas
deriving DecidableEq, Repr

namespace Issue

/-- How severe an issue is. -/
def severity : Issue → Severity
  | paths | unnamed _ | responses _ | schemas => .warning
  | _ => .error

/-- Where an issue lies. -/
def pointer : Issue → String
  | root _ | version => "/"
  | info | infoShape _ => "/info"
  | paths | pathsShape _ => "/paths"
  | itemShape path _ => pathPointer path
  | operationShape slot _ | unnamed slot | duplicate slot _ _ => slot.pointer
  | responses slot => slot.pointer ++ "/responses"
  | componentsShape _ => "/components"
  | schemas => "/components/schemas"

/-- What an issue is, in words. -/
def message : Issue → String
  | root kind => "spec document must be an object, found " ++ kind
  | version => "missing `openapi` or `swagger` version field"
  | info => "missing `info` object"
  | infoShape kind => "`info` must be an object, found " ++ kind
  | paths => "no `paths`: nothing to generate"
  | pathsShape kind => "`paths` must be an object, found " ++ kind
  | itemShape _ kind => "path item must be an object, found " ++ kind
  | operationShape _ kind => "operation must be an object, found " ++ kind
  | unnamed _ => "missing operationId: operation will be skipped during generation"
  | duplicate _ id first =>
    "duplicate operationId `" ++ id ++ "`, first declared at " ++ first.pointer
  | responses _ => "operation has no `responses`"
  | componentsShape kind => "`components` must be an object, found " ++ kind
  | schemas => "`components` has no `schemas`"

/-- An issue in one line. -/
def text (issue : Issue) : String :=
  issue.severity.word ++ " " ++ issue.pointer ++ ": " ++ issue.message

end Issue

namespace Document

/-! ## Operations -/

/-- The ids seen so far, each with the slot where it came first. -/
abbrev SeenIds := List (String × Slot)

/-- The issues of what fills a slot, and the ids seen after it. -/
def slotIssues (seen : SeenIds) (item : Json.Entries) (slot : Slot) : List Issue × SeenIds :=
  match (Lookup.entry item slot.method.word).object with
  | .missing => ([], seen)
  | .misshapen value => ([.operationShape slot value.kind], seen)
  | .found entries =>
    let (naming, seen) :=
      match Operation.id? entries with
      | none => ([Issue.unnamed slot], seen)
      | some id =>
        match seen.lookup id with
        | some first => ([.duplicate slot id first], seen)
        | none => ([], (id, slot) :: seen)
    let responses := if (Lookup.entry entries "responses").isMissing then [.responses slot] else []
    (naming ++ responses, seen)

/-- The issues of the given methods of a path, and the ids seen after them. -/
def methodIssues (seen : SeenIds) (item : Json.Entries) (path : String) :
    List Method → List Issue × SeenIds
  | [] => ([], seen)
  | method :: rest =>
    let (issues, seen) := slotIssues seen item ⟨path, method⟩
    let (others, seen) := methodIssues seen item path rest
    (issues ++ others, seen)

/-- The issues of paths. -/
def pathIssues (seen : SeenIds) : Json.Entries → List Issue
  | [] => []
  | (path, .object item) :: rest =>
    let (issues, seen) := methodIssues seen item path Method.all
    issues ++ pathIssues seen rest
  | (path, other) :: rest => .itemShape path other.kind :: pathIssues seen rest

/-! ## The whole document -/

/-- Whether the document says which version of the format it has. -/
def versionIssues (doc : Document) : List Issue :=
  if doc.version.isNone then [.version] else []

/-- The issues of `info`. -/
def infoIssues (doc : Document) : List Issue :=
  match (doc.lookup "info").object with
  | .found _ => []
  | .missing => [.info]
  | .misshapen value => [.infoShape value.kind]

/-- The issues of `paths`. -/
def allPathIssues (doc : Document) : List Issue :=
  match doc.paths with
  | .found paths => pathIssues [] paths
  | .missing => [.paths]
  | .misshapen value => [.pathsShape value.kind]

/-- The issues of `components`. -/
def componentIssues (doc : Document) : List Issue :=
  match (doc.lookup "components").object with
  | .found components => if (Lookup.entry components "schemas").isMissing then [.schemas] else []
  | .missing => []
  | .misshapen value => [.componentsShape value.kind]

/-- All issues of a document. A root that is no object has no others. -/
def issues (doc : Document) : List Issue :=
  match doc.root with
  | .object _ =>
    doc.versionIssues ++ doc.infoIssues ++ doc.allPathIssues ++ doc.componentIssues
  | other => [.root other.kind]

end Document

namespace Issue

/-! ## Verdict -/

/-- The issues that are errors. -/
def errors (issues : List Issue) : List Issue :=
  issues.filter fun issue => issue.severity = .error

/-- The issues that are warnings. -/
def warnings (issues : List Issue) : List Issue :=
  issues.filter fun issue => issue.severity = .warning

/-- Whether issues are reason enough to stop: an error is, and under `strict` any issue. -/
def blocking (issues : List Issue) (strict : Bool) : Bool :=
  !(errors issues).isEmpty || (strict && !issues.isEmpty)

end Issue

end TypedClient
