import SearchStore.Store.Basic
namespace SearchStore.Store

def getIndex (name : Value) : Run (Option Handle) := do
  let s ← get
  match s.registry with
  | some r => onPart r putRegistry (Registry.get s.makeHandle name)
  | none => .fail notRunning

def indexName : Value → Except Fault String
  | .str name => .ok (Text.lower name)
  | _ => .error .noMember

def refused {α : Type} (kind : ErrorKind) (message complaint : String) (subject : List Value)
    (cause : Failure) : Run α := do
  log fun s => .warning s.logger complaint subject
  log fun s => (Record.debug s.logger "Engine error" []).withFailure cause
  .fail (.because kind message cause)

-- An index that is there already is as good as created.
def createIndex (name body : Value) : Run (Option Handle) := do
  let client ← requireClient
  let index ← .liftFault (indexName name)
  let request := Entries.ofFields [("index", .str index)]
  let request := match body with
    | .map entries => if entries.isEmpty then request else Entries.set request "body" body
    | _ => request
  let _ ← .rescue (.onSecond (Session.call client .createIndex request)) fun failure =>
    if failure.isIndexPresent then pure .null
    else refused .createIndex "Could not create index" "Could not create index %s" [name] failure
  log fun s => .debug s.logger "Created index %s" [name]
  getIndex name

inductive Target where
  | name (v : Value)
  | handle (h : Handle)

def targetName : Target → Except Fault String
  | .name v => indexName v
  | .handle h => .ok h.name

def deleteIndex (target : Target) : Run Value := do
  let client ← requireClient
  let index ← .liftFault (targetName target)
  .rescue
    (.onSecond (Session.call client .deleteIndex (Entries.ofFields [("index", .str index)])))
    (refused .deleteIndex "Could not delete index" "Could not delete index %s" [.str index])

def existsRequest (name : Value) (parameters : Entries) : Except Fault Entries := do
  let index ← indexName name
  if Entries.has parameters "index" then .error .wrongKind
  else return Entries.merge (Entries.ofFields [("index", .str index)]) parameters

def existsIndex (name : Value) (parameters : Entries) : Run Bool := do
  let client ← requireClient
  let ask : Run Value := do
    let request ← .liftFault (existsRequest name parameters)
    .onSecond (Session.call client .indexExists request)
  let answer ← .rescue ask
    (refused .existsIndex "Could not check if index exists" "Could not check if index %s exists"
      [name])
  return answer.truthy

-- The engine lists its indexes as rows of columns, the name in the third one, or as mappings.
def nameInLine (line : List Char) : Option Value :=
  (Text.words line)[2]?.map fun name => .str (String.ofList name)

def nameInRow : Value → Option Value
  | .map row => some (Entries.get row "index")
  | _ => none

def listed (rows : Value) : Except Fault (List Value) :=
  if rows.truthy then
    match rows with
    | .str text => .ok ((Text.lines text.toList).filterMap nameInLine)
    | rows => rows.items.map fun items => items.filterMap nameInRow
  else .ok []

def indexNames (rows : Value) : Except Fault (List Value) :=
  (listed rows).map fun names => names.filter Value.truthy

def listNames (parameters : Entries) : Run (List Value) := do
  let client ← requireClient
  let request := Entries.setDefault parameters "format" (.str "json")
  let rows ← .rescue (.onSecond (Session.call client .listIndices request))
    (refused .listIndexes "Could not read store indexes" "Could not read store indexes" [])
  .liftFault (indexNames rows)

def listIndexes (parameters : Entries) : Run (List (Option Handle)) := do
  (← listNames parameters).mapM getIndex

end SearchStore.Store
