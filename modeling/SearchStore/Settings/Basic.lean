import SearchStore.Reading
import SearchStore.Json
namespace SearchStore

structure ClientOptions where
  requestTimeout : Binary64 := .finite 10
  deadTimeout : Binary64 := .finite 30
  sniffOnStart : Bool := false
  snifferTimeout : Option Binary64 := some (.finite 36)
  maxSize : Int := 100
  verifyCerts : Bool := true
  extra : Entries := []

namespace ClientOptions

def read (fields : Entries) : Verdict ClientOptions :=
  let usual : ClientOptions := {}
  ClientOptions.mk
    <$> Reading.field fields "request_timeout" Reading.positive usual.requestTimeout
    <*> Reading.field fields "dead_timeout" Reading.notNegative usual.deadTimeout
    <*> Reading.field fields "sniff_on_start" Reading.flag usual.sniffOnStart
    <*> Reading.field fields "sniffer_timeout" (Reading.optional Reading.number)
      usual.snifferTimeout
    <*> Reading.field fields "maxsize" Reading.atLeastOne usual.maxSize
    <*> Reading.field fields "verify_certs" Reading.flag usual.verifyCerts
    <*> Reading.field fields "extra" Reading.mapping usual.extra

def toEntries (o : ClientOptions) : Entries :=
  Entries.ofFields [
    ("request_timeout", .float o.requestTimeout), ("dead_timeout", .float o.deadTimeout),
    ("sniff_on_start", .bool o.sniffOnStart),
    ("sniffer_timeout", o.snifferTimeout.elim .null .float), ("maxsize", .int o.maxSize),
    ("verify_certs", .bool o.verifyCerts), ("extra", .map o.extra)]

end ClientOptions

structure DebugSwitches where
  create : Bool := true
  read : Bool := true
  update : Bool := true
  delete : Bool := true
deriving DecidableEq

namespace DebugSwitches

def readFields (fields : Entries) : Verdict DebugSwitches :=
  DebugSwitches.mk
    <$> Reading.field fields "create" Reading.flag true
    <*> Reading.field fields "read" Reading.flag true
    <*> Reading.field fields "update" Reading.flag true
    <*> Reading.field fields "delete" Reading.flag true

def ofValue : Value → Verdict DebugSwitches
  | .bool b => .valid ⟨b, b, b, b⟩
  | v => Reading.part readFields v

def toEntries (d : DebugSwitches) : Entries :=
  Entries.ofFields [("create", .bool d.create), ("read", .bool d.read), ("update", .bool d.update),
    ("delete", .bool d.delete)]

end DebugSwitches

inductive Node where
  | url (text : String)
  | mapping (entries : Entries)

namespace Node

def toValue : Node → Value
  | .url text => .str text
  | .mapping entries => .map entries

-- A node that is neither breaks the rules of both.
def read : Value → Verdict Node
  | .str text => .valid (.url text)
  | v =>
    match (Reading.mapping v).inside (.field "dict[str,any]") with
    | .valid entries => .valid (.mapping entries)
    | .invalid details => .invalid (⟨[.field "str"], .textExpected⟩ :: details)
    | .failed fault => .failed fault

-- A text is a JSON list of nodes or else a single node, and an empty text is none. JSON with a number that is too long
-- is neither.
def listed : Value → Except Fault (List Value)
  | .str text =>
    match Json.read text with
    | .ok (.list nodes) => .ok nodes
    | .error .tooLong => .error .badContent
    | _ => .ok (if text.isEmpty then [] else [.str text])
  | .map entries => .ok [.map entries]
  | v => v.items

def readAll (v : Value) : Verdict (List Node) :=
  match listed v with
  | .ok nodes => Reading.sequenceOf read nodes
  | .error fault => .failed fault

end Node

structure StoreSettings where
  clients : List Node := [.url "http://localhost:9200"]
  username : Option String := none
  password : Option String := none
  headers : List (String × String) := []
  options : ClientOptions := {}
  debug : DebugSwitches := {}
  indexCacheTtl : Binary64 := .finite 60
  docTypes : Bool := false
  logger : String := "elastic"

namespace StoreSettings

def readFields (fields : Entries) : Verdict StoreSettings :=
  let usual : StoreSettings := {}
  StoreSettings.mk
    <$> Reading.field fields "clients" Node.readAll usual.clients
    <*> Reading.field fields "username" (Reading.optional Reading.text) usual.username
    <*> Reading.field fields "password" (Reading.optional Reading.text) usual.password
    <*> Reading.field fields "headers" (Reading.mappingOf Reading.text) usual.headers
    <*> Reading.field fields "options" (Reading.part ClientOptions.read) usual.options
    <*> Reading.field fields "debug" DebugSwitches.ofValue usual.debug
    <*> Reading.field fields "index_cache_ttl" Reading.positive usual.indexCacheTtl
    <*> Reading.field fields "doc_types" Reading.flag usual.docTypes
    <*> Reading.field fields "logger" Reading.text usual.logger

def read : Value → Verdict StoreSettings := Reading.part readFields

def optionalText (text : Option String) : Value := text.elim .null .str

def toEntries (s : StoreSettings) : Entries :=
  Entries.ofFields [
    ("clients", .list (s.clients.map Node.toValue)), ("username", optionalText s.username),
    ("password", optionalText s.password),
    ("headers", .map (Entries.ofFields (s.headers.map fun h => (h.1, .str h.2)))),
    ("options", .map s.options.toEntries), ("debug", .map s.debug.toEntries),
    ("index_cache_ttl", .float s.indexCacheTtl), ("doc_types", .bool s.docTypes),
    ("logger", .str s.logger)]

def sections : List String := ["options", "debug"]

def isSection : Value → Bool
  | .str name => sections.contains name
  | _ => false

-- A section given as a mapping is completed by what was set before; all else is replaced.
def override (entries : Entries) (entry : Value × Value) : Entries :=
  match isSection entry.1, Entries.value? entries entry.1, entry.2 with
  | true, some (.map before), .map more => Entries.put entries entry.1 (.map (Entries.merge before more))
  | _, _, _ => Entries.put entries entry.1 entry.2

def merged (s : StoreSettings) (config : Entries) : Value :=
  .map (config.foldl override s.toEntries)

def configure (s : StoreSettings) (config : Value) : Except Failure StoreSettings :=
  if config.truthy then
    match config with
    | .map entries => (read (merged s entries)).result
    | _ => .error (.fault .noMember)
  else .ok s

def ofNamed (fields : Entries) : Except Failure StoreSettings :=
  if Entries.hasTextKeys fields then (readFields fields).result else .error (.fault .wrongKind)

end StoreSettings

structure Observability where
  logLevel : String := "info"
  logFormat : String := "json"
deriving DecidableEq

namespace Observability

def readFields (fields : Entries) : Verdict Observability :=
  let usual : Observability := {}
  Observability.mk
    <$> Reading.field fields "log_level" Reading.text usual.logLevel
    <*> Reading.field fields "log_format" Reading.text usual.logFormat

def read : Value → Verdict Observability := Reading.part readFields

def toEntries (o : Observability) : Entries :=
  Entries.ofFields [("log_level", .str o.logLevel), ("log_format", .str o.logFormat)]

end Observability

structure Settings where
  store : StoreSettings := {}
  observability : Observability := {}

namespace Settings

def fieldNames : List String := ["store", "observability"]

def isField : Value → Bool
  | .str name => fieldNames.contains name
  | _ => false

def nothingElse (entries : Entries) : Verdict (List Unit) :=
  .all ((entries.filter fun entry => !isField entry.1).map fun entry =>
    (Verdict.broken .unknownField).inside (Reading.keyPlace entry.1))

def readFields (entries : Entries) : Verdict Settings :=
  (fun store observability _ => ⟨store, observability⟩)
    <$> Reading.field entries "store" StoreSettings.read {}
    <*> Reading.field entries "observability" Observability.read {}
    <*> nothingElse entries

def toEntries (s : Settings) : Entries :=
  Entries.ofFields [("store", .map s.store.toEntries), ("observability", .map s.observability.toEntries)]

end Settings
end SearchStore
