import SearchStore.Host.Percent
import SearchStore.Host.Url
import SearchStore.Reading
namespace SearchStore

structure Descriptor where
  protocol : String
  host : String
  port : Int
  path : String
  auth : Option String
  headers : Option (List (String × String))

structure NodeDefaults where
  username : Value
  password : Value
  headers : Value

namespace NodeDefaults

def credentials (d : NodeDefaults) : Option String :=
  if d.username.truthy && d.password.truthy then
    some (d.username.display ++ ":" ++ d.password.display)
  else none

end NodeDefaults

namespace Descriptor

def defaultPort (protocol : String) : Int := if protocol = "https" then 443 else 80

def textFields (fields : List (String × String)) : Entries :=
  Entries.ofFields (fields.map fun field => (field.1, .str field.2))

def read (fields : Entries) : Verdict Descriptor :=
  Descriptor.mk
    <$> Reading.field fields "protocol" Reading.text "http"
    <*> Reading.field fields "host" Reading.text "localhost"
    <*> Reading.field fields "port" Reading.whole 80
    <*> Reading.field fields "path" Reading.text "/"
    <*> Reading.field fields "auth" (Reading.optional Reading.text) none
    <*> Reading.field fields "headers" (Reading.optional (Reading.mappingOf Reading.text)) none

def toHost (d : Descriptor) : Entries :=
  let headers := d.headers.getD []
  let plain := Entries.ofFields
    [("host", .str d.host), ("port", .int d.port), ("use_ssl", .bool (d.protocol == "https"))]
  let path := if d.path = "" || d.path = "/" then [] else [("url_prefix", Value.str d.path)]
  let auth := match d.auth with
    | some auth => if auth.isEmpty then [] else [("http_auth", Value.str auth)]
    | none => []
  let headers := if headers.isEmpty then [] else [("headers", Value.map (textFields headers))]
  plain ++ Entries.ofFields (path ++ auth ++ headers)

def hasScheme (url : String) : Bool := Text.occursIn "://".toList url.toList

-- A URL may leave out its scheme. A sequence in its place is read as it is written out, except that
-- one that holds a bare `://` cannot be told from a URL with a scheme.
def urlText : Value → Except Fault String
  | .str url => .ok (if hasScheme url then url else "http://" ++ url)
  | .list items =>
    if items.any (Value.sameKey (.str "://")) then .error .wrongKind
    else .ok ("http://" ++ (Value.list items).display)
  | .tuple items =>
    if items.any (Value.sameKey (.str "://")) then
      .error (if (Value.tuple items).isKey then .noMember else .wrongKind)
    else .ok ("http://" ++ (Value.tuple items).display)
  | .map entries =>
    if Entries.has entries "://" then .error .wrongKind
    else .ok ("http://" ++ (Value.map entries).display)
  | _ => .error .wrongKind

-- Credentials in the URL win over the configured ones.
def authOf (url : Url) (defaults : NodeDefaults) : Option String :=
  match url.user, url.password with
  | some user, some password => some (Percent.decode user ++ ":" ++ Percent.decode password)
  | some user, none => some (Percent.decode user)
  | none, _ => defaults.credentials

def urlFields (url : Url) (defaults : NodeDefaults) : Except Fault Entries := do
  let protocol := url.scheme.getD "http"
  match url.port? with
  | none => .error .badContent
  | some port =>
    let port : Int := match port with
      | some 0 | none => defaultPort protocol
      | some n => n
    let headers ← if defaults.headers.truthy then
      (defaults.headers.toEntries).map Value.map else pure .null
    return Entries.ofFields [("protocol", .str protocol),
      ("host", .str (url.hostname.getD "localhost")), ("port", .int port),
      ("path", .str (if url.path.isEmpty then "/" else url.path)),
      ("auth", (authOf url defaults).elim .null .str), ("headers", headers)]

def ofUrl (url : Value) (defaults : NodeDefaults) : Except Failure Descriptor :=
  let fields : Except Fault Entries := do
    match Url.read? (← urlText url) with
    | some url => urlFields url defaults
    | none => .error .badContent
  match fields with
  | .ok fields => (read fields).result
  | .error fault => .error (.fault fault)

def withoutColons (s : String) : String := String.ofList (Text.trimRight (· = ':') s.toList)

def mappingFields (fields : Entries) (defaults : NodeDefaults) : Except Fault Entries := do
  let protocol :=
    withoutColons ((Entries.get fields "protocol").orElse (.str "http")).display
  let fields := Entries.set fields "protocol" (.str protocol)
  let fields := Entries.setDefault fields "port" (.int (defaultPort protocol))
  let fields := match (Entries.get fields "auth").truthy, defaults.credentials with
    | false, some auth => Entries.set fields "auth" (.str auth)
    | _, _ => fields
  if !(Entries.get fields "headers").truthy && defaults.headers.truthy then
    return Entries.set fields "headers" (.map (← defaults.headers.toEntries))
  else return fields

def ofMapping (fields : Entries) (defaults : NodeDefaults) : Except Failure Descriptor :=
  match mappingFields fields defaults with
  | .ok fields => (read fields).result
  | .error fault => .error (.fault fault)

def describes (fields : Entries) : Bool := ["protocol", "path", "auth"].any (Entries.has fields)

-- A mapping without any of the descriptor's own keys is a host already.
def hostOf (defaults : NodeDefaults) : Value → Except Failure Entries
  | .map fields =>
    if describes fields then (ofMapping fields defaults).map toHost else .ok fields
  | url => (ofUrl url defaults).map toHost

def hosts (clients : Value) (defaults : NodeDefaults) : Except Failure (List Entries) :=
  match clients.items with
  | .ok items => items.mapM (hostOf defaults)
  | .error fault => .error (.fault fault)

end Descriptor
end SearchStore
