import SearchStore.Client.Session
import SearchStore.Host.Descriptor
import SearchStore.Settings.Basic
namespace SearchStore

structure Connection where
  settings : StoreSettings
  hosts : List Entries
  client : Option Client
  owned : Bool := false
  ready : Bool := false

structure Health where
  status : String
  message : String
  checked : Bool

def Health.notConnected : Health := ⟨"unhealthy", "Client not initialized", false⟩

namespace Connection

def logger : String := rootLogger ++ ".store.elastic.connection"

def nodeDefaults (s : StoreSettings) : NodeDefaults :=
  ⟨StoreSettings.optionalText s.username, StoreSettings.optionalText s.password,
    .map (Descriptor.textFields s.headers)⟩

-- All hosts are read when the connection is made, before anything is sent.
def make (settings : StoreSettings) (client : Option Client) : Except Failure Connection :=
  (Descriptor.hosts (.list (settings.clients.map Node.toValue)) (nodeDefaults settings)).map
    fun hosts => { settings := settings, hosts := hosts, client := client }

def hostList (c : Connection) : Value := .list (c.hosts.map .map)

def clientArguments (c : Connection) : Entries :=
  let o := c.settings.options
  Entries.merge (Entries.ofFields [
    ("hosts", c.hostList), ("timeout", .float o.requestTimeout),
    ("dead_timeout", .float o.deadTimeout), ("sniff_on_start", .bool o.sniffOnStart),
    ("sniffer_timeout", o.snifferTimeout.elim .null .float), ("maxsize", .int o.maxSize),
    ("verify_certs", .bool o.verifyCerts), ("ssl_show_warn", .bool false)]) o.extra

def libraryMissing : Failure :=
  .plain .configuration
    "opensearch-py package is required.  Install with: pip install \"opensearch-py[async]\""

def buildClient (c : Connection) : Action Session Client := do
  let session ← .get
  if session.libraryInstalled then Session.build c.clientArguments else .fail libraryMissing

def warn (c : Connection) (template : String) : Action Session Unit :=
  Session.log (.warning logger template [c.hostList])

-- The connection lets go of its client before it closes it, so a close that fails is not repeated.
def close : Action (Connection × Session) Unit := do
  let (c, session) ← .get
  .set ({ c with ready := false, client := none, owned := c.owned && c.client.isNone }, session)
  if c.owned && c.client.isSome then
    let _ ← .onSecond (Session.call c.client .close [])

def lost {α : Type} (c : Connection) (cause : Option Failure) : Action (Connection × Session) α := do
  .onSecond (c.warn "Could not connect to a client of %s")
  close
  .fail (.reported .connectivity "Could not connect to client" .null .null cause [])

def ensureClient : Action (Connection × Session) Connection := do
  let (c, _) ← .get
  if c.client.isNone then
    let client ← .onSecond c.buildClient
    .modify fun s => ({ s.1 with client := some client, owned := true }, s.2)
  let (c, _) ← .get
  return c

def ping (c : Connection) : Action (Connection × Session) Value :=
  .onSecond (Session.call c.client .ping
    (Entries.ofFields [("request_timeout", .float c.settings.options.requestTimeout)]))

def start : Action (Connection × Session) Unit := do
  let c ← ensureClient
  let alive ← .rescue c.ping fun failure => c.lost (some failure)
  if alive.truthy then .modify fun s => ({ s.1 with ready := true }, s.2)
  else c.lost none

def statusOf (colour : Value) : Except Fault String :=
  if colour.isKey then
    .ok (match colour with
      | .str "green" => "healthy"
      | .str "yellow" => "degraded"
      | _ => "unhealthy")
  else .error .wrongKind

def healthOf (response : Value) : Except Fault Health := do
  let colour := (← response.member "status").orElse (.str "red")
  let status ← statusOf colour
  let cluster ← response.member "cluster_name"
  let nodes ← response.member "number_of_nodes"
  return ⟨status, cluster.display ++ " is " ++ colour.display ++ " with " ++ nodes.display ++
    " node(s)", true⟩

def health (c : Connection) : Action Session Health := do
  if c.ready then
    let asked : Except String Value ← .rescue
      (do return .ok (← Session.call c.client .health []))
      (fun failure => do
        c.warn "Cluster health request failed for %s"
        return .error failure.evidence.text)
    match asked with
    | .ok response => .liftFault (healthOf response)
    | .error text => return ⟨"unhealthy", text, true⟩
  else return .notConnected

end Connection
end SearchStore
