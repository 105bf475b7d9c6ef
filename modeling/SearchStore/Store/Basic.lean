import SearchStore.Connection
import SearchStore.Registry
import SearchStore.Settings.Basic
namespace SearchStore

structure Store where
  settings : StoreSettings
  given : Option Client
  connection : Option Connection := none
  registry : Option Registry := none
  logger : String

def StoreSettings.loggerName (s : StoreSettings) : String := rootLogger ++ "." ++ s.logger

inductive Config where
  | settings (s : StoreSettings)
  | value (v : Value)

namespace Store

abbrev Run (α : Type) := Action (Store × Session) α

def make (settings : StoreSettings) (given : Option Client) : Store :=
  { settings := settings, given := given, logger := settings.loggerName }

def ofSettings (settings : Settings) (given : Option Client) (session : Session) :
    Except Fault (Store × Session) := do
  let level ← Threshold.ofName settings.observability.logLevel
  return (make settings.store given, { session with threshold := Threshold.effective level })

def get : Run Store := fun s => (.ok s.1, s)

def modify (f : Store → Store) : Run Unit := .modify fun s => (f s.1, s.2)

-- An action on a part of the store. Whether it ends well or not, the part is put back as the action
-- left it.
def onPart {ρ α : Type} (part : ρ) (put : ρ → Store → Store) (x : Action (ρ × Session) α) :
    Run α := fun s =>
  let (result, (part, session)) := x (part, s.2)
  (result, (put part s.1, session))

def putConnection (c : Connection) (s : Store) : Store := { s with connection := some c }

def putRegistry (r : Registry) (s : Store) : Store := { s with registry := some r }

def log (record : Store → Record) : Run Unit := do
  let s ← get
  .onSecond (Session.log (record s))

def init (config : Config) : Run Unit := do
  let s ← get
  let settings ← .lift (match config with
    | .settings settings => .ok settings
    | .value v => s.settings.configure v)
  modify fun s => { s with settings := settings, logger := settings.loggerName }

def stopSweep : Run Unit := do
  match (← get).registry with
  | none => pure ()
  | some r =>
    onPart r putRegistry Registry.stop
    modify fun s => { s with registry := none }

def disconnect : Run Unit := do
  match (← get).connection with
  | none => pure ()
  | some c =>
    onPart c putConnection Connection.close
    modify fun s => { s with connection := none }

def shutdown : Run Unit := do
  stopSweep
  disconnect

def isConnectivity : Failure → Bool
  | .store .connectivity .. => true
  | _ => false

def connect (c : Connection) : Run Connection := fun s =>
  match Connection.start (c, s.2) with
  | (.ok _, (c, session)) => (.ok c, (s.1, session))
  | (.error failure, (_, session)) =>
    let report : Run Connection := do
      if isConnectivity failure then
        log fun s => (Record.error s.logger "Failed to connect to Elastic Store" []).withFailure failure
      .fail failure
    report (s.1, session)

-- A running store is shut down first, so a run that fails leaves it down.
def run : Run Unit := do
  shutdown
  let s ← get
  let c ← connect (← .lift (Connection.make s.settings s.given))
  modify (putConnection c)
  log fun s => .debug s.logger "Connected to Elastic Store." []
  let (_, session) ← .get
  let period := Period.ofNumber (.real s.settings.indexCacheTtl)
  modify (putRegistry (Registry.start session.now { period := period }))

def rawClient (s : Store) : Option Client :=
  match s.connection with
  | some c => if c.ready then c.client else none
  | none => none

def ready (s : Store) : Bool :=
  match s.connection with
  | some c => c.ready
  | none => false

def client : Run (Option Client) := do
  let s ← get
  if !s.ready then log fun s => .error s.logger "ES Client is not ready yet." []
  return s.rawClient

def notRunning : Failure := .plain .connectivity "Elastic Store is not running"

def requireClient : Run Client := do
  match ← client with
  | some c => return c
  | none => .fail notRunning

def health : Run Health := do
  match (← get).connection with
  | some c => .onSecond c.health
  | none => return .notConnected

-- Handles are bound to what the store is set to when they are made.
def makeHandle (s : Store) (name : String) : Action Session Handle := do
  let session ← .get
  .set { session with handlesBuilt := session.handlesBuilt + 1 }
  return Handle.make session.handlesBuilt name (s.connection.bind Connection.client) s.logger
    s.settings.debug s.settings.docTypes

def sweep : Run Unit := do
  match (← get).registry with
  | some r => onPart r putRegistry Registry.sweep
  | none => .fail (.fault .noMember)

def advance (seconds : Rat) : Run Unit := do
  .modify fun s => (s.1, { s.2 with now := s.2.now + seconds })
  let (s, session) ← .get
  match s.registry with
  | some r => onPart r putRegistry (Registry.elapse session.now)
  | none => pure ()

end Store
end SearchStore
