import SearchStore.Log.Record
namespace SearchStore

-- The client that was handed in, and those that a connection built itself, in that order.
inductive Client where
  | given
  | built (n : Nat)
deriving DecidableEq, Repr

inductive Method where
  | construct | ping | close | health
  | search | count | index | bulk | update | delete
  | putMapping | createIndex | deleteIndex | indexExists | listIndices
deriving DecidableEq, Repr

structure Call where
  client : Client
  method : Method
  arguments : Entries

inductive Reply where
  | usual
  | returned (value : Value)
  | raised (failure : Failure)

structure Exchange where
  call : Call
  reply : Reply

def Method.usual : Method → Value
  | .ping | .indexExists => .bool true
  | .close | .construct => .null
  | _ => .map []

structure Session where
  replies : List Reply := []
  exchanges : List Exchange := []
  records : List Record := []
  threshold : Nat := 0
  clientsBuilt : Nat := 0
  handlesBuilt : Nat := 0
  now : Rat := 0
  libraryInstalled : Bool := true

-- A computation that ends in a result or a failure. What it did before it failed stays done.
def Action (σ α : Type) : Type := σ → Except Failure α × σ

namespace Action
variable {σ τ α β : Type}

def ok (a : α) : Action σ α := fun s => (.ok a, s)

def fail (failure : Failure) : Action σ α := fun s => (.error failure, s)

def bind (x : Action σ α) (f : α → Action σ β) : Action σ β := fun s =>
  match x s with
  | (.ok a, s) => f a s
  | (.error failure, s) => (.error failure, s)

instance : Monad (Action σ) where
  pure := ok
  bind := bind

def get : Action σ σ := fun s => (.ok s, s)

def set (s : σ) : Action σ Unit := fun _ => (.ok (), s)

def modify (f : σ → σ) : Action σ Unit := fun s => (.ok (), f s)

def lift (result : Except Failure α) : Action σ α := fun s => (result, s)

def liftFault (result : Except Fault α) : Action σ α := lift (result.mapError .fault)

def rescue (x : Action σ α) (handler : Failure → Action σ α) : Action σ α := fun s =>
  match x s with
  | (.error failure, s) => if failure.isOrdinary then handler failure s else (.error failure, s)
  | done => done

def onSecond (x : Action τ α) : Action (σ × τ) α := fun s =>
  let (result, t) := x s.2
  (result, (s.1, t))

end Action

namespace Session

def log (record : Record) : Action Session Unit :=
  .modify fun s =>
    if s.threshold ≤ record.level.number then { s with records := s.records ++ [record] } else s

def logAll (records : List Record) : Action Session Unit := records.forM log

def nextReply : Action Session Reply := fun s =>
  match s.replies with
  | [] => (.ok .usual, s)
  | reply :: rest => (.ok reply, { s with replies := rest })

def calls (s : Session) : List Call := s.exchanges.map Exchange.call

def perform (call : Call) : Action Session Value := do
  let reply ← nextReply
  .modify fun s => { s with exchanges := s.exchanges ++ [⟨call, reply⟩] }
  match reply with
  | .usual => return call.method.usual
  | .returned value => return value
  | .raised failure => .fail failure

-- Arguments are passed by name, so their names have to be texts; and where there is no client there
-- is no method to call.
def call (client : Option Client) (method : Method) (arguments : Entries) : Action Session Value :=
  match client with
  | none => .fail (.fault .noMember)
  | some client =>
    if Entries.hasTextKeys arguments then perform ⟨client, method, arguments⟩
    else .fail (.fault .wrongKind)

-- A client counts as built from the moment its construction is tried.
def build (arguments : Entries) : Action Session Client := do
  .modify fun s => { s with clientsBuilt := s.clientsBuilt + 1 }
  let s ← .get
  let client := Client.built s.clientsBuilt
  let _ ← perform ⟨client, .construct, arguments⟩
  return client

end Session
end SearchStore
