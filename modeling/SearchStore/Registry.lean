import SearchStore.Handle.Basic
namespace SearchStore

inductive Period where
  | every (seconds : Rat)
  | never
  -- What was given for it is no number.
  | unusable
deriving DecidableEq, Repr

def Period.ofNumber : Number → Period
  | .whole n => .every n
  | .real x => x.rat?.elim .never .every

def Period.ofValue (v : Value) : Period := v.number?.elim .unusable Period.ofNumber

-- The periodic sweep waits for its next instant, or it ended when it found no usable period.
inductive Sweep where
  | waiting (due : Option Rat)
  | broken
deriving DecidableEq, Repr

structure Registry where
  period : Period
  cached : List (String × Handle) := []
  sweeping : Option Sweep := none

namespace Registry

def logger : String := rootLogger ++ ".store.elastic.registry"

def names (r : Registry) : List String := r.cached.map Prod.fst

def handle? (r : Registry) (name : String) : Option Handle :=
  (r.cached.find? fun entry => entry.1 == name).map Prod.snd

def running (r : Registry) : Bool :=
  match r.sweeping with
  | some (.waiting _) => true
  | _ => false

def contains (r : Registry) : Value → Bool
  | .str name => r.names.contains (Text.lower name)
  | _ => false

def nameOf : Value → Option String
  | .str name => if name.isEmpty then none else some (Text.lower name)
  | _ => none

-- A handle is made on the first request for its name, and kept only if making it succeeds.
def get (make : String → Action Session Handle) (name : Value) :
    Action (Registry × Session) (Option Handle) := do
  match nameOf name with
  | none => return none
  | some name =>
    let (r, _) ← .get
    match r.handle? name with
    | some h => return some h
    | none =>
      let h ← .onSecond (make name)
      .modify fun s => ({ s.1 with cached := s.1.cached ++ [(name, h)] }, s.2)
      return some h

def sweep : Action (Registry × Session) Unit := do
  let (r, _) ← .get
  if !r.cached.isEmpty then
    .onSecond (Session.log
      (.debug logger "Sweeping %d cached index handles" [.int r.cached.length]))
  .modify fun s => ({ s.1 with cached := [] }, s.2)

def firstSweep (period : Period) (now : Rat) : Sweep :=
  match period with
  | .every seconds => .waiting (some (now + seconds))
  | .never => .waiting none
  | .unusable => .broken

def start (now : Rat) (r : Registry) : Registry :=
  if r.running then r else { r with sweeping := some (firstSweep r.period now) }

-- A sweep that ended by itself fails the one who stops it.
def stop : Action (Registry × Session) Unit := do
  let (r, session) ← .get
  .set ({ r with sweeping := none }, session)
  match r.sweeping with
  | some .broken => .fail (.fault .wrongKind)
  | _ => pure ()

def dueAfter (due seconds now : Rat) : Rat :=
  if 0 < seconds then due + seconds * (((now - due) / seconds).floor + 1) else now

-- Time goes on up to a given instant, included. Nobody asks for handles meanwhile, so of several
-- sweeps that become due only the first one finds any.
def elapse (now : Rat) : Action (Registry × Session) Unit := do
  let (r, _) ← .get
  match r.sweeping, r.period with
  | some (.waiting (some due)), .every seconds =>
    if due ≤ now then
      sweep
      .modify fun s =>
        ({ s.1 with sweeping := some (.waiting (some (dueAfter due seconds now))) }, s.2)
  | _, _ => pure ()

end Registry
end SearchStore
