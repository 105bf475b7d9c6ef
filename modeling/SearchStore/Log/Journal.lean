import SearchStore.Log.Event
import SearchStore.Log.Template
import SearchStore.Settings.Basic
namespace SearchStore

inductive Layout where
  | objects
  | lines
deriving DecidableEq, Repr

def Layout.ofName (name : String) : Layout := if name = "console" then .lines else .objects

structure Handler where
  name : String
  layout : Layout
  stream : Nat

structure Journal where
  level : Nat := Level.debug.number
  attached : List Handler := []
  streams : List (List Line) := []

namespace Layout

def write (layout : Layout) (e : Event) : List Line :=
  match layout with
  | .objects => (e.object?.map .object).toList
  | .lines => e.texts.map .text

end Layout

namespace Handler

def usual : String := rootLogger ++ ".structlog"

def isUsual (h : Handler) : Bool := h.name == usual

def write (e : Event) (streams : List (List Line)) (h : Handler) : List (List Line) :=
  streams.modify h.stream fun written => written ++ h.layout.write e

end Handler

namespace Journal

def handlers (j : Journal) : Nat := (j.attached.filter Handler.isUsual).length

-- Handlers of other names stay attached.
def setUp (o : Observability) (j : Journal) : Except Fault Journal := do
  let level ← Threshold.ofName o.logLevel
  let others := j.attached.filter fun h => !h.isUsual
  return {
    level := level
    attached := others ++ [⟨Handler.usual, .ofName o.logFormat, j.streams.length⟩]
    streams := j.streams ++ [[]] }

def isOwn (logger : String) : Bool :=
  logger == rootLogger || (rootLogger ++ ".").toList.isPrefixOf logger.toList

def threshold (j : Journal) (logger : String) : Nat :=
  if isOwn logger then Threshold.effective j.level else Threshold.usual

def admits (j : Journal) (logger : String) (level : Int) : Bool :=
  (j.threshold logger : Int) ≤ level

-- Nothing but the library's own events reaches the handlers.
def write (e : Event) (j : Journal) : Journal :=
  if isOwn e.logger then { j with streams := j.attached.foldl (Handler.write e) j.streams } else j

def record (r : Record Int) (j : Journal) : Journal :=
  if j.admits r.logger r.level then
    match Template.fill r.template r.arguments with
    | .ok text => j.write ⟨r.level, r.logger, .str text, [], r.failure⟩
    | .error _ => j
  else j

-- Details of an event have to leave these names to the call itself.
def callNames : List String := ["event", "self", "method_name"]

def filled (message : Value) (arguments : List Value) : Except Fault Value :=
  match arguments, message with
  | [], _ => .ok message
  | _, .str template => (Template.fill template arguments).map .str
  | _, _ => .error .wrongKind

def tell (e : Event) (arguments : List Value) (j : Journal) : Except Fault Journal :=
  if callNames.any fun name => Entries.has e.details name then .error .wrongKind
  else if j.admits e.logger e.level then do
    return j.write { e with message := ← filled e.message arguments }
  else .ok j

end Journal
end SearchStore
