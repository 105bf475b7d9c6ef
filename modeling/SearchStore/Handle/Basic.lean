import SearchStore.Value.Entries
import SearchStore.Failure
import SearchStore.Client.Session
import SearchStore.Settings.Basic
import SearchStore.Text.LetterCase
namespace SearchStore

structure Parameter where
  name : String
  fallback : Option Value

namespace Parameter

def required (name : String) : Parameter := ⟨name, none⟩

def optional (name : String) : Parameter := ⟨name, some .null⟩

def names (parameters : List Parameter) (key : Value) : Bool :=
  parameters.any fun p => key.sameKey (.str p.name)

def fill : List Parameter → List Value → Entries → Option (List Value)
  | [], [], _ => some []
  | [], _ :: _, _ => none
  | _ :: rest, v :: more, named => (fill rest more named).map (v :: ·)
  | p :: rest, [], named =>
    match (Entries.get? named p.name).or p.fallback with
    | some v => (fill rest [] named).map (v :: ·)
    | none => none

-- What is named beyond the parameters is handed on. Nothing may be given twice; the name of the
-- object itself is always taken.
def bindOpen (parameters : List Parameter) (positional : List Value) (named : Entries) :
    Option (List Value × Entries) :=
  let taken := required "self" :: parameters.take positional.length
  if Entries.hasTextKeys named && !named.any (fun entry => names taken entry.1) then
    (fill parameters positional named).map fun values =>
      (values, named.filter fun entry => !names parameters entry.1)
  else none

def bind (parameters : List Parameter) (positional : List Value) (named : Entries) :
    Option (List Value) :=
  match bindOpen parameters positional named with
  | some (values, []) => some values
  | _ => none

end Parameter

inductive Operation where
  | putMapping | create | createBulk | findRaw | find | findAll | countRaw | count | update | destroy
deriving DecidableEq, Repr

namespace Operation

def parameters : Operation → List Parameter
  | .putMapping => [.required "doc_type", .optional "fields"]
  | .create => [.required "doc_type", .optional "data", .optional "opts"]
  | .createBulk => [.required "doc_type", .required "items", .optional "opts"]
  | .findRaw | .countRaw => [.required "doc_type", .required "body", .optional "meta"]
  | .find | .findAll | .count =>
    [.required "doc_type", .optional "query", ⟨"raw", some (.bool false)⟩]
  | .update => [.required "doc_type", .optional "doc_id", .optional "data", .optional "opts"]
  | .destroy => [.required "doc_type", .optional "doc_id", .optional "opts"]

def label : Operation → String
  | .putMapping => "putMapping"
  | .create => "create"
  | .createBulk => "createBulk"
  | .findRaw => "findRaw"
  | .find => "find"
  | .findAll => "findAll"
  | .countRaw => "countRaw"
  | .count => "count"
  | .update => "update"
  | .destroy => "destroy"

def kind : Operation → ErrorKind
  | .putMapping => .mapping
  | .create => .create
  | .createBulk => .bulkCreate
  | .findRaw | .find => .find
  | .findAll => .findAll
  | .countRaw | .count => .count
  | .update => .update
  | .destroy => .destroy

def complaint : Operation → String
  | .putMapping => "could not create mapping for %s"
  | .create => "could not create type %s"
  | .createBulk => "could not bulk create type %s"
  | .findRaw => "could not findRaw type %s"
  | .find => "could not find type %s"
  | .findAll => "could not findAll type %s"
  | .countRaw => "could not countRaw type %s"
  | .count => "could not count type %s"
  | .update => "could not update type %s id %s"
  | .destroy => "could not destroy type %s"

def message : Operation → String
  | .putMapping => "Could not save index mapping"
  | .create => "Could not store entry."
  | .createBulk => "Could not store entries."
  | .findRaw | .find => "Could not query store for entry"
  | .findAll => "Could not query store for entries"
  | .countRaw => "Could not query store for entry count"
  | .count => "Could not count store entries"
  | .update => "Could not persist updates"
  | .destroy => "Could not delete entries"

-- A body that the caller built is the caller's fault.
def failure (op : Operation) (cause : Failure) : Failure :=
  match op with
  | .findRaw | .countRaw => .badRequest op.kind op.message cause
  | _ => .because op.kind op.message cause

def malformed (op : Operation) (message : String) : Failure :=
  .reported .validation message (.str op.kind.code) .null none []

end Operation

structure Handle where
  id : Nat
  name : String
  client : Option Client
  logger : String
  debug : DebugSwitches
  docTypes : Bool

namespace Handle

def make (id : Nat) (name : String) (client : Option Client) (logger : String)
    (debug : DebugSwitches) (docTypes : Bool) : Handle :=
  ⟨id, Text.lower name, client, logger, debug, docTypes⟩

def shown (h : Handle) : String := "IndexHandle(" ++ Text.quoted h.name ++ ")"

def ownLogger : String := rootLogger ++ ".store.elastic.index"

def index (h : Handle) : Value := .str h.name

def request (h : Handle) (payload : Entries) : Entries :=
  let docType := Entries.get payload "type"
  let rest := Entries.without payload "type"
  if h.docTypes && !docType.isNull then Entries.set rest "doc_type" docType else rest

def trace (h : Handle) (on : Bool) (template : String) (arguments : List Value) :
    Action Session Unit :=
  if on then Session.log (.debug h.logger template (h.index :: arguments)) else pure ()

def reject {α : Type} (h : Handle) (op : Operation) (complaint message : String) :
    Action Session α := do
  Session.log (.error h.logger complaint [h.index, .str op.label])
  .fail (op.malformed message)

def checkType (h : Handle) (op : Operation) (docType : Value) : Action Session Unit :=
  if docType.isText then pure ()
  else h.reject op "Index %s.%s(): type must be string" "Invalid document type"

def checkId (h : Handle) (op : Operation) (id : Value) : Action Session Unit :=
  if id.isIdentifier then pure ()
  else h.reject op "Index %s.%s(): id must be string or number" "Invalid document id"

def refused {α : Type} (h : Handle) (op : Operation) (subject : List Value) (cause : Failure) :
    Action Session α := do
  Session.log (.warning h.logger ("Index %s " ++ op.complaint) (h.index :: subject))
  Session.log ((Record.debug h.logger "Engine error for index %s" [h.index]).withFailure cause)
  .fail (op.failure cause)

end Handle
end SearchStore
