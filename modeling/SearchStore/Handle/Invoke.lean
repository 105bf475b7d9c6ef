import SearchStore.Handle.Basic
import SearchStore.Query.Bulk
import SearchStore.Query.Find
import SearchStore.Result.Listing
namespace SearchStore.Handle

def putMapping (h : Handle) (docType fields : Value) : Action Session Value := do
  h.checkType .putMapping docType
  let body := Value.record [("properties", .map (fields.entries?.getD []))]
  let payload := Entries.ofFields [("index", h.index), ("type", docType), ("body", body)]
  h.trace h.debug.create "PutMapping %s.%s %s" [docType, body]
  let response ← .rescue (Session.call h.client .putMapping (h.request payload))
    (h.refused .putMapping [docType])
  Session.log (.debug h.logger "Updated mapping for index %s type %s" [h.index, docType])
  return response

def create (h : Handle) (docType data opts : Value) : Action Session Value := do
  h.checkType .create docType
  let data := data.entries?.getD []
  let payload ← .liftFault (withOptions
    (Entries.ofFields [("index", h.index), ("type", docType), ("body", .map data)]) opts)
  h.trace h.debug.create "Create %s.%s %s" [docType, .map data]
  .rescue (Session.call h.client .index (h.request (withOwnId payload data)))
    (h.refused .create [docType])

def bulkOperations (h : Handle) (docType documents : Value) : List Value :=
  let lines := Bulk.operations h.index docType documents
  if h.docTypes then lines else Bulk.untyped lines

def createBulk (h : Handle) (docType items opts : Value) : Action Session Value := do
  h.checkType .createBulk docType
  let payload ← .liftFault (opts.orElse (.map [])).toEntries
  let payload := Entries.set payload "body" (.list (h.bulkOperations docType items))
  h.trace h.debug.create "CreateBulk %s.%s %d items"
    [docType, .int (Bulk.items items).length]
  .rescue (Session.call h.client .bulk payload) (h.refused .createBulk [docType])

def rawPayload (h : Handle) (docType body extra : Value) : Except Fault Entries := do
  let payload ← (extra.orElse (.map [])).toEntries
  return Entries.set (Entries.set (Entries.set payload "index" h.index) "type" docType) "body" body

def findRaw (h : Handle) (docType body extra : Value) : Action Session Value := do
  h.checkType .findRaw docType
  let payload ← .liftFault (h.rawPayload docType body extra)
  h.trace h.debug.read "FindRaw %s.%s %s" [docType, body]
  let response ← .rescue (Session.call h.client .search (h.request payload))
    (h.refused .findRaw [docType])
  let hits := (response.entries?.map fun entries => Entries.get entries "hits").getD .null
  return if hits.isMapping then hits else response

def countOf (response : Value) : Except Fault Value := do
  return (← response.member "count").orElse (.int 0)

def countRaw (h : Handle) (docType body extra : Value) : Action Session Value := do
  h.checkType .countRaw docType
  let payload ← .liftFault (h.rawPayload docType body extra)
  h.trace h.debug.read "CountRaw %s.%s %s" [docType, body]
  let response ← .rescue (Session.call h.client .count (h.request payload))
    (h.refused .countRaw [docType])
  .liftFault (countOf response)

def orMissing (h : Handle) (op : Operation) (docType : Value) (x : Action Session Value) :
    Action Session (Option Value) :=
  .rescue (do return some (← x)) fun failure =>
    if failure.isIndexMissing then pure none else h.refused op [docType] failure

def firstOnly (payload : Entries) : Value :=
  match Entries.get payload "body" with
  | .map body => .map (Entries.set body "size" (.int 1))
  | _ => .record [("size", .int 1)]

def find (h : Handle) (docType query raw : Value) : Action Session Found := do
  h.checkType .find docType
  let flags := Find.takeFlags query
  let payload ← .lift (Find.payload h.index docType flags.spec raw.truthy)
  let body := firstOnly payload
  h.trace h.debug.read "Find %s.%s %s" [docType, body]
  let request := h.request (Entries.set payload "body" body)
  match ← h.orMissing .find docType (Session.call h.client .search request) with
  | none => return Found.nothing
  | some response =>
    Session.logAll ((Found.skipped response flags.onlySource flags.includeId).map .skippedHit)
    .lift (Found.ofResponse response flags.onlySource flags.includeId)

def findAll (h : Handle) (docType query raw : Value) : Action Session ResultSet := do
  h.checkType .findAll docType
  let flags := Find.takeFlags query
  let payload ← .lift (Find.payload h.index docType flags.spec raw.truthy)
  h.trace h.debug.read "FindAll %s.%s %s" [docType, Entries.get payload "body"]
  match ← h.orMissing .findAll docType (Session.call h.client .search (h.request payload)) with
  | none => .lift (ResultSet.ofResponse emptyResponse false false (.map payload))
  | some response =>
    Session.logAll ((ResultSet.skipped response flags.onlySource flags.includeId).map .skippedHit)
    .lift (ResultSet.ofResponse response flags.onlySource flags.includeId (.map payload))

def count (h : Handle) (docType query raw : Value) : Action Session Value := do
  h.checkType .count docType
  let payload ← .lift (Find.payload h.index docType (Find.takeFlags query).spec raw.truthy)
  let body ← .liftFault (Find.countBody (.map payload))
  h.trace h.debug.read "Count %s.%s %s" [docType, .map body]
  let request := h.request (Entries.set payload "body" (.map body))
  match ← h.orMissing .count docType (Session.call h.client .count request) with
  | none => return .int 0
  | some response => .liftFault (countOf response)

def update (h : Handle) (docType id data opts : Value) : Action Session Value := do
  let change := updateOf docType id data opts
  h.checkType .update change.docType
  h.checkId .update change.id
  let body := updateBody (change.data.entries?.getD [])
  let payload := withMapping (Entries.ofFields
    [("index", h.index), ("type", change.docType), ("id", change.id), ("body", body)]) change.opts
  h.trace h.debug.update "Update %s.%s %s %s" [change.docType, change.id, body]
  .rescue (Session.call h.client .update (h.request payload))
    (h.refused .update [change.docType, change.id])

-- What is already gone does not have to be deleted.
def destroy (h : Handle) (docType id opts : Value) : Action Session Value := do
  let change := destroyOf docType id opts
  h.checkType .destroy change.docType
  h.checkId .destroy change.id
  let payload := withMapping (Entries.ofFields
    [("index", h.index), ("type", change.docType), ("id", change.id)]) change.opts
  h.trace h.debug.delete "Destroy %s.%s %s" [change.docType, change.id]
  .rescue (Session.call h.client .delete (h.request payload)) fun failure =>
    if failure.isNotFound then do
      h.trace h.debug.delete "Destroy %s.%s %s: already absent" [change.docType, change.id]
      return .null
    else h.refused .destroy [change.docType] failure

end SearchStore.Handle

namespace SearchStore

inductive Answer where
  | value (v : Value)
  | found (f : Found)
  | listing (set : ResultSet)

namespace Handle

def run (h : Handle) : Operation → List Value → Action Session Answer
  | .putMapping, [docType, fields] => do return .value (← h.putMapping docType fields)
  | .create, [docType, data, opts] => do return .value (← h.create docType data opts)
  | .createBulk, [docType, items, opts] => do return .value (← h.createBulk docType items opts)
  | .findRaw, [docType, body, extra] => do return .value (← h.findRaw docType body extra)
  | .find, [docType, query, raw] => do return .found (← h.find docType query raw)
  | .findAll, [docType, query, raw] => do return .listing (← h.findAll docType query raw)
  | .countRaw, [docType, body, extra] => do return .value (← h.countRaw docType body extra)
  | .count, [docType, query, raw] => do return .value (← h.count docType query raw)
  | .update, [docType, id, data, opts] => do return .value (← h.update docType id data opts)
  | .destroy, [docType, id, opts] => do return .value (← h.destroy docType id opts)
  | _, _ => .fail (.fault .wrongKind)

def invoke (h : Handle) (op : Operation) (positional : List Value) (named : Entries) :
    Action Session Answer :=
  match Parameter.bind op.parameters positional named with
  | some values => h.run op values
  | none => .fail (.fault .wrongKind)

end Handle
end SearchStore
