import SearchStore.Value.Access
import SearchStore.Value.Text
namespace SearchStore.Bulk

def items : Value → List Value
  | .list items | .tuple items => items
  | single => [single]

def action (fields : List (String × Value)) : Value := .record [("index", .record fields)]

def interleave (action : Value) (documents : List Value) : List Value :=
  documents.flatMap fun document => [action, document]

def operations (index docType documents : Value) : List Value :=
  interleave (action [("_index", index), ("_type", docType)]) (items documents)

def withoutType : Value → Value
  | .map line =>
    match Entries.get line "index" with
    | .map fields => .map (Entries.set line "index" (.map (Entries.without fields "_type")))
    | _ => .map line
  | line => line

-- Clusters without document types take the action lines, which are every other line, without one.
def untyped : List Value → List Value
  | [] => []
  | [action] => [withoutType action]
  | action :: document :: rest => withoutType action :: document :: untyped rest

end SearchStore.Bulk

namespace SearchStore.Handle

def withOptions (payload : Entries) (opts : Value) : Except Fault Entries :=
  if opts.truthy then Entries.update payload opts else .ok payload

def withOwnId (payload data : Entries) : Entries :=
  match Entries.get? data "id" with
  | some id => Entries.set payload "id" id
  | none => payload

def documentId (document : Entries) : Value :=
  let id := Entries.get document "_id"
  if id.isNull then Entries.get document "id" else id

def idOf : Value → Value
  | .map document => documentId document
  | id => id

-- A document that carries its type takes the place of type and id.
def selfNaming : Value → Option Entries
  | .map document => if (Entries.get document "_type").truthy then some document else none
  | _ => none

def ownFields (document : Entries) : Entries :=
  document.filter fun entry => !entry.1.display.startsWith "_"

structure Change where
  docType : Value
  id : Value
  data : Value
  opts : Value

def updateOf (docType id data opts : Value) : Change :=
  match selfNaming docType with
  | some document =>
    ⟨Entries.get document "_type", documentId document,
      if id.isNull then .map (ownFields document) else id, data⟩
  | none => ⟨docType, idOf id, data, opts⟩

def updateBody (data : Entries) : Value :=
  if Entries.has data "script" || Entries.has data "upsert" then .map data
  else .record [("doc", .map data)]

def withMapping (payload : Entries) : Value → Entries
  | .map opts => Entries.merge payload opts
  | _ => payload

def destroyOf (docType id opts : Value) : Change :=
  match selfNaming docType with
  | some document =>
    ⟨Entries.get document "_type", documentId document, .null, if opts.isNull then id else opts⟩
  | none => ⟨docType, idOf id, .null, opts⟩

end SearchStore.Handle
