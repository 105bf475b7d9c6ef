import SearchStore.Value.Access
import SearchStore.Reading
namespace SearchStore.Hit

def lifted (item : Entries) : Except Fault Entries :=
  let selected := Entries.get item "fields"
  let rest := Entries.without item "fields"
  match selected.truthy, selected with
  | false, _ => .ok rest
  | true, .map fields => .ok (Entries.merge rest fields)
  | true, _ => .error .noMember

-- A hit without a source, or with a null one, is read whole even where only the source is wanted.
-- Its sort values are only of use to the engine.
def read (hit : Value) (onlySource includeId : Bool) : Except Fault Entries := do
  let item := Entries.without (← hit.toEntries) "sort"
  let source := Entries.get item "_source"
  if onlySource && !source.isNull then
    let document ← source.toEntries
    return if includeId then Entries.set document "id" (Entries.get item "_id") else document
  else
    let document ← lifted item
    return if includeId then Entries.set document "id" (Entries.get document "_id") else document

def document? (hit : Value) (onlySource includeId : Bool) : Option Entries :=
  (read hit onlySource includeId).toOption

end SearchStore.Hit

namespace SearchStore.Page

def total (hits : Value) : Except Fault Int := do
  match ← hits.member "total" with
  | .map report => ((Entries.get report "value").orElse (.int 0)).toWhole
  | reported => (reported.orElse (.int 0)).toWhole

def toDouble : Number → Except Fault Binary64
  | .whole n =>
    match Binary64.ofInt? n with
    | some x => .ok x
    | none => .error .overflow
  | .real x => .ok x

def roundUp (x : Binary64) : Except Fault Int :=
  match x.ceil? with
  | some n => .ok n
  | none => .error (if x.isNaN then .badContent else .overflow)

-- The quotient is a double before it is rounded up. The size is not zero.
def count (total : Int) : Number → Except Fault Int
  | .whole size =>
    match Binary64.ofRat ((total : Rat) / (size : Rat)) with
    | .infinite _ => .error .overflow
    | quotient => roundUp quotient
  | .real size => do roundUp (Binary64.div (← toDouble (.whole total)) size)

def current : Number → Number → Except Fault Number
  | .whole offset, .whole size => .ok (.whole (Int.fdiv offset size + 1))
  | offset, size => do
    let offset ← toDouble offset
    return .real (Binary64.add (Binary64.floorDivide offset (← toDouble size)) (.finite 1))

def number (v : Value) : Except Fault Number :=
  match v.number? with
  | some n => .ok n
  | none => .error .wrongKind

structure Meta where
  totalCount : Int
  currentCount : Nat
  pageCount : Option Int
  currentPage : Option Number

-- Only a request with a page size has pages, and only one that also says where it starts has a
-- current page.
def metaOf (totalCount : Int) (currentCount : Nat) (request : Value) : Except Fault Meta :=
  let size := (request.entries?.map fun body => Entries.get body "size").getD .null
  let offset := (request.entries?.map fun body => Entries.get body "from").getD .null
  if size.truthy then do
    let pages ← count totalCount (← number size)
    if offset.isNull then
      return ⟨totalCount, currentCount, some pages, none⟩
    else
      return ⟨totalCount, currentCount, some pages, some (← current (← number offset) (← number size))⟩
  else .ok ⟨totalCount, currentCount, none, none⟩

end SearchStore.Page

namespace SearchStore

def emptyResponse : Value :=
  .record [("hits", .record [("total", .int 0), ("hits", .list [])])]

structure ResultSet where
  documents : List Entries
  page : Page.Meta

structure Found where
  document : Option Entries
  summary : Entries

namespace ResultSet

def hits (response : Value) : Except Fault Value := do
  return (← response.member "hits").orElse (.map [])

def hitList (response : Value) : Except Fault (List Value) := do
  let found ← hits response
  ((← found.member "hits").orElse (.list [])).items

-- The hits that are left out, as far as the answer can be walked at all.
def skipped (response : Value) (onlySource includeId : Bool) : List Value :=
  match hitList response with
  | .ok found => found.filter fun hit => (Hit.document? hit onlySource includeId).isNone
  | .error _ => []

def requestBody (payload : Value) : Except Fault Value := do
  return (← (payload.orElse (.map [])).member "body").orElse (.map [])

def pageOf (response payload : Value) (count : Nat) : Except Fault Page.Meta := do
  let total ← Page.total (← hits response)
  Page.metaOf total count (← requestBody payload)

def checked (documents : List Entries) : Verdict (List Entries) :=
  (Reading.sequenceOf Reading.mapping (documents.map .map)).inside (.field "result")

def ofResponse (response : Value) (onlySource includeId : Bool) (payload : Value) :
    Except Failure ResultSet :=
  let read : Except Fault ResultSet := do
    let documents := (← hitList response).filterMap fun hit => Hit.document? hit onlySource includeId
    return ⟨documents, ← pageOf response payload documents.length⟩
  match read with
  | .ok set => (checked set.documents).result.map fun documents => ⟨documents, set.page⟩
  | .error fault => .error (.fault fault)

end ResultSet

namespace Found

def nothing : Found := ⟨none, Entries.ofFields [("total", .int 0), ("hits", .list [])]⟩

def firstHit (response : Value) : Except Fault (Option Value) := do
  return (← ResultSet.hitList response).head?.filter fun hit => !hit.isNull

def skipped (response : Value) (onlySource includeId : Bool) : List Value :=
  match firstHit response with
  | .ok (some hit) => if (Hit.document? hit onlySource includeId).isNone then [hit] else []
  | _ => []

def checked (document : Option Entries) (summary : Entries) : Verdict Found :=
  let document : Verdict (Option Entries) := match document with
    | some entries => (Reading.mapping (.map entries)).map some
    | none => .valid none
  Found.mk <$> document.inside (.field "result")
    <*> (Reading.mapping (.map summary)).inside (.field "meta")

def ofResponse (response : Value) (onlySource includeId : Bool) : Except Failure Found :=
  let read : Except Fault (Option Entries × Entries) := do
    let hit ← firstHit response
    let summary ← (← ResultSet.hits response).toEntries
    return (hit.bind fun hit => Hit.document? hit onlySource includeId, summary)
  match read with
  | .ok (document, summary) => (checked document summary).result
  | .error fault => .error (.fault fault)

end Found
end SearchStore
