import SearchStore.Value.Access
import SearchStore.Value.Text
namespace SearchStore

inductive ErrorKind where
  | store | validation | connectivity | configuration | operation
  | mapping | create | bulkCreate | find | findAll | count | update | destroy
  | createIndex | deleteIndex | existsIndex | listIndexes
deriving DecidableEq, Repr

namespace ErrorKind

def all : List ErrorKind :=
  [.store, .validation, .connectivity, .configuration, .operation, .mapping, .create, .bulkCreate,
    .find, .findAll, .count, .update, .destroy, .createIndex, .deleteIndex, .existsIndex,
    .listIndexes]

def name : ErrorKind → String
  | .store => "StoreError"
  | .validation => "ValidationError"
  | .connectivity => "ConnectivityError"
  | .configuration => "ConfigurationError"
  | .operation => "OperationError"
  | .mapping => "MappingError"
  | .create => "CreateError"
  | .bulkCreate => "BulkCreateError"
  | .find => "FindError"
  | .findAll => "FindAllError"
  | .count => "CountError"
  | .update => "UpdateError"
  | .destroy => "DestroyError"
  | .createIndex => "CreateIndexError"
  | .deleteIndex => "DeleteIndexError"
  | .existsIndex => "ExistsIndexError"
  | .listIndexes => "ListIndexesError"

def ofName? (name : String) : Option ErrorKind := all.find? fun kind => kind.name == name

def domain : String := "STORE.ES"

def code : ErrorKind → String
  | .connectivity => "STORE.ES_CLIENT"
  | .configuration => "STORE.ES_CONFIG"
  | .mapping => "ES.MAPPING"
  | .create => "ES.CREATE"
  | .bulkCreate => "ES.CREATE_BULK"
  | .find => "ES.FIND"
  | .findAll => "ES.FIND_ALL"
  | .count => "ES.COUNT"
  | .update => "ES.UPDATE"
  | .destroy => "ES.DESTROY"
  | .createIndex => "ES.CREATE_INDEX"
  | .deleteIndex => "ES.DELETE_INDEX"
  | .existsIndex => "ES.EXIST_INDEX"
  | .listIndexes => "ES.GET_INDEXES"
  | _ => domain

def status : ErrorKind → Int
  | .validation | .mapping => 400
  | .connectivity => 503
  | _ => 500

def isOperation : ErrorKind → Bool
  | .store | .validation | .connectivity | .configuration => false
  | _ => true

end ErrorKind

inductive Place where
  | field (name : String)
  | position (n : Int)
deriving DecidableEq, Repr

inductive Rule where
  | textExpected
  | flagExpected
  | flagUnreadable
  | wholeExpected
  | wholeUnreadable
  | wholeTooLong
  | wholeFractional
  | numberNotFinite
  | numberExpected
  | numberUnreadable
  | tooSmall
  | belowMinimum
  | mappingExpected
  | sectionExpected
  | unknownField
deriving DecidableEq, Repr

structure Detail where
  path : List Place
  rule : Rule
deriving DecidableEq, Repr

inductive Failure where
  | store (kind : ErrorKind) (message : String) (code status : Value) (cause : Option Failure)
      (attributes : List (String × Value))
  | client (kind text : String) (attributes : List (String × Value))
  -- A cancellation. It is no failure of the work it stops and passes every handler.
  | interrupt (kind text : String) (attributes : List (String × Value))
  | fault (fault : Fault)
  | invalid (details : List Detail)
  | configMissing (path : String)
  | configMalformed
  | settingUnreadable
deriving Inhabited

namespace Failure

def reported (kind : ErrorKind) (message : String) (code status : Value) (cause : Option Failure)
    (attributes : List (String × Value)) : Failure :=
  .store kind message (code.orElse (.str kind.code)) (status.orElse (.int kind.status)) cause
    attributes

def plain (kind : ErrorKind) (message : String) : Failure :=
  reported kind message .null .null none []

def because (kind : ErrorKind) (message : String) (cause : Failure) : Failure :=
  reported kind message .null .null (some cause) []

def badRequest (kind : ErrorKind) (message : String) (cause : Failure) : Failure :=
  reported kind message .null (.int 400) (some cause) []

def isOrdinary : Failure → Bool
  | .interrupt .. => false
  | _ => true

end Failure

structure Evidence where
  text : String
  attributes : List (String × Value)

namespace Evidence

def valueOf (e : Evidence) (name : String) : Value :=
  ((e.attributes.find? fun a => a.1 == name).map Prod.snd).getD .null

end Evidence

-- Attributes that were set on a failure of the store hide its own.
def Failure.evidence : Failure → Evidence
  | .store _ message code status _ attributes =>
    ⟨message, attributes ++ [("code", code), ("status_code", status)]⟩
  | .client _ text attributes | .interrupt _ text attributes => ⟨text, attributes⟩
  | .configMissing path => ⟨"Config file not found: " ++ path, []⟩
  | _ => ⟨"", []⟩

def Text.occursIn (part : List Char) : List Char → Bool
  | [] => part.isEmpty
  | c :: rest => part.isPrefixOf (c :: rest) || Text.occursIn part rest

namespace Evidence

def indexMissing : String := "index_not_found_exception"

def indexPresent : List String :=
  ["index_already_exists_exception", "resource_already_exists_exception"]

def report (e : Evidence) : String :=
  let parts := [e.valueOf "error", e.valueOf "info"].filter fun v => !v.isNull
  " ".intercalate (e.text :: parts.map Value.display)

def mentions (e : Evidence) (marker : String) : Bool :=
  Text.occursIn marker.toList e.report.toList

def isIndexMissing (e : Evidence) : Bool := e.mentions indexMissing

def isIndexPresent (e : Evidence) : Bool := indexPresent.any e.mentions

def isNotFound (e : Evidence) : Bool :=
  match (e.valueOf "status_code").number? with
  | some status => status.same (.whole 404)
  | none => false

-- Failures of the store are known by their code, those of the engine by the shape of its reports.
def isStoreRelated (e : Evidence) : Bool :=
  let coded := match e.valueOf "code" with
    | .str code => code.startsWith "ES" || code.startsWith ErrorKind.domain
    | _ => false
  coded || ["status_code", "error", "info"].all fun name => !(e.valueOf name).isNull

end Evidence

namespace Failure

def isIndexMissing (f : Failure) : Bool := f.evidence.isIndexMissing

def isIndexPresent (f : Failure) : Bool := f.evidence.isIndexPresent

def isNotFound (f : Failure) : Bool := f.evidence.isNotFound

def shown? : Failure → Option String
  | .store kind message code status _ _ =>
    some (kind.name ++ "(code=" ++ code.shown ++ ", message=" ++ Text.quoted message ++
      ", status_code=" ++ status.display ++ ")")
  | _ => none

end Failure
end SearchStore
