import SearchStore.Settings.EnvFile
import SearchStore.Value.Entries
import SearchStore.Text.LetterCase
import SearchStore.Json
import SearchStore.Failure
namespace SearchStore

-- How a field is written in a variable: as the text itself, as JSON, or as JSON for a section whose
-- fields may also be set one by one.
inductive Spelling where
  | text
  | json
  | parts (fields : List (String × Spelling))
deriving Inhabited

namespace Spelling

def texts (names : List String) : List (String × Spelling) := names.map fun name => (name, text)

def options : Spelling := .parts (
  texts ["request_timeout", "dead_timeout", "sniff_on_start", "sniffer_timeout", "maxsize",
    "verify_certs"] ++ [("extra", json)])

def debug : Spelling := .parts (texts ["create", "read", "update", "delete"])

def store : Spelling := .parts ([
  ("clients", json), ("username", text), ("password", text), ("headers", json),
  ("options", options), ("debug", debug)] ++ texts ["index_cache_ttl", "doc_types", "logger"])

def observability : Spelling := .parts (texts ["log_level", "log_format"])

def isJson : Spelling → Bool
  | .text => false
  | _ => true

def fields : Spelling → List (String × Spelling)
  | .parts fields => fields
  | _ => []

end Spelling

-- Variables have case-blind names. One that is named without a value is null.
abbrev Variables := Entries

namespace Variables

def ofBindings (bindings : List EnvFile.Binding) : Variables :=
  bindings.foldl (fun vars b =>
    Entries.set vars (Text.lower b.name) (b.value.elim .null .str)) []

def namespaceText : String := "elastore_"

def pathFrom (current : List Char) : List Char → List String
  | [] => [String.ofList current.reverse]
  | '_' :: '_' :: rest => String.ofList current.reverse :: pathFrom [] rest
  | c :: rest => pathFrom (c :: current) rest

def path? (field : String) (name : String) : Option (List String) :=
  let start := (namespaceText ++ field ++ "__").toList
  if start.isPrefixOf name.toList then some (pathFrom [] (name.toList.drop start.length)) else none

def answersTo (field name : String) : Bool := name == field || name == namespaceText ++ field

def spellingAt (spelling : Spelling) : List String → Spelling
  | [] => spelling
  | name :: rest =>
    match spelling.fields.find? fun field => answersTo field.1 name with
    | some (_, inner) => spellingAt inner rest
    | none => .text

def decoded (spelling : Spelling) (v : Value) : Except Failure Value :=
  match v with
  | .str s =>
    if spelling.isJson && !s.isEmpty then
      match Json.parse s with
      | some value => .ok value
      | none => .error .settingUnreadable
    else .ok v
  | _ => .ok v

def inside (vars : Variables) (field : String) (spelling : Spelling) :
    Except Failure Entries :=
  vars.foldlM (fun (entries : Entries) v =>
    match path? field v.1.display with
    | some path => do
      return Entries.setAt entries (← decoded (spellingAt spelling path) v.2) path
    | none => .ok entries) []

def fieldNamed? (spelling : Spelling) (name : String) : Option (String × Spelling) :=
  spelling.fields.find? fun field => field.1 == Text.lower name

mutual
def respelled (spelling : Spelling) : Value → Value
  | .map entries => .map (Entries.merge [] (respelledAll spelling entries))
  | v => v
def respelledAll (spelling : Spelling) : List (Value × Value) → List (Value × Value)
  | [] => []
  | (key, v) :: rest =>
    match key with
    | .str name =>
      match fieldNamed? spelling name with
      | some (known, .parts fields) =>
        (.str known, respelled (.parts fields) v) :: respelledAll spelling rest
      | some (known, _) => (.str known, v) :: respelledAll spelling rest
      | none => (key, v) :: respelledAll spelling rest
    | _ => (key, v) :: respelledAll spelling rest
end

-- A field set as a whole is JSON. Where that is a mapping, what is said about its inside is laid
-- over it.
def field? (vars : Variables) (field : String) (spelling : Spelling) :
    Except Failure (Option Value) := do
  match Entries.get vars (namespaceText ++ field) with
  | .str s =>
    match Json.parse s with
    | some (.map entries) => do
      return some (respelled spelling (.map (Entries.overlayAll entries (← inside vars field spelling))))
    | some .null => return none
    | some v => return some v
    | none => .error .settingUnreadable
  | _ =>
    match ← inside vars field spelling with
    | [] => return none
    | entries => return some (respelled spelling (.map entries))

def known : List (String × Spelling) :=
  [("store", .store), ("observability", .observability)]

def toEntries (vars : Variables) : Except Failure Entries :=
  known.foldlM (fun (entries : Entries) field => do
    match ← field? vars field.1 field.2 with
    | some v => return Entries.set entries field.1 v
    | none => return entries) []

def isUsed (name : String) : Bool :=
  known.any fun field =>
    name == field.1 || (namespaceText ++ field.1).toList.isPrefixOf name.toList

-- A file of variables is meant for these settings alone, so its other names are settings, too.
def toEntriesStrict (vars : Variables) : Except Failure Entries := do
  let others := vars.filter fun v => v.2.truthy && !isUsed v.1.display
  return Entries.merge (← toEntries vars) others

end Variables

end SearchStore
