import SearchStore.Value.Access
import SearchStore.Value.Text
import SearchStore.Text.LetterCase
import SearchStore.Value.Entries
import SearchStore.Failure
namespace SearchStore.Sort

-- Multi-index searches meet indices without the field, so every pair allows it to be unmapped.
def clause (field direction : Value) : Value :=
  .map [(field, .record
    [("order", .str (Text.lower direction.display)), ("unmapped_type", .bool true)])]

def pairs : List Value → Except Fault (List Value)
  | [] => .ok []
  | [last] => .ok [last]
  | field :: direction :: rest =>
    if field.isKey then (pairs rest).map (clause field direction :: ·)
    else .error .wrongKind

def namesFields : List Value → Bool
  | .str _ :: _ => true
  | _ => false

mutual
-- What a list element adds. A list that starts with a field name holds pairs, any other list holds
-- further elements; a mapping is a clause already.
def element : Value → Except Fault (List Value)
  | .list items | .tuple items => if namesFields items then pairs items else elements items
  | .map entries => .ok [.map entries]
  | _ => .ok []
def elements : List Value → Except Fault (List Value)
  | [] => .ok []
  | item :: rest => do
    let here ← element item
    let more ← elements rest
    return here ++ more
end

def clauses : Value → Except Fault (List Value)
  | .str field => .ok [.str field]
  | .list items => element (.list items)
  | .tuple items => element (.tuple items)
  | _ => .ok []

end SearchStore.Sort

namespace SearchStore.Where

def termKeys : List String := ["terms", "term"]

def isTermKey : Value → Bool
  | .str name => termKeys.contains name
  | _ => false

def families (entries : Entries) : Nat :=
  [Entries.has entries "match", termKeys.any (Entries.has entries), Entries.has entries "range"].count
    true

-- The engine takes one field per term clause, so a mapping of fields is split.
def mustOf (key value : Value) : List Value :=
  match isTermKey key, value with
  | true, .map fields => fields.map fun field => .map [(key, .map [field])]
  | _, _ => [.map [(key, value)]]

def must (entries : Entries) : List Value := entries.flatMap fun entry => mustOf entry.1 entry.2

def joined (clauses : List Value) : Value :=
  .record [("bool", .record [("must", .list clauses)])]

-- A single family is used alone. Among several keys the first of these that is present wins.
def precedence : List String := ["range", "terms", "term", "match"]

def single (entries : Entries) : Value :=
  match precedence.find? (Entries.has entries) with
  | some key => .record [(key, Entries.get entries key)]
  | none => .record [("match", .map entries)]

def compile : Value → Value
  | .map entries => if 2 ≤ families entries then joined (must entries) else single entries
  | condition => .record [("match", condition)]

end SearchStore.Where

namespace SearchStore.Find

inductive Slot where
  | conditions | limit | offset | order | attributes | raw
  | other
deriving DecidableEq, Repr

def slot : Value → Slot
  | .str "where" => .conditions
  | .str "limit" => .limit
  | .str "offset" => .offset
  | .str "order" => .order
  | .str "attributes" => .attributes
  | .str "raw" => .raw
  | _ => .other

def constrains : Value → Bool
  | .null | .map [] => false
  | _ => true

def write (body : Entries) (entry : Value × Value) : Except Fault Entries :=
  match slot entry.1 with
  | .conditions =>
    .ok (if constrains entry.2 then Entries.set body "query" (Where.compile entry.2) else body)
  | .limit => .ok (Entries.set body "size" entry.2)
  | .offset => .ok (Entries.set body "from" entry.2)
  | .order => (Sort.clauses entry.2).map fun clauses => Entries.set body "sort" (.list clauses)
  | .attributes => .ok (Entries.set body "fields" entry.2)
  | .raw =>
    match entry.2 with
    | .map more => .ok (Entries.merge body more)
    | _ => .ok body
  | .other => .ok (Entries.put body entry.1 entry.2)

-- The engine reads a missing query as "match all", so an empty one is left out.
def dropEmptyQuery (body : Entries) : Entries :=
  match Entries.get? body "query" with
  | some (.map []) => Entries.without body "query"
  | _ => body

def body : Value → Except Fault Entries
  | .map spec => (spec.foldlM write [(.str "query", .map [])]).map dropEmptyQuery
  | spec =>
    .ok (if spec.isIdentifier then
      [(.str "query", .record [("ids", .record [("values", .list [spec])])])] else [])

def payload (index docType spec : Value) (raw : Bool) : Except Failure Entries :=
  if raw then
    match spec with
    | .map request => .ok (Entries.set (Entries.set request "index" index) "type" docType)
    | _ => .error (.reported .validation "Raw query must be a mapping" (.str "ES.QUERY") .null none [])
  else
    match body spec with
    | .ok body => .ok (Entries.ofFields [("index", index), ("type", docType), ("body", .map body)])
    | .error fault => .error (.fault fault)

def countBody (payload : Value) : Except Fault Entries := do
  let body ← payload.member "body"
  match body.orElse (.map []) with
  | .map entries =>
    return match Entries.get? entries "query" with
      | some query => Entries.ofFields [("query", query)]
      | none => []
  | _ => return []

-- A query specification without its two switches, which only count when they are really `true`.
structure Flagged where
  spec : Value
  onlySource : Bool
  includeId : Bool

def isTrue : Value → Bool
  | .bool true => true
  | _ => false

def takeFlags : Value → Flagged
  | .null => ⟨.map [], false, false⟩
  | .map entries =>
    let onlySource := isTrue (Entries.get entries "source")
    let includeId := isTrue (Entries.get entries "id")
    let rest := if onlySource then Entries.without entries "source" else entries
    ⟨.map (if includeId then Entries.without rest "id" else rest), onlySource, includeId⟩
  | spec => ⟨spec, false, false⟩

end SearchStore.Find
