import SearchStore.Value.Entries
import SearchStore.Number.Literal
import SearchStore.Text.Blank
namespace SearchStore

inductive Fault where
  -- The operation does not exist for this kind of value.
  | wrongKind
  -- The kind is right and the content is not.
  | badContent
  | noMember
  | noEntry
  | overflow
deriving DecidableEq, Repr

namespace Value

def items : Value → Except Fault (List Value)
  | .list xs | .tuple xs => .ok xs
  | .map entries => .ok (entries.map Prod.fst)
  | .str s => .ok (s.toList.map fun c => .str (String.singleton c))
  | _ => .error .wrongKind

def entry (item : Value) : Except Fault (Value × Value) :=
  match item.items with
  | .ok [key, value] => if key.isKey then .ok (key, value) else .error .wrongKind
  | .ok _ => .error .badContent
  | .error fault => .error fault

end Value

def Entries.update (entries : Entries) (source : Value) : Except Fault Entries :=
  match source with
  | .map more => .ok (Entries.merge entries more)
  | source => do
    let items ← source.items
    items.foldlM (fun acc item => do
      let (key, value) ← item.entry
      return Entries.put acc key value) entries

namespace Value

def toEntries : Value → Except Fault Entries
  | .map entries => .ok entries
  | source => Entries.update [] source

def member (v : Value) (name : String) : Except Fault Value :=
  match v with
  | .map entries => .ok (Entries.get entries name)
  | _ => .error .noMember

def toWhole : Value → Except Fault Int
  | .bool b => .ok (if b then 1 else 0)
  | .int n => .ok n
  | .float x =>
    match x.truncate? with
    | some n => .ok n
    | none => .error (if x.isNaN then .badContent else .overflow)
  | .str s =>
    match Literal.whole? Text.isBlank Text.digit? s.toList with
    | some n => .ok n
    | none => .error .badContent
  | _ => .error .wrongKind

end Value
end SearchStore
