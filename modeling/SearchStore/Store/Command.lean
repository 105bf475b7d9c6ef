import SearchStore.Store.Indexes
import SearchStore.Handle.Invoke
namespace SearchStore

inductive Command where
  | init (config : Config)
  | run
  | shutdown
  | client
  | name
  | settings
  | health
  | sweep
  | advance (seconds : Rat)
  | getIndex (name : Value)
  | createIndex (name body : Value)
  | deleteIndex (name : Value)
  | deleteByHandle (name : Value)
  | existsIndex (name : Value) (parameters : Entries)
  | listIndexes (rawNames : Bool) (parameters : Entries)
  | onIndex (name : Value) (op : Operation) (positional : List Value) (named : Entries)

inductive Outcome where
  | done
  | flag (b : Bool)
  | text (s : String)
  | value (v : Value)
  | client (c : Option Client)
  | settings (s : StoreSettings)
  | health (h : Health)
  | handle (h : Option Handle)
  | names (values : List Value)
  | handles (handles : List (Option Handle))
  | answer (a : Answer)

namespace Store

def storeName : String := "elastic"

def invoke (name : Value) (op : Operation) (positional : List Value) (named : Entries) :
    Run Answer := do
  match ← getIndex name with
  | some h => .onSecond (h.invoke op positional named)
  | none => .fail (.fault .noMember)

def deleteByHandle (name : Value) : Run Value := do
  match ← getIndex name with
  | some h => deleteIndex (.handle h)
  | none => deleteIndex (.name .null)

def perform : Command → Run Outcome
  | .init config => do init config; return .done
  | .run => do run; return .done
  | .shutdown => do shutdown; return .done
  | .client => do return .client (← client)
  | .name => return .text storeName
  | .settings => do return .settings (← get).settings
  | .health => do return .health (← health)
  | .sweep => do sweep; return .done
  | .advance seconds => do advance seconds; return .done
  | .getIndex name => do return .handle (← getIndex name)
  | .createIndex name body => do return .handle (← createIndex name body)
  | .deleteIndex name => do return .value (← deleteIndex (.name name))
  | .deleteByHandle name => do return .value (← deleteByHandle name)
  | .existsIndex name parameters => do return .flag (← existsIndex name parameters)
  | .listIndexes true parameters => do return .names (← listNames parameters)
  | .listIndexes false parameters => do return .handles (← listIndexes parameters)
  | .onIndex name op positional named => do return .answer (← invoke name op positional named)

end Store

inductive Command.Form where
  | init | getIndex | createIndex | deleteIndex | existsIndex | listIndexes

namespace Command

def Form.parameters : Form → List Parameter
  | .init => [.optional "config"]
  | .getIndex | .deleteIndex | .existsIndex => [.required "name"]
  | .createIndex => [.required "name", .optional "body"]
  | .listIndexes => [⟨"raw_names", some (.bool false)⟩]

def Form.isOpen : Form → Bool
  | .existsIndex | .listIndexes => true
  | _ => false

def ofArguments? (form : Form) (positional : List Value) (named : Entries) : Option Command := do
  let (values, more) ← Parameter.bindOpen form.parameters positional named
  if !form.isOpen && !more.isEmpty then none
  else match form, values with
    | .init, [config] => some (.init (.value config))
    | .getIndex, [index] => some (.getIndex index)
    | .createIndex, [index, body] => some (.createIndex index body)
    | .deleteIndex, [index] => some (.deleteIndex index)
    | .existsIndex, [index] => some (.existsIndex index more)
    | .listIndexes, [rawNames] => some (.listIndexes rawNames.truthy more)
    | _, _ => none

end Command
end SearchStore
