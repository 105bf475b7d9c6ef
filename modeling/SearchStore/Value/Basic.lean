import SearchStore.Number.Binary64
namespace SearchStore

-- A mapping keeps its entries in the order they were written; its keys may be any value that can
-- be a key.
inductive Value where
  | null
  | bool (b : Bool)
  | int (n : Int)
  | float (x : Binary64)
  | str (s : String)
  | list (items : List Value)
  | tuple (items : List Value)
  | map (entries : List (Value × Value))
deriving Repr, Inhabited

abbrev Entries := List (Value × Value)

inductive Number where
  | whole (n : Int)
  | real (x : Binary64)
deriving DecidableEq, Repr

def Number.same : Number → Number → Bool
  | .whole a, .whole b => a == b
  | .whole a, .real x | .real x, .whole a => x.rat? == some (a : Rat)
  | .real x, .real y => x.same y

namespace Value

def number? : Value → Option Number
  | .bool b => some (.whole (if b then 1 else 0))
  | .int n => some (.whole n)
  | .float x => some (.real x)
  | _ => none

def truthy : Value → Bool
  | .null => false
  | .bool b => b
  | .int n => n != 0
  | .float x => !x.isZero
  | .str s => !s.isEmpty
  | .list items | .tuple items => !items.isEmpty
  | .map entries => !entries.isEmpty

def orElse (v fallback : Value) : Value := if v.truthy then v else fallback

def isNull : Value → Bool
  | .null => true
  | _ => false

def isMapping : Value → Bool
  | .map _ => true
  | _ => false

def isText : Value → Bool
  | .str _ => true
  | _ => false

def text? : Value → Option String
  | .str s => some s
  | _ => none

def entries? : Value → Option Entries
  | .map entries => some entries
  | _ => none

-- What the engine accepts as a document id. A truth value is none.
def isIdentifier : Value → Bool
  | .str _ | .int _ | .float _ => true
  | _ => false

mutual
-- Two keys name the same entry: numbers by value, texts and tuples part by part.
def sameKey : Value → Value → Bool
  | .null, .null => true
  | .str a, .str b => a == b
  | .tuple xs, .tuple ys => sameKeys xs ys
  | a, b =>
    match a.number?, b.number? with
    | some x, some y => x.same y
    | _, _ => false
def sameKeys : List Value → List Value → Bool
  | [], [] => true
  | x :: xs, y :: ys => sameKey x y && sameKeys xs ys
  | _, _ => false
end

mutual
def isKey : Value → Bool
  | .list _ | .map _ => false
  | .tuple items => areKeys items
  | _ => true
def areKeys : List Value → Bool
  | [] => true
  | x :: xs => isKey x && areKeys xs
end

def record (fields : List (String × Value)) : Value :=
  .map (fields.map fun field => (.str field.1, field.2))

end Value
end SearchStore
