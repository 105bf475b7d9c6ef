import SearchStore.Value.Basic
namespace SearchStore.Entries

def ofFields (fields : List (String × Value)) : Entries :=
  fields.map fun field => (.str field.1, field.2)

def value? : Entries → Value → Option Value
  | [], _ => none
  | (k, v) :: rest, key => if k.sameKey key then some v else value? rest key

def get? (entries : Entries) (name : String) : Option Value := value? entries (.str name)

def get (entries : Entries) (name : String) : Value := (get? entries name).getD .null

def has (entries : Entries) (name : String) : Bool := (get? entries name).isSome

def put : Entries → Value → Value → Entries
  | [], key, new => [(key, new)]
  | (k, v) :: rest, key, new =>
    if k.sameKey key then (k, new) :: rest else (k, v) :: put rest key new

def set (entries : Entries) (name : String) (new : Value) : Entries := put entries (.str name) new

def setDefault (entries : Entries) (name : String) (new : Value) : Entries :=
  if has entries name then entries else set entries name new

def without : Entries → String → Entries
  | [], _ => []
  | (k, v) :: rest, name =>
    if k.sameKey (.str name) then rest else (k, v) :: without rest name

def merge (entries more : Entries) : Entries :=
  more.foldl (fun acc entry => put acc entry.1 entry.2) entries

def hasTextKeys (entries : Entries) : Bool := entries.all fun entry => entry.1.isText

end SearchStore.Entries

namespace SearchStore

namespace Entries

mutual
-- Where both sides hold a mapping they are joined; anywhere else the upper side wins.
def overlay (lower : Value) : Value → Value
  | .map upper =>
    match lower with
    | .map entries => .map (overlayAll entries upper)
    | _ => .map upper
  | upper => upper
def overlayAll (entries : Entries) : List (Value × Value) → Entries
  | [] => entries
  | (key, new) :: rest =>
    match value? entries key with
    | some old => overlayAll (put entries key (overlay old new)) rest
    | none => overlayAll (put entries key new) rest
end

-- Writes a value under a path of names, making the mappings on the way. A value that is no mapping
-- blocks the way.
def setAt (entries : Entries) (new : Value) : List String → Entries
  | [] => entries
  | [name] => set entries name new
  | name :: rest =>
    match get? entries name with
    | some (.map inner) => set entries name (.map (setAt inner new rest))
    | some _ => entries
    | none => set entries name (.map (setAt [] new rest))

end Entries

end SearchStore
