import SearchStore.Log.Record
namespace SearchStore

structure Event where
  level : Int
  logger : String
  message : Value
  details : Entries := []
  failure : Option Failure := none

inductive Line where
  | object (entries : Entries)
  | text (s : String)

namespace Value

def objectName? : Value → Option String
  | .str s => some s
  | .null => some "null"
  | .bool b => some (if b then "true" else "false")
  | .int n => some (toString n)
  | .float x => some (Shortest.text Shortest.document x)
  | _ => none

mutual
def objectForm? : Value → Option Value
  | .list items | .tuple items => (objectItems? items).map .list
  | .map entries => (objectEntries? entries).map fun entries => .map (Entries.merge [] entries)
  | v => some v
def objectItems? : List Value → Option (List Value)
  | [] => some []
  | item :: rest => do return (← objectForm? item) :: (← objectItems? rest)
def objectEntries? : List (Value × Value) → Option (List (Value × Value))
  | [] => some []
  | (key, v) :: rest => do
    return (.str (← objectName? key), ← objectForm? v) :: (← objectEntries? rest)
end

end Value

def Failure.described (f : Failure) : String :=
  let kind := match f with
    | .store kind .. => kind.name
    | .client kind .. | .interrupt kind .. => kind
    | _ => "Exception"
  let text := f.evidence.text
  if text.isEmpty then kind else kind ++ ": " ++ text

namespace Event

def head (e : Event) : List (String × Value) :=
  [("event", e.message), ("level", .str (Level.nameOf e.level)), ("logger", .str e.logger)]

-- Details of these names are not written, and those of the event's own parts are replaced by them.
def unwritten : List String :=
  ["timestamp", "exc_info", "stack_info", "event", "level", "logger"]

def ownDetails (e : Event) : Entries := unwritten.foldl Entries.without e.details

def object? (e : Event) : Option Entries :=
  let failure := (e.failure.map fun f => ("exception", Value.str f.described)).toList
  Value.objectEntries? (Entries.merge e.ownDetails (Entries.ofFields (e.head ++ failure)))

def padded (width : Nat) (cs : List Char) : List Char :=
  cs ++ List.replicate (width - cs.length) ' '

def isSeparator (c : Char) : Bool := " \t=\r\n\"'".toList.contains c

-- Only texts in which something could be mistaken for the form of the line are put in quotes.
def shownDetail : Value → String
  | .str s => if s.toList.any isSeparator then Text.quoted s else s
  | v => v.shown

def detailTexts (details : Entries) : List String :=
  let byName := details.mergeSort fun a b => a.1.display ≤ b.1.display
  byName.map fun entry => entry.1.display ++ "=" ++ shownDetail entry.2

def heading (e : Event) : String :=
  let level := String.ofList (padded 9 (Level.nameOf e.level).toList)
  let message := String.ofList (padded 30 e.message.display.toList)
  " ".intercalate (("[" ++ level ++ "]") :: message :: ("[" ++ e.logger ++ "]") ::
    detailTexts e.ownDetails)

def linesFrom (current : List Char) : List Char → List (List Char)
  | [] => [current.reverse]
  | c :: rest => if c = '\n' then current.reverse :: linesFrom [] rest else linesFrom (c :: current) rest

def texts (e : Event) : List String :=
  let failure := (e.failure.map Failure.described).toList
  ("\n".intercalate (e.heading :: failure)).toList |> linesFrom [] |>.map fun line =>
    String.ofList (Text.trimRight Text.isBlank line)

end Event
end SearchStore
