import SearchStore.Yaml.Scalar
import SearchStore.Value.Entries
namespace SearchStore.Yaml

def skipFrom (inComment : Bool) : List Char → List Char
  | [] => []
  | c :: rest =>
    if c = '\n' then skipFrom false rest
    else if inComment || c = '#' then skipFrom true rest
    else if c = ' ' then skipFrom false rest
    else c :: rest

-- Past white space and comments. A tab is no white space here.
def skip (cs : List Char) : List Char := skipFrom false cs

def bracketScalar? (cs : List Char) : Option (Value × List Char) :=
  if startsQuoted cs then
    (quoted? cs).map fun (text, rest) => (.str (String.ofList text), rest)
  else if startsPlain true cs then
    let (text, rest) := plainRun true [] cs
    if text.contains '\t' then none else (plain? (fold text)).map fun v => (v, rest)
  else none

def behindColon (read : List Char → Option (Value × List Char)) (cs : List Char) :
    Option (Value × List Char) :=
  match skip cs with
  | [] => none
  | c :: rest => if c = ',' || c = ']' || c = '\x7d' then some (.null, c :: rest) else read (c :: rest)

-- A pair on its own inside a sequence is a mapping of one entry.
def pairOr (read : List Char → Option (Value × List Char)) (item : Value) (cs : List Char) :
    Option (Value × List Char) :=
  match skip cs with
  | ':' :: rest =>
    if item.isKey then
      (behindColon read rest).map fun (value, rest) => (.map [(item, value)], rest)
    else none
  | rest => some (item, rest)

-- Of two calls one spends a character, so twice the length of the text is enough fuel.
mutual
def flow? : Nat → List Char → Option (Value × List Char)
  | 0, _ => none
  | _ + 1, [] => none
  | fuel + 1, c :: rest =>
    if c = '[' then (flowItems? fuel (skip rest)).map fun (items, rest) => (.list items, rest)
    else if c = '\x7b' then
      (flowMembers? fuel [] (skip rest)).map fun (entries, rest) => (.map entries, rest)
    else bracketScalar? (c :: rest)
def flowItems? : Nat → List Char → Option (List Value × List Char)
  | 0, _ => none
  | _ + 1, [] => none
  | fuel + 1, c :: rest =>
    if c = ']' then some ([], rest)
    else do
      let (item, rest) ← flow? fuel (c :: rest)
      let (item, rest) ← pairOr (flow? fuel) item rest
      match skip rest with
      | ',' :: rest => do
        let (items, rest) ← flowItems? fuel (skip rest)
        return (item :: items, rest)
      | ']' :: rest => return ([item], rest)
      | _ => none
def flowMembers? : Nat → Entries → List Char → Option (Entries × List Char)
  | 0, _, _ => none
  | _ + 1, _, [] => none
  | fuel + 1, done, c :: rest =>
    if c = '\x7d' then some (done, rest)
    else do
      let (key, rest) ← flow? fuel (c :: rest)
      if !key.isKey then none
      else
        let (value, rest) ← match skip rest with
          | ':' :: rest => behindColon (flow? fuel) rest
          | rest => some (.null, rest)
        let done := Entries.put done key value
        match skip rest with
        | ',' :: rest => flowMembers? fuel done (skip rest)
        | '\x7d' :: rest => return (done, rest)
        | _ => none
end

end SearchStore.Yaml
