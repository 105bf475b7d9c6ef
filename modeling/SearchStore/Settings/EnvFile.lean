import SearchStore.Text.Blank
namespace SearchStore.EnvFile

structure Binding where
  name : String
  value : Option String

def isNewline (c : Char) : Bool := c = '\n' || c = '\r'

def isLineBlank (c : Char) : Bool := Text.isBlank c && !isNewline c

def skipBlanks (cs : List Char) : List Char := cs.dropWhile isLineBlank

def exportWord : List Char := "export".toList

def skipExport (cs : List Char) : List Char :=
  match exportWord.isPrefixOf cs, cs.drop exportWord.length with
  | true, c :: rest => if isLineBlank c then skipBlanks (c :: rest) else cs
  | _, _ => cs

-- What follows the closing quote, and what stands before it. A quote behind a backslash closes the
-- text only when no other quote does.
def quotedBody (quote : Char) : List Char → Option (List Char × List Char)
  | [] => none
  | '\\' :: c :: rest =>
    if c = quote then
      match quotedBody quote rest with
      | some (body, behind) => some ('\\' :: c :: body, behind)
      | none => some (['\\'], rest)
    else (quotedBody quote (c :: rest)).map fun (body, behind) => ('\\' :: body, behind)
  | c :: rest =>
    if c = quote then some ([], rest)
    else (quotedBody quote rest).map fun (body, behind) => (c :: body, behind)

def singleEscape? : Char → Option Char
  | '\\' => some '\\'
  | '\'' => some '\''
  | _ => none

def doubleEscape? : Char → Option Char
  | '\\' => some '\\'
  | '\'' => some '\''
  | '"' => some '"'
  | 'a' => some '\x07'
  | 'b' => some '\x08'
  | 'f' => some '\x0c'
  | 'n' => some '\n'
  | 'r' => some '\r'
  | 't' => some '\t'
  | 'v' => some '\x0b'
  | _ => none

def unescape (escape? : Char → Option Char) : List Char → List Char
  | [] => []
  | '\\' :: c :: rest =>
    match escape? c with
    | some plain => plain :: unescape escape? rest
    | none => '\\' :: unescape escape? (c :: rest)
  | c :: rest => c :: unescape escape? rest

def cutComment : List Char → List Char
  | [] => []
  | c :: rest =>
    if Text.isBlank c && (rest.dropWhile Text.isBlank).head? = some '#' then []
    else c :: cutComment rest

-- A piece of the file that was read, or where reading it failed, and the text behind either.
inductive Scan (α : Type) where
  | read (found : α) (rest : List Char)
  | failed (rest : List Char)

def unquotedName (cs : List Char) : Scan (Option String) :=
  let ends (c : Char) : Bool := c = '=' || c = '#' || Text.isBlank c
  match cs.takeWhile (!ends ·) with
  | [] => .failed cs
  | name => .read (some (String.ofList name)) (cs.dropWhile (!ends ·))

def quotedName (cs : List Char) : Scan (Option String) :=
  match (cs.drop 1).takeWhile (· ≠ '\''), (cs.drop 1).dropWhile (· ≠ '\'') with
  | c :: name, _ :: rest => .read (some (String.ofList (c :: name))) rest
  | _, _ => .failed cs

def name (cs : List Char) : Scan (Option String) :=
  match cs with
  | '#' :: _ => .read none cs
  | '\'' :: _ => quotedName cs
  | _ => unquotedName cs

def value (cs : List Char) : Scan String :=
  let quoted (quote : Char) (escape? : Char → Option Char) (rest : List Char) : Scan String :=
    match quotedBody quote rest with
    | some (body, behind) => .read (String.ofList (unescape escape? body)) behind
    | none => .failed cs
  match cs with
  | '\'' :: rest => quoted '\'' singleEscape? rest
  | '"' :: rest => quoted '"' doubleEscape? rest
  | _ =>
    let line := cs.takeWhile (!isNewline ·)
    .read (String.ofList (Text.trimRight Text.isBlank (cutComment line)))
      (cs.dropWhile (!isNewline ·))

def lineEnd (cs : List Char) : Scan Unit :=
  let behind := match skipBlanks cs with
    | '#' :: rest => rest.dropWhile (!isNewline ·)
    | rest => rest
  match behind with
  | [] => .read () []
  | c :: rest => if isNewline c then .read () rest else .failed cs

def assigned (cs : List Char) : Scan (Option String) :=
  match skipBlanks cs with
  | '=' :: rest =>
    match value (skipBlanks rest) with
    | .read text rest => .read (some text) rest
    | .failed rest => .failed rest
  | rest => .read none rest

def binding (cs : List Char) : Scan (Option Binding) :=
  match name (skipExport cs) with
  | .failed rest => .failed rest
  | .read found rest =>
    match assigned rest with
    | .failed rest => .failed rest
    | .read text rest =>
      match lineEnd rest with
      | .failed rest => .failed rest
      | .read _ rest => .read (found.map fun name => ⟨name, text⟩) rest

def skipLine (cs : List Char) : List Char := (cs.dropWhile (!isNewline ·)).drop 1

-- Every step leaves fewer characters, so the length of the text is enough fuel.
def bindingsFrom : Nat → List Char → List Binding
  | 0, _ => []
  | fuel + 1, cs =>
    match cs.dropWhile Text.isBlank with
    | [] => []
    | cs =>
      match binding cs with
      | .read found rest => found.toList ++ bindingsFrom fuel rest
      | .failed rest => bindingsFrom fuel (skipLine rest)

def plainNewlines : List Char → List Char
  | [] => []
  | '\r' :: '\n' :: rest => '\n' :: plainNewlines rest
  | c :: rest => (if c = '\r' then '\n' else c) :: plainNewlines rest

def bindings (text : String) : List Binding :=
  let cs := plainNewlines text.toList
  bindingsFrom (cs.length + 1) cs

def reference? (cs : List Char) : Option (String × String × List Char) :=
  let ends (c : Char) : Bool := c = '\x7d' || c = ':'
  let name := String.ofList (cs.takeWhile (!ends ·))
  match cs.dropWhile (!ends ·) with
  | '\x7d' :: rest => some (name, "", rest)
  | ':' :: '-' :: more =>
    match more.dropWhile (· ≠ '\x7d') with
    | _ :: rest => some (name, String.ofList (more.takeWhile (· ≠ '\x7d')), rest)
    | [] => none
  | _ => none

-- References are written in braces behind a dollar sign. `lookUp` says whether a name is known, and
-- with which value.
def resolve (lookUp : String → Option (Option String)) : Nat → List Char → List Char
  | 0, cs => cs
  | _ + 1, [] => []
  | fuel + 1, '$' :: '\x7b' :: rest =>
    match reference? rest with
    | some (name, fallback, rest) =>
      let found := match lookUp name with
        | some text => text.getD ""
        | none => fallback
      found.toList ++ resolve lookUp fuel rest
    | none => '$' :: resolve lookUp fuel ('\x7b' :: rest)
  | fuel + 1, c :: rest => c :: resolve lookUp fuel rest

def find? (bindings : List Binding) (name : String) : Option (Option String) :=
  (bindings.find? fun b => b.name == name).map Binding.value

def resolved (lookUp : String → Option (Option String)) (text : String) : String :=
  String.ofList (resolve lookUp text.toList.length text.toList)

def put : List Binding → Binding → List Binding
  | [], new => [new]
  | b :: rest, new => if b.name == new.name then new :: rest else b :: put rest new

def read (around : List Binding) (text : String) : List Binding :=
  (bindings text).foldl (fun known b =>
    let lookUp (name : String) := (find? known name).or (find? around name)
    put known ⟨b.name, b.value.map (resolved lookUp)⟩) []

end SearchStore.EnvFile
