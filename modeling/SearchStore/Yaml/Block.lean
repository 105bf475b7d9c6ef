import SearchStore.Yaml.Flow
import SearchStore.Text.Blank
namespace SearchStore.Yaml

structure Line where
  indent : Nat
  text : List Char

namespace Line

def isSpace (c : Char) : Bool := c = ' '

def ofChars (cs : List Char) : Line := ⟨(cs.takeWhile isSpace).length, cs.dropWhile isSpace⟩

def toChars (l : Line) : List Char := List.replicate l.indent ' ' ++ l.text

def saysNothing (cs : List Char) : Bool :=
  match cs with
  | [] => true
  | c :: _ => c = '#'

def isVoid (l : Line) : Bool := saysNothing l.text

def behindMark (l : Line) : Line :=
  let text := l.text.drop 1
  ⟨l.indent + 1 + (text.takeWhile isSpace).length, text.dropWhile isSpace⟩

end Line

def isItem : List Char → Bool
  | ['-'] => true
  | '-' :: c :: _ => isGap c
  | _ => false

def endsKey : List Char → Bool
  | [] => true
  | c :: _ => isGap c

def key? (cs : List Char) : Option (Value × List Char) :=
  if startsQuoted cs then
    match quoted? cs with
    | some (text, rest) =>
      match rest.dropWhile Line.isSpace with
      | ':' :: behind =>
        if endsKey behind then some (.str (String.ofList text), behind) else none
      | _ => none
    | none => none
  else
    match cs with
    | ':' :: behind => if endsKey behind then some (.null, behind) else plainKey? cs
    | _ => plainKey? cs
where
  plainKey? (cs : List Char) : Option (Value × List Char) :=
    if startsPlain false cs then
      match plainRun false [] cs with
      | (text, ':' :: behind) => if text.contains '\t' then none else (plain? text).map fun v => (v, behind)
      | _ => none
    else none

-- A plain text goes on over lines that are indented far enough, up to a comment.
def continued? (least : Nat) (done : List Char) (blanks : Nat) :
    List Line → Option (List Char × List Line)
  | [] => some (done, [])
  | l :: rest =>
    if l.text.isEmpty then continued? least done (blanks + 1) rest
    else if l.indent < least || l.isVoid then some (done, l :: rest)
    else
      let (text, behind) := plainRun false [] l.text
      let done := done ++ List.replicate (blanks + 1) '\n' ++ text
      match behind with
      | [] => continued? least done 0 rest
      | '#' :: _ => some (done, rest)
      | _ => none

def startsBracket : List Char → Bool
  | c :: _ => c = '[' || c = '\x7b'
  | [] => false

def linesBehind (lines : List Line) (cs : List Char) : Option (List Line) :=
  let sameLine := (cs.takeWhile (· ≠ '\n')).dropWhile Line.isSpace
  if Line.saysNothing sameLine then some (lines.drop (lines.length - cs.count '\n')) else none

def inline? (least : Nat) (text : List Char) (lines : List Line) : Option (Value × List Line) :=
  if startsBracket text || startsQuoted text then do
    let cs := text ++ lines.flatMap fun l => '\n' :: l.toChars
    let (value, rest) ← flow? (2 * cs.length + 2) cs
    return (value, ← linesBehind lines rest)
  else if startsPlain false text then do
    let (first, behind) := plainRun false [] text
    let (whole, rest) ← match behind with
      | [] => continued? least first 0 lines
      | '#' :: _ => some (first, lines)
      | _ => none
    if whole.contains '\t' then none else return (← plain? (fold whole), rest)
  else none

-- Of three calls one spends a character, so three times the length of the text is enough fuel.
mutual
def block? : Nat → Nat → List Line → Option (Value × List Line)
  | 0, _, _ => none
  | fuel + 1, least, lines =>
    match lines.dropWhile Line.isVoid with
    | [] => some (.null, [])
    | l :: rest =>
      if l.indent < least then some (.null, l :: rest)
      else if isItem l.text then
        (blockItems? fuel l.indent (l :: rest)).map fun (items, rest) => (.list items, rest)
      else if (key? l.text).isSome then
        (blockMembers? fuel l.indent [] (l :: rest)).map fun (entries, rest) => (.map entries, rest)
      else inline? least l.text rest
def blockItems? : Nat → Nat → List Line → Option (List Value × List Line)
  | 0, _, _ => none
  | fuel + 1, column, lines =>
    match lines.dropWhile Line.isVoid with
    | [] => some ([], [])
    | l :: rest =>
      if l.indent = column && isItem l.text then do
        let (item, rest) ← block? fuel (column + 1) (l.behindMark :: rest)
        let (items, rest) ← blockItems? fuel column rest
        return (item :: items, rest)
      else some ([], l :: rest)
def blockMembers? : Nat → Nat → Entries → List Line → Option (Entries × List Line)
  | 0, _, _, _ => none
  | fuel + 1, column, done, lines =>
    match lines.dropWhile Line.isVoid with
    | [] => some (done, [])
    | l :: rest =>
      match key? l.text with
      | none => some (done, l :: rest)
      | some (key, behind) =>
        if l.indent ≠ column then some (done, l :: rest)
        else do
          let (value, rest) ← blockValue? fuel column (behind.dropWhile Line.isSpace) rest
          blockMembers? fuel column (Entries.put done key value) rest
-- The value of a key in the given column. The items of a sequence may stand in that column too.
def blockValue? : Nat → Nat → List Char → List Line → Option (Value × List Line)
  | 0, _, _, _ => none
  | fuel + 1, column, behind, lines =>
    if !Line.saysNothing behind then inline? (column + 1) behind lines
    else
      match lines.dropWhile Line.isVoid with
      | [] => some (.null, [])
      | l :: rest =>
        if l.indent = column && isItem l.text then
          (blockItems? fuel column (l :: rest)).map fun (items, rest) => (.list items, rest)
        else block? fuel (column + 1) (l :: rest)
end

def isReadable (c : Char) : Bool :=
  c = '\t' || c = '\n' || c = '\r' || (32 ≤ c.toNat && c.toNat < 127) || c.toNat = 133 ||
    (160 ≤ c.toNat && c.toNat ≠ 65534 && c.toNat ≠ 65535)

def isMark (mark : Char) (l : Line) : Bool :=
  l.indent = 0 && l.text.take 3 = [mark, mark, mark] && endsKey (l.text.drop 3)

def isBoundary (l : Line) : Bool := isMark '-' l || isMark '.' l

def endsHere : List Line → Bool
  | [] => true
  | l :: rest => isMark '.' l && Line.saysNothing ((l.text.drop 3).dropWhile Line.isSpace) &&
      rest.all Line.isVoid

def body? (fuel : Nat) (lines : List Line) : Option Value :=
  match block? fuel 0 lines with
  | some (value, rest) => if rest.all Line.isVoid then some value else none
  | none => none

def opened? (fuel : Nat) (text : List Char) (lines : List Line) : Option Value :=
  if Line.saysNothing text then body? fuel lines
  else match inline? 0 text lines with
    | some (value, rest) => if rest.all Line.isVoid then some value else none
    | none => none

def document? (fuel : Nat) (lines : List Line) : Option Value :=
  match lines.dropWhile Line.isVoid with
  | [] => some .null
  | l :: rest =>
    let (opened, inside) := if isMark '-' l then (some l, rest) else (none, l :: rest)
    let outside := inside.dropWhile (!isBoundary ·)
    if endsHere outside then
      let inside := inside.takeWhile (!isBoundary ·)
      match opened with
      | some l => opened? fuel ((l.text.drop 3).dropWhile Line.isSpace) inside
      | none => body? fuel inside
    else none

-- Only the simple part of the notation is read; what may stand for anything else is refused. An empty file holds null.
def simple? (text : String) : Option Value :=
  let cs := match text.toList with
    | '\ufeff' :: rest => rest
    | cs => cs
  if cs.all isReadable then
    document? (3 * cs.length + 4) ((Text.lines cs).map Line.ofChars)
  else none

end SearchStore.Yaml
