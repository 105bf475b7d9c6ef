import SearchStore.Value.Basic
import SearchStore.Number.Literal
namespace SearchStore.Yaml

def nullWords : List String := ["", "~", "null", "Null", "NULL"]

def trueWords : List String :=
  ["yes", "Yes", "YES", "true", "True", "TRUE", "on", "On", "ON"]

def falseWords : List String :=
  ["no", "No", "NO", "false", "False", "FALSE", "off", "Off", "OFF"]

def partsFrom (separator : Char) (current : List Char) : List Char → List (List Char)
  | [] => [current.reverse]
  | c :: rest =>
    if c = separator then current.reverse :: partsFrom separator [] rest
    else partsFrom separator (c :: current) rest

def parts (separator : Char) (cs : List Char) : List (List Char) := partsFrom separator [] cs

def ofDigits (base : Nat) (digits : List Nat) : Nat :=
  digits.foldl (fun n d => base * n + d) 0

def digit? (base : Nat) (c : Char) : Option Nat :=
  (Literal.hexDigit? c).bind fun d => if d < base then some d else none

def digits? (base : Nat) (cs : List Char) : Option (List Nat) :=
  match cs.filter (· ≠ '_') with
  | [] => none
  | digits => digits.mapM (digit? base)

def sixtieth? (cs : List Char) : Option Nat :=
  if 2 < cs.length then none
  else (digits? 10 cs).bind fun digits =>
    let n := ofDigits 10 digits
    if n < 60 && !cs.contains '_' then some n else none

def sixties? (cs : List Char) : Option Nat :=
  match parts ':' cs with
  | [] => none
  | first :: later => do
    let first ← digits? 10 first
    let later ← later.mapM sixtieth?
    return later.foldl (fun n part => 60 * n + part) (ofDigits 10 first)

def magnitude? : List Char → Option Nat
  | ['0'] => some 0
  | '0' :: 'b' :: rest => (digits? 2 rest).map (ofDigits 2)
  | '0' :: 'x' :: rest => (digits? 16 rest).map (ofDigits 16)
  | '0' :: rest => (digits? 8 ('0' :: rest)).map (ofDigits 8)
  | c :: rest => if c.isDigit then sixties? (c :: rest) else none
  | [] => none

def whole? (cs : List Char) : Option Int :=
  let (negative, rest) := Literal.signed cs
  (magnitude? rest).map fun n => if negative then -(n : Int) else (n : Int)

def isGroupedDigit (c : Char) : Bool := c.isDigit || c = '_'

def startsWithDigit : List Char → Bool
  | c :: _ => c.isDigit
  | [] => false

def isExponent : List Char → Bool
  | [] => true
  | mark :: sign :: rest =>
    (mark = 'e' || mark = 'E') && (sign = '+' || sign = '-') && !rest.isEmpty && rest.all Char.isDigit
  | _ => false

def isDecimal (signed : Bool) (cs : List Char) : Bool :=
  let before := cs.takeWhile isGroupedDigit
  match cs.dropWhile isGroupedDigit with
  | '.' :: behind =>
    let after := behind.takeWhile isGroupedDigit
    isExponent (behind.dropWhile isGroupedDigit) &&
      (startsWithDigit before || (before.isEmpty && !signed && startsWithDigit after))
  | _ => false

def infinities : List String := [".inf", ".Inf", ".INF"]

def nans : List String := [".nan", ".NaN", ".NAN"]

def decimal? (cs : List Char) : Option Binary64 :=
  let (negative, rest) := Literal.signed cs
  if infinities.contains (String.ofList rest) then some (.infinite negative)
  else if nans.contains (String.ofList cs) then some .nan
  else if isDecimal (cs.length ≠ rest.length) rest then Literal.double? (cs.filter (· ≠ '_'))
  else none

def isSixtyDecimal (cs : List Char) : Bool :=
  let before := (Literal.signed cs).2.takeWhile (· ≠ '.')
  match (Literal.signed cs).2.dropWhile (· ≠ '.') with
  | '.' :: after =>
    startsWithDigit before && before.contains ':' && (sixties? before).isSome && after.all isGroupedDigit
  | _ => false

def startsDated (cs : List Char) : Bool :=
  (cs.take 4).length = 4 && (cs.take 4).all Char.isDigit && cs[4]? = some '-' && startsWithDigit (cs.drop 5)

-- What a word without quotes stands for. Words that may stand for something else than a value are refused.
def plain? (cs : List Char) : Option Value :=
  let word := String.ofList cs
  if word = "<<" || word = "=" || startsDated cs || isSixtyDecimal cs then none
  else if nullWords.contains word then some .null
  else if trueWords.contains word then some (.bool true)
  else if falseWords.contains word then some (.bool false)
  else match decimal? cs, whole? cs with
    | some x, _ => some (.float x)
    | none, some n => some (.int n)
    | none, none => some (.str word)

def isGap (c : Char) : Bool := c = ' ' || c = '\t' || c = '\n'

def trimLeft (cs : List Char) : List Char := cs.dropWhile isGap

def trimRight (cs : List Char) : List Char := (cs.reverse.dropWhile isGap).reverse

-- A single line break counts as a space; of several in a row the first does not count.
def lineGap : Nat → List Char
  | 0 => [' ']
  | blanks => List.replicate blanks '\n'

def foldFrom (done : List Char) (blanks : Nat) : List (List Char) → List Char
  | [] => done
  | [last] => done ++ lineGap blanks ++ trimLeft last
  | line :: rest =>
    match trimRight (trimLeft line) with
    | [] => foldFrom done (blanks + 1) rest
    | text => foldFrom (done ++ lineGap blanks ++ text) 0 rest

def fold (cs : List Char) : List Char :=
  match parts '\n' cs with
  | first :: next :: rest => foldFrom (trimRight first) 0 (next :: rest)
  | _ => cs

def escape? : Char → Option Char
  | '0' => some '\x00'
  | 'a' => some '\x07'
  | 'b' => some '\x08'
  | 't' | '\t' => some '\t'
  | 'n' => some '\n'
  | 'v' => some '\x0b'
  | 'f' => some '\x0c'
  | 'r' => some '\r'
  | 'e' => some '\x1b'
  | ' ' => some ' '
  | '"' => some '"'
  | '\\' => some '\\'
  | '/' => some '/'
  | 'N' => some '\u0085'
  | '_' => some '\u00a0'
  | 'L' => some '\u2028'
  | 'P' => some '\u2029'
  | _ => none

def charOfHex? (cs : List Char) : Option Char := do
  let code := ofDigits 16 (← cs.mapM Literal.hexDigit?)
  if h : code.isValidChar then some (Char.ofNatAux code h) else none

def unescape : List Char → Option (List Char)
  | [] => some []
  | '\\' :: 'x' :: a :: b :: rest => do return (← charOfHex? [a, b]) :: (← unescape rest)
  | '\\' :: 'u' :: a :: b :: c :: d :: rest => do
    return (← charOfHex? [a, b, c, d]) :: (← unescape rest)
  | '\\' :: 'U' :: a :: b :: c :: d :: e :: f :: g :: h :: rest => do
    return (← charOfHex? [a, b, c, d, e, f, g, h]) :: (← unescape rest)
  | '\\' :: c :: rest => do return (← escape? c) :: (← unescape rest)
  | c :: rest => if c = '\\' then none else (unescape rest).map (c :: ·)

def singleQuoted (done : List Char) : List Char → Option (List Char × List Char)
  | [] => none
  | '\'' :: '\'' :: rest => singleQuoted ('\'' :: done) rest
  | c :: rest => if c = '\'' then some (done.reverse, rest) else singleQuoted (c :: done) rest

def doubleQuoted (done : List Char) : List Char → Option (List Char × List Char)
  | [] => none
  | '\\' :: c :: rest => doubleQuoted (c :: '\\' :: done) rest
  | c :: rest => if c = '"' then some (done.reverse, rest) else doubleQuoted (c :: done) rest

def quoted? : List Char → Option (List Char × List Char)
  | '\'' :: rest => (singleQuoted [] rest).map fun (body, rest) => (fold body, rest)
  | '"' :: rest => (doubleQuoted [] rest).bind fun (body, rest) =>
      (unescape (fold body)).map fun text => (text, rest)
  | _ => none

def startsQuoted : List Char → Bool
  | c :: _ => c = '\'' || c = '"'
  | [] => false

def indicators : List Char := "-?:,[]\x7b\x7d#&*!|>'\"%@`".toList

def startsPlain (inBrackets : Bool) : List Char → Bool
  | [] => false
  | c :: rest =>
    let followed := match rest with
      | [] => false
      | next :: _ => !isGap next
    if isGap c then false
    else !indicators.contains c ||
      (followed && (c = '-' || (!inBrackets && (c = '?' || c = ':'))))

def brackets : List Char := ",[]\x7b\x7d".toList

def endsPlain (inBrackets : Bool) (cs : List Char) : Bool :=
  match cs with
  | [] => true
  | ':' :: [] => true
  | ':' :: next :: _ => isGap next || (inBrackets && brackets.contains next)
  | c :: _ => inBrackets && (c = '?' || brackets.contains c)

def endsInGap : List Char → Bool
  | c :: _ => isGap c
  | [] => false

-- Tabs stay, so that a reader can refuse them.
def dropSpaces (cs : List Char) : List Char := cs.dropWhile fun c => c = ' ' || c = '\n'

-- The plain text in front, up to a colon, a comment or, inside brackets, a bracket or comma. The
-- text before it is reversed.
def plainRun (inBrackets : Bool) (done : List Char) : List Char → List Char × List Char
  | [] => ((dropSpaces done).reverse, [])
  | c :: rest =>
    if endsPlain inBrackets (c :: rest) || (c = '#' && endsInGap done) then
      ((dropSpaces done).reverse, c :: rest)
    else plainRun inBrackets (c :: done) rest

end SearchStore.Yaml
