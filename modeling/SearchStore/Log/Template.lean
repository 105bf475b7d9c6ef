import SearchStore.Value.Access
import SearchStore.Value.Text
import SearchStore.Number.Shortest
namespace SearchStore.Template

-- What is left to be written. A single mapping gives its entries by name.
structure Supply where
  named : Option Entries
  next : List Value

namespace Supply

def ofArguments : List Value → Supply
  | [.map (entry :: more)] => ⟨some (entry :: more), [.map (entry :: more)]⟩
  | arguments => ⟨none, arguments⟩

def take (s : Supply) : Except Fault (Value × Supply) :=
  match s.next with
  | [] => .error .wrongKind
  | v :: rest => .ok (v, { s with next := rest })

def takeNamed (s : Supply) (name : String) : Except Fault Supply :=
  match s.named with
  | none => .error .wrongKind
  | some entries =>
    match Entries.get? entries name with
    | some v => .ok { s with next := [v] }
    | none => .error .noEntry

def isSpent (s : Supply) : Bool := s.named.isSome || s.next.isEmpty

end Supply

structure Directive where
  flags : List Char
  width : Nat
  precision : Option Nat

namespace Directive

def has (d : Directive) (flag : Char) : Bool := d.flags.contains flag

-- Zeros go between the sign and the digits, blanks to either end.
def padded (d : Directive) (fillsWithZeros : Bool) (sign body : List Char) : List Char :=
  let missing := d.width - (sign.length + body.length)
  if d.has '-' then sign ++ body ++ List.replicate missing ' '
  else if fillsWithZeros && d.has '0' then sign ++ List.replicate missing '0' ++ body
  else List.replicate missing ' ' ++ sign ++ body

def text (d : Directive) (cs : List Char) : List Char :=
  d.padded false [] (match d.precision with
    | some n => cs.take n
    | none => cs)

def sign (d : Directive) (negative : Bool) : List Char :=
  if negative then ['-'] else if d.has '+' then ['+'] else if d.has ' ' then [' '] else []

def whole (d : Directive) (base : Nat) (mark : List Char) (upper : Bool) (n : Int) : List Char :=
  let digits := Nat.toDigits base n.natAbs
  let digits := if upper then digits.map Char.toUpper else digits
  let digits := List.replicate (d.precision.getD 0 - digits.length) '0' ++ digits
  d.padded true (d.sign (n < 0) ++ (if d.has '#' then mark else [])) digits

def pointed (d : Directive) (cs : List Char) : List Char :=
  if d.has '#' && !cs.contains '.' then
    cs.takeWhile Char.isDigit ++ '.' :: cs.dropWhile Char.isDigit
  else cs

def double (d : Directive) (conversion : Char) (x : Binary64) : List Char :=
  let upper := conversion.isUpper
  let cased (cs : List Char) : List Char := if upper then cs.map Char.toUpper else cs
  let mark := if upper then 'E' else 'e'
  let body := match x with
    | .nan => cased "nan".toList
    | .infinite _ => cased "inf".toList
    | x =>
      let q := (x.rat?.getD 0).abs
      let precision := d.precision.getD 6
      d.pointed (match conversion.toLower with
        | 'f' => Places.positional q precision
        | 'e' => Places.scientific mark q precision
        | _ => Places.general mark (d.has '#') q precision)
  d.padded true (d.sign x.negative) body

end Directive

def wholeOf : Value → Except Fault Int
  | .str _ => .error .wrongKind
  | v => v.toWhole

def exactWholeOf : Value → Except Fault Int
  | .bool b => .ok (if b then 1 else 0)
  | .int n => .ok n
  | _ => .error .wrongKind

def doubleOf : Value → Except Fault Binary64
  | .bool b => .ok (.finite (if b then 1 else 0))
  | .float x => .ok x
  | .int n =>
    match Binary64.ofInt? n with
    | some x => .ok x
    | none => .error .overflow
  | _ => .error .wrongKind

def charOf : Value → Except Fault Char
  | .str s =>
    match s.toList with
    | [c] => .ok c
    | _ => .error .wrongKind
  | v => do
    let n ← exactWholeOf v
    if h : 0 ≤ n ∧ n.toNat.isValidChar then return Char.ofNatAux n.toNat h.2
    else .error .overflow

def asciiOnly (c : Char) : List Char :=
  if c.toNat < 128 then [c]
  else if c.toNat < 256 then '\\' :: 'x' :: Text.hexDigits 2 c.toNat
  else if c.toNat < 65536 then '\\' :: 'u' :: Text.hexDigits 4 c.toNat
  else '\\' :: 'U' :: Text.hexDigits 8 c.toNat

def converted (d : Directive) (conversion : Char) (v : Value) : Except Fault (List Char) :=
  match conversion with
  | 's' => .ok (d.text v.display.toList)
  | 'r' => .ok (d.text v.shown.toList)
  | 'a' => .ok (d.text (v.shown.toList.flatMap asciiOnly))
  | 'c' => do return d.padded false [] [← charOf v]
  | 'd' | 'i' | 'u' => do return d.whole 10 [] false (← wholeOf v)
  | 'x' => do return d.whole 16 ['0', 'x'] false (← exactWholeOf v)
  | 'X' => do return d.whole 16 ['0', 'X'] true (← exactWholeOf v)
  | 'o' => do return d.whole 8 ['0', 'o'] false (← exactWholeOf v)
  | 'e' | 'E' | 'f' | 'F' | 'g' | 'G' => do return d.double conversion (← doubleOf v)
  | _ => .error .badContent

def nameTo (depth : Nat) (done : List Char) : List Char → Option (String × List Char)
  | [] => none
  | '(' :: rest => nameTo (depth + 1) ('(' :: done) rest
  | ')' :: rest =>
    match depth with
    | 0 => some (String.ofList done.reverse, rest)
    | depth + 1 => nameTo depth (')' :: done) rest
  | c :: rest => nameTo depth (c :: done) rest

def named (s : Supply) (cs : List Char) : Except Fault (Supply × List Char) :=
  match cs with
  | '(' :: rest =>
    match s.named, nameTo 0 [] rest with
    | none, _ => .error .wrongKind
    | some _, none => .error .badContent
    | some _, some (name, rest) => do return (← s.takeNamed name, rest)
  | _ => .ok (s, cs)

def isFlag (c : Char) : Bool := c = '-' || c = '+' || c = ' ' || c = '#' || c = '0'

-- Widths fit a machine word, and precisions half of one.
def widestWidth : Nat := 9223372036854775807

def finestPrecision : Nat := 2147483647

def amount (most : Nat) (s : Supply) (cs : List Char) : Except Fault (Int × Supply × List Char) :=
  match cs with
  | '*' :: rest => do
    let (v, s) ← s.take
    let n ← exactWholeOf v
    if n.natAbs ≤ most then return (n, s, rest) else .error .overflow
  | _ =>
    let n := Literal.ofDigitChars (cs.takeWhile Char.isDigit)
    if n ≤ most then .ok ((n : Int), s, cs.dropWhile Char.isDigit) else .error .badContent

def precision (s : Supply) (cs : List Char) : Except Fault (Option Nat × Supply × List Char) :=
  match cs with
  | '.' :: rest => do
    let (n, s, rest) ← amount finestPrecision s rest
    return (some n.toNat, s, rest)
  | _ => .ok (none, s, cs)

def skipSize : List Char → List Char
  | 'h' :: rest | 'l' :: rest | 'L' :: rest => rest
  | cs => cs

def directive (s : Supply) (cs : List Char) : Except Fault (List Char × Supply × List Char) := do
  let (s, cs) ← named s cs
  let flags := cs.takeWhile isFlag
  let (width, s, cs) ← amount widestWidth s (cs.dropWhile isFlag)
  let (precision, s, cs) ← precision s cs
  let flags := if width < 0 then '-' :: flags else flags
  match skipSize cs with
  | [] => .error .badContent
  | conversion :: rest => do
    let (v, s) ← s.take
    return (← converted ⟨flags, width.natAbs, precision⟩ conversion v, s, rest)

-- Every directive has a character of its own, so the length of the template is enough fuel.
def fillFrom (s : Supply) : Nat → List Char → Except Fault (List Char)
  | 0, _ | _ + 1, [] => if s.isSpent then .ok [] else .error .wrongKind
  | fuel + 1, '%' :: '%' :: rest => do return '%' :: (← fillFrom s fuel rest)
  | fuel + 1, c :: rest =>
    if c = '%' then do
      let (written, s, rest) ← directive s rest
      return written ++ (← fillFrom s fuel rest)
    else do return c :: (← fillFrom s fuel rest)

def fill (template : String) (arguments : List Value) : Except Fault String :=
  if arguments.isEmpty then .ok template
  else do
    let cs := template.toList
    return String.ofList (← fillFrom (.ofArguments arguments) cs.length cs)

end SearchStore.Template
