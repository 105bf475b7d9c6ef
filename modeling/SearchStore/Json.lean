import SearchStore.Value.Entries
import SearchStore.Number.Literal
namespace SearchStore.Json

-- Why a text is refused: it is not JSON, or it is not up to a whole number that is longer than numbers may be.
inductive Refusal where
  | malformed
  | tooLong
deriving DecidableEq, Repr

def isSpace (c : Char) : Bool := c = ' ' || c = '\t' || c = '\n' || c = '\r'

def skipSpace (cs : List Char) : List Char := cs.dropWhile isSpace

def hex4? (a b c d : Char) : Option Nat := do
  let a ← Literal.hexDigit? a
  let b ← Literal.hexDigit? b
  let c ← Literal.hexDigit? c
  let d ← Literal.hexDigit? d
  return 4096 * a + 256 * b + 16 * c + d

def escape? : Char → Option Char
  | '"' => some '"'
  | '\\' => some '\\'
  | '/' => some '/'
  | 'b' => some '\x08'
  | 'f' => some '\x0c'
  | 'n' => some '\n'
  | 'r' => some '\r'
  | 't' => some '\t'
  | _ => none

-- The two halves of a character beyond the basic plane. A half on its own is no character and is read as U+FFFD.
def joinHalves (high low : Nat) : Option Char :=
  if 0xD800 ≤ high ∧ high < 0xDC00 ∧ 0xDC00 ≤ low ∧ low < 0xE000 then
    some (Char.ofNat (0x10000 + (high - 0xD800) * 1024 + (low - 0xDC00)))
  else none

def isHalf (code : Nat) : Bool := 0xD800 ≤ code && code < 0xE000

def textBody (done : List Char) : List Char → Option (String × List Char)
  | [] => none
  | '"' :: rest => some (String.ofList done.reverse, rest)
  | '\\' :: 'u' :: a :: b :: c :: d :: '\\' :: 'u' :: e :: f :: g :: h :: rest =>
    match hex4? a b c d, hex4? e f g h with
    | some code, some next =>
      match joinHalves code next with
      | some joined => textBody (joined :: done) rest
      | none =>
        if isHalf code then textBody ('\ufffd' :: done) ('\\' :: 'u' :: e :: f :: g :: h :: rest)
        else textBody (Char.ofNat code :: done) ('\\' :: 'u' :: e :: f :: g :: h :: rest)
    | _, _ => none
  | '\\' :: 'u' :: a :: b :: c :: d :: rest =>
    (hex4? a b c d).bind fun code =>
      textBody ((if isHalf code then '\ufffd' else Char.ofNat code) :: done) rest
  | '\\' :: c :: rest => (escape? c).bind fun plain => textBody (plain :: done) rest
  | c :: rest => if c.toNat < 32 then none else textBody (c :: done) rest

def number (cs : List Char) : Except Refusal (Value × List Char) :=
  let (negative, rest) := match cs with
    | '-' :: rest => (true, rest)
    | rest => (false, rest)
  let (digits, rest) := match rest with
    | '0' :: rest => (['0'], rest)
    | rest => Literal.digitsOf rest
  if digits.isEmpty then .error .malformed
  else
    let (fraction, rest) := match rest with
      | '.' :: more =>
        match Literal.digitsOf more with
        | ([], _) => ([], rest)
        | found => found
      | rest => ([], rest)
    let (exponent, rest) := match rest with
      | c :: more =>
        if c = 'e' || c = 'E' then
          let (down, after) := Literal.signed more
          match Literal.digitsOf after with
          | ([], _) => (none, rest)
          | (size, after) =>
            let size : Int := Literal.ofDigitChars size
            (some (if down then -size else size), after)
        else (none, rest)
      | [] => (none, [])
    if fraction.isEmpty && exponent.isNone then
      if Literal.digitLimit < digits.length then .error .tooLong
      else
        let magnitude : Int := Literal.ofDigitChars digits
        .ok (.int (if negative then -magnitude else magnitude), rest)
    else
      let scale : Int := exponent.getD 0 - (fraction.length : Int)
      .ok (.float (.ofDecimal negative (Literal.ofDigitChars (digits ++ fraction)) scale), rest)

def name? : List Char → Option (Value × List Char)
  | 'n' :: 'u' :: 'l' :: 'l' :: rest => some (.null, rest)
  | 't' :: 'r' :: 'u' :: 'e' :: rest => some (.bool true, rest)
  | 'f' :: 'a' :: 'l' :: 's' :: 'e' :: rest => some (.bool false, rest)
  | 'N' :: 'a' :: 'N' :: rest => some (.float .nan, rest)
  | 'I' :: 'n' :: 'f' :: 'i' :: 'n' :: 'i' :: 't' :: 'y' :: rest =>
    some (.float (.infinite false), rest)
  | '-' :: 'I' :: 'n' :: 'f' :: 'i' :: 'n' :: 'i' :: 't' :: 'y' :: rest =>
    some (.float (.infinite true), rest)
  | _ => none

-- Every call spends one unit of fuel and every second call at least one character, so twice the
-- length of the text is enough.
mutual
def value : Nat → List Char → Except Refusal (Value × List Char)
  | 0, _ => .error .malformed
  | fuel + 1, cs =>
    match cs with
    | '"' :: rest =>
      match textBody [] rest with
      | some (text, rest) => .ok (.str text, rest)
      | none => .error .malformed
    | '[' :: rest =>
      match skipSpace rest with
      | ']' :: rest => .ok (.list [], rest)
      | rest => do
        let (items, rest) ← items fuel rest
        return (.list items, rest)
    | '\x7b' :: rest =>
      match skipSpace rest with
      | '\x7d' :: rest => .ok (.map [], rest)
      | rest => do
        let (entries, rest) ← members fuel [] rest
        return (.map entries, rest)
    | cs =>
      match name? cs with
      | some found => .ok found
      | none => number cs
def items : Nat → List Char → Except Refusal (List Value × List Char)
  | 0, _ => .error .malformed
  | fuel + 1, cs => do
    let (item, rest) ← value fuel (skipSpace cs)
    match skipSpace rest with
    | ',' :: rest => do
      let (others, rest) ← items fuel rest
      return (item :: others, rest)
    | ']' :: rest => return ([item], rest)
    | _ => .error .malformed
def members : Nat → Entries → List Char → Except Refusal (Entries × List Char)
  | 0, _, _ => .error .malformed
  | fuel + 1, done, cs =>
    match skipSpace cs with
    | '"' :: rest =>
      match textBody [] rest with
      | none => .error .malformed
      | some (name, rest) =>
        match skipSpace rest with
        | ':' :: rest => do
          let (value, rest) ← value fuel (skipSpace rest)
          let done := Entries.set done name value
          match skipSpace rest with
          | ',' :: rest => members fuel done rest
          | '\x7d' :: rest => return (done, rest)
          | _ => .error .malformed
        | _ => .error .malformed
    | _ => .error .malformed
end

def read (text : String) : Except Refusal Value := do
  let cs := text.toList
  let (value, rest) ← value (2 * cs.length + 2) (skipSpace cs)
  if (skipSpace rest).isEmpty then return value else .error .malformed

def parse (text : String) : Option Value := (read text).toOption

end SearchStore.Json
