import SearchStore.Number.Binary64
namespace SearchStore.Literal

-- Longer whole numbers are refused, so that reading one stays cheap.
def digitLimit : Nat := 4300

def strip (outside : Char → Bool) (cs : List Char) : List Char :=
  ((cs.dropWhile outside).reverse.dropWhile outside).reverse

def signed : List Char → Bool × List Char
  | '-' :: rest => (true, rest)
  | '+' :: rest => (false, rest)
  | rest => (false, rest)

def groupedDigits (digit? : Char → Option Nat) : List Char → Option (List Nat)
  | [] => none
  | c :: rest =>
    (digit? c).bind fun d =>
      match rest with
      | [] => some [d]
      | '_' :: more => (groupedDigits digit? more).map (d :: ·)
      | more => (groupedDigits digit? more).map (d :: ·)

def ofDigits (digits : List Nat) : Nat := digits.foldl (fun n d => 10 * n + d) 0

def whole? (outside : Char → Bool) (digit? : Char → Option Nat) (cs : List Char) : Option Int :=
  let (negative, rest) := signed (strip outside cs)
  (groupedDigits digit? rest).bind fun digits =>
    if digitLimit < digits.length then none
    else some (if negative then -(ofDigits digits : Int) else (ofDigits digits : Int))

def hexDigit? (c : Char) : Option Nat :=
  if '0' ≤ c && c ≤ '9' then some (c.toNat - 48)
  else if 'a' ≤ c && c ≤ 'f' then some (c.toNat - 87)
  else if 'A' ≤ c && c ≤ 'F' then some (c.toNat - 55)
  else none

def digitsOf (cs : List Char) : List Char × List Char :=
  (cs.takeWhile Char.isDigit, cs.dropWhile Char.isDigit)

def ofDigitChars (cs : List Char) : Nat := ofDigits (cs.map fun c => c.toNat - 48)

-- The number in front of a text: digits, an optional fraction, an optional exponent, and the text
-- that follows. Either side of the point may be empty, but not both.
def unsignedDecimal? (negative : Bool) (cs : List Char) : Option (Binary64 × List Char) :=
  let (before, rest) := digitsOf cs
  let (after, rest) := match rest with
    | '.' :: more => digitsOf more
    | rest => ([], rest)
  if before.isEmpty && after.isEmpty then none
  else
    let scale : Int := -(after.length : Int)
    let number (exponent : Int) : Binary64 :=
      .ofDecimal negative (ofDigitChars (before ++ after)) (exponent + scale)
    match rest with
    | c :: more =>
      if c = 'e' || c = 'E' then
        let (down, more) := signed more
        match digitsOf more with
        | ([], _) => none
        | (exponent, rest) =>
          let size : Int := ofDigitChars exponent
          some (number (if down then -size else size), rest)
      else some (number 0, rest)
    | [] => some (number 0, [])

def lowercaseAscii (cs : List Char) : List Char := cs.map Char.toLower

def double? (cs : List Char) : Option Binary64 :=
  let (negative, rest) := signed cs
  let name := String.ofList (lowercaseAscii rest)
  if name = "inf" || name = "infinity" then some (.infinite negative)
  else if name = "nan" then some .nan
  else match unsignedDecimal? negative rest with
    | some (x, []) => some x
    | _ => none

end SearchStore.Literal
