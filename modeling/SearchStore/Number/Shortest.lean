import SearchStore.Number.Binary64
namespace SearchStore.Shortest

structure Decimal where
  coefficient : Nat
  exponent : Int
deriving DecidableEq, Repr

def Decimal.rat (d : Decimal) : Rat := (d.coefficient : Rat) * (10 : Rat) ^ d.exponent

def decade (q : Rat) : Int :=
  let digits (n : Nat) : Int := ((Nat.toDigits 10 n).length : Int)
  let estimate := digits q.num.natAbs - digits q.den
  if (10 : Rat) ^ estimate ≤ q then estimate else estimate - 1

-- The rationals that round to one double: an interval that holds its ends when the double's
-- significand is even.
structure Cell where
  low : Rat
  high : Rat
  closed : Bool

def Cell.of (q : Rat) : Cell :=
  let place := Binary64.lastPlace q
  let unit := (2 : Rat) ^ place
  let significand := (q / unit).floor
  -- Below a power of two the next double is only half as far away.
  let narrow := significand = (2 : Rat) ^ (52 : Int) ∧ -1074 < place
  { low := q - (if narrow then unit / 4 else unit / 2)
    high := q + unit / 2
    closed := significand % 2 = 0 }

def Cell.holds (cell : Cell) (q : Rat) : Bool :=
  if cell.closed then cell.low ≤ q && q ≤ cell.high else cell.low < q && q < cell.high

def onGrid (cell : Cell) (q : Rat) (exponent : Int) : Option Decimal :=
  let below := (q / (10 : Rat) ^ exponent).floor.toNat
  let low : Decimal := ⟨below, exponent⟩
  let high : Decimal := ⟨below + 1, exponent⟩
  match cell.holds low.rat, cell.holds high.rat with
  | true, true =>
    let down := q - low.rat
    let up := high.rat - q
    if down < up then some low
    else if up < down then some high
    else some (if below % 2 = 0 then low else high)
  | true, false => some low
  | false, true => some high
  | false, false => none

-- The shortest decimal of a positive double. Seventeen digits always suffice.
def decimal (q : Rat) : Decimal :=
  let cell := Cell.of q
  let top := decade q
  ((List.range 17).findSome? fun (n : Nat) => onGrid cell q (top - (n : Int))).getD
    ⟨(q / (10 : Rat) ^ (top - 16)).floor.toNat, top - 16⟩

structure Style where
  -- Decimal exponents from `lowest` to `highest` are written without an exponent.
  lowest : Int
  highest : Int
  exponentWidth : Nat

def document : Style := ⟨-4, 15, 2⟩

def zeros (n : Nat) : List Char := List.replicate n '0'

def trimZeros (digits : List Char) : List Char :=
  (digits.reverse.dropWhile (· = '0')).reverse

def positional (digits : List Char) (point : Int) : List Char :=
  if point ≤ 0 then '0' :: '.' :: zeros point.natAbs ++ digits
  else
    let n := point.toNat
    if digits.length ≤ n then digits ++ zeros (n - digits.length) ++ ['.', '0']
    else digits.take n ++ '.' :: digits.drop n

def scientific (style : Style) (digits : List Char) (exponent : Int) : List Char :=
  let written := Nat.toDigits 10 exponent.natAbs
  let fraction := match digits.drop 1 with
    | [] => []
    | rest => '.' :: rest
  digits.take 1 ++ fraction ++ 'e' :: (if exponent < 0 then '-' else '+') ::
    (zeros (style.exponentWidth - written.length) ++ written)

def magnitude (style : Style) (q : Rat) : List Char :=
  if q = 0 then ['0', '.', '0']
  else
    let d := decimal q
    let written := Nat.toDigits 10 d.coefficient
    let point := d.exponent + (written.length : Int)
    let digits := trimZeros written
    if style.lowest ≤ point - 1 ∧ point - 1 ≤ style.highest then positional digits point
    else scientific style digits (point - 1)

def text (style : Style) : Binary64 → String
  | .nan => "nan"
  | .infinite false => "inf"
  | .infinite true => "-inf"
  | .negativeZero => String.ofList ('-' :: magnitude style 0)
  | .finite q =>
    String.ofList ((if q < 0 then ['-'] else []) ++ magnitude style q.abs)

end SearchStore.Shortest

namespace SearchStore.Places

def powerOfTen (n : Int) : Rat := (10 : Rat) ^ n

def withPoint (places : Nat) (digits : List Char) : List Char :=
  let digits := Shortest.zeros (places + 1 - digits.length) ++ digits
  let before := digits.length - places
  if places = 0 then digits else digits.take before ++ '.' :: digits.drop before

def positional (q : Rat) (places : Nat) : List Char :=
  let scaled := (Binary64.roundEven (q * powerOfTen (places : Int))).toNat
  withPoint places (Nat.toDigits 10 scaled)

def significant (q : Rat) (places : Nat) : Int × List Char :=
  if q = 0 then (0, Shortest.zeros (places + 1))
  else
    let exponent := Shortest.decade q
    let digits := Nat.toDigits 10
      (Binary64.roundEven (q * powerOfTen ((places : Int) - exponent))).toNat
    if places + 1 < digits.length then (exponent + 1, digits.take (places + 1))
    else (exponent, digits)

def exponentText (mark : Char) (exponent : Int) : List Char :=
  let digits := Nat.toDigits 10 exponent.natAbs
  mark :: (if exponent < 0 then '-' else '+') :: (Shortest.zeros (2 - digits.length) ++ digits)

def scientific (mark : Char) (q : Rat) (places : Nat) : List Char :=
  let (exponent, digits) := significant q places
  withPoint places digits ++ exponentText mark exponent

def trimZeros (cs : List Char) : List Char :=
  if cs.contains '.' then
    (((cs.reverse.dropWhile (· = '0')).dropWhile (· = '.'))).reverse
  else cs

def general (mark : Char) (keepZeros : Bool) (q : Rat) (digits : Nat) : List Char :=
  let digits := max digits 1
  let (exponent, written) := significant q (digits - 1)
  let trimmed (cs : List Char) : List Char := if keepZeros then cs else trimZeros cs
  if -4 ≤ exponent ∧ exponent < (digits : Int) then
    trimmed (positional q ((digits : Int) - 1 - exponent).toNat)
  else trimmed (withPoint (digits - 1) written) ++ exponentText mark exponent

end SearchStore.Places
