namespace SearchStore

inductive Binary64 where
  | nan
  | infinite (negative : Bool)
  | negativeZero
  | finite (value : Rat)
deriving DecidableEq, Repr, Inhabited

namespace Binary64

-- The power of two at or below a positive rational. The two logarithms are each off by less than
-- one, so the estimate is right or one too high.
def binade (q : Rat) : Int :=
  let estimate : Int := (q.num.natAbs.log2 : Int) - (q.den.log2 : Int)
  if (2 : Rat) ^ estimate ≤ q then estimate else estimate - 1

-- 53 significant bits, but nothing finer than the smallest subnormal.
def lastPlace (q : Rat) : Int := max (-1074) (binade q.abs - 52)

def roundEven (q : Rat) : Int :=
  let below := q.floor
  let rest := q - below
  if rest < 1 / 2 then below
  else if 1 / 2 < rest then below + 1
  else if below % 2 = 0 then below else below + 1

def nearest (q : Rat) : Rat :=
  let unit := (2 : Rat) ^ lastPlace q
  roundEven (q / unit) * unit

def signedZero (negative : Bool) : Binary64 := if negative then .negativeZero else .finite 0

def ofRat (q : Rat) : Binary64 :=
  let rounded := nearest q
  if rounded = 0 then signedZero (q < 0)
  else if (2 : Rat) ^ (1024 : Int) ≤ rounded.abs then .infinite (rounded < 0)
  else .finite rounded

def rat? : Binary64 → Option Rat
  | .finite q => some q
  | .negativeZero => some 0
  | _ => none

def isNaN : Binary64 → Bool
  | .nan => true
  | _ => false

def negative : Binary64 → Bool
  | .nan => false
  | .infinite s => s
  | .negativeZero => true
  | .finite q => q < 0

def isZero (x : Binary64) : Bool := x.rat? == some 0

def neg : Binary64 → Binary64
  | .nan => .nan
  | .infinite s => .infinite (!s)
  | .negativeZero => .finite 0
  | .finite q => if q = 0 then .negativeZero else .finite (-q)

def ofInt? (n : Int) : Option Binary64 :=
  match ofRat n with
  | .infinite _ => none
  | x => some x

def add : Binary64 → Binary64 → Binary64
  | .nan, _ | _, .nan => .nan
  | .infinite s, .infinite t => if s = t then .infinite s else .nan
  | .infinite s, _ => .infinite s
  | _, .infinite t => .infinite t
  | .negativeZero, .negativeZero => .negativeZero
  | .negativeZero, .finite q | .finite q, .negativeZero => .finite q
  | .finite q, .finite r => ofRat (q + r)

def sub (x y : Binary64) : Binary64 := add x (neg y)

def div (x y : Binary64) : Binary64 :=
  let flipped := x.negative != y.negative
  match x, y with
  | .nan, _ | _, .nan => .nan
  | .infinite _, .infinite _ => .nan
  | .infinite _, _ => .infinite flipped
  | _, .infinite _ => signedZero flipped
  | x, y =>
    match x.rat?, y.rat? with
    | some q, some r =>
      if r = 0 then if q = 0 then .nan else .infinite flipped
      else if q = 0 then signedZero flipped
      else ofRat (q / r)
    | _, _ => .nan

def floor : Binary64 → Binary64
  | .finite q => ofRat q.floor
  | x => x

def truncate? (x : Binary64) : Option Int :=
  x.rat?.map fun q => if q < 0 then q.ceil else q.floor

def ceil? (x : Binary64) : Option Int := x.rat?.map Rat.ceil

def remainder (x y : Binary64) : Binary64 :=
  match x, y with
  | .nan, _ | _, .nan | .infinite _, _ => .nan
  | x, .infinite _ => x
  | x, y =>
    match x.rat?, y.rat? with
    | some q, some r =>
      if r = 0 then .nan
      else
        let whole := if q / r < 0 then (q / r).ceil else (q / r).floor
        let rest := q - whole * r
        if rest = 0 then signedZero x.negative else .finite rest
    | _, _ => .nan

def lt : Binary64 → Binary64 → Bool
  | .nan, _ | _, .nan => false
  | .infinite s, .infinite t => s && !t
  | .infinite s, _ => s
  | _, .infinite t => !t
  | x, y =>
    match x.rat?, y.rat? with
    | some q, some r => q < r
    | _, _ => false

def same : Binary64 → Binary64 → Bool
  | .infinite s, .infinite t => s == t
  | x, y =>
    match x.rat?, y.rat? with
    | some q, some r => q == r
    | _, _ => false

-- Division rounded down, for a divisor that is not zero. The dividend first loses its remainder,
-- so the quotient is near a whole number before it is floored.
def floorDivide (x y : Binary64) : Binary64 :=
  let rest := remainder x y
  let quotient := div (sub x rest) y
  let quotient :=
    if !rest.isZero && (lt y (.finite 0) != lt rest (.finite 0)) then sub quotient (.finite 1)
    else quotient
  if quotient.isZero then signedZero (div x y).negative
  else
    let whole := floor quotient
    if lt (.finite (1 / 2)) (sub quotient whole) then add whole (.finite 1) else whole

-- Beyond this many decimal places to either side every coefficient is an infinity or a zero.
def decimalReach : Int := 400

def ofDecimal (negative : Bool) (coefficient : Nat) (exponent : Int) : Binary64 :=
  let leading : Int := exponent + ((Nat.toDigits 10 coefficient).length : Int)
  if coefficient = 0 ∨ leading < -decimalReach then signedZero negative
  else if decimalReach < leading then .infinite negative
  else
    let magnitude := (coefficient : Rat) * (10 : Rat) ^ exponent
    ofRat (if negative then -magnitude else magnitude)

end Binary64
end SearchStore
