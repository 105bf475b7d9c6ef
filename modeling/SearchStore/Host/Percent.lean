import SearchStore.Number.Literal
namespace SearchStore.Percent

-- The character being read: how many bytes it still needs, the range of the next one and the bits
-- read so far.
structure Pending where
  owed : Nat
  low : Nat
  high : Nat
  code : Nat
deriving DecidableEq

def replacement : Char := '\ufffd'

def begin (byte : Nat) : List Char × Option Pending :=
  if byte < 0x80 then ([Char.ofNat byte], none)
  else if byte < 0xC2 then ([replacement], none)
  else if byte < 0xE0 then ([], some ⟨1, 0x80, 0xBF, byte - 0xC0⟩)
  else if byte = 0xE0 then ([], some ⟨2, 0xA0, 0xBF, 0⟩)
  else if byte = 0xED then ([], some ⟨2, 0x80, 0x9F, 0xD⟩)
  else if byte < 0xF0 then ([], some ⟨2, 0x80, 0xBF, byte - 0xE0⟩)
  else if byte = 0xF0 then ([], some ⟨3, 0x90, 0xBF, 0⟩)
  else if byte < 0xF4 then ([], some ⟨3, 0x80, 0xBF, byte - 0xF0⟩)
  else if byte = 0xF4 then ([], some ⟨3, 0x80, 0x8F, 4⟩)
  else ([replacement], none)

def step (pending : Option Pending) (byte : Nat) : List Char × Option Pending :=
  match pending with
  | none => begin byte
  | some p =>
    if p.low ≤ byte ∧ byte ≤ p.high then
      let code := p.code * 64 + (byte - 0x80)
      if p.owed ≤ 1 then ([Char.ofNat code], none) else ([], some ⟨p.owed - 1, 0x80, 0xBF, code⟩)
    else
      let (cs, pending) := begin byte
      (replacement :: cs, pending)

def readBytes (pending : Option Pending) : List Nat → List Char
  | [] => if pending.isSome then [replacement] else []
  | byte :: rest =>
    let (cs, pending) := step pending byte
    cs ++ readBytes pending rest

def hexByte? (a b : Char) : Option Nat := do
  return 16 * (← Literal.hexDigit? a) + (← Literal.hexDigit? b)

-- A percent sign without two hexadecimal digits after it stands for itself, and so does every
-- character beyond ASCII, which also ends the bytes before it.
def decodeFrom (bytes : List Nat) : List Char → List Char
  | [] => readBytes none bytes.reverse
  | '%' :: a :: b :: rest =>
    match hexByte? a b with
    | some byte => decodeFrom (byte :: bytes) rest
    | none => decodeFrom (0x25 :: bytes) (a :: b :: rest)
  | c :: rest =>
    if c.toNat < 0x80 then decodeFrom (c.toNat :: bytes) rest
    else readBytes none bytes.reverse ++ c :: decodeFrom [] rest

def decode (s : String) : String := String.ofList (decodeFrom [] s.toList)

end SearchStore.Percent
