import SearchStore.Number.Literal
namespace SearchStore.Address

def cutAt (mark : Char) : List Char → List Char × Option (List Char)
  | [] => ([], none)
  | c :: rest =>
    if c = mark then ([], some rest)
    else
      let (before, after) := cutAt mark rest
      (c :: before, after)

def pieces (mark : Char) : List Char → List (List Char)
  | [] => [[]]
  | c :: rest =>
    if c = mark then [] :: pieces mark rest
    else match pieces mark rest with
      | first :: more => (c :: first) :: more
      | [] => [[c]]

def isOctet (cs : List Char) : Bool :=
  !cs.isEmpty && cs.all Char.isDigit && cs.length ≤ 3 &&
    (cs = ['0'] || cs.head? != some '0') && Literal.ofDigitChars cs ≤ 255

def isVersion4 (cs : List Char) : Bool :=
  let octets := pieces '.' cs
  octets.length = 4 && octets.all isOctet

def isHex (c : Char) : Bool := (Literal.hexDigit? c).isSome

def isGroup (cs : List Char) : Bool := !cs.isEmpty && cs.length ≤ 4 && cs.all isHex

def expandTail (groups : List (List Char)) : Option (List (List Char)) :=
  match groups.getLast? with
  | some tail =>
    if tail.contains '.' then
      if isVersion4 tail then some (groups.dropLast ++ [['0'], ['0']]) else none
    else some groups
  | none => none

def splitAtGap (groups : List (List Char)) : List (List Char) × List (List Char) :=
  (groups.takeWhile (!·.isEmpty), (groups.dropWhile (!·.isEmpty)).drop 1)

-- Two colons in a row stand for all groups that are left out, once in an address.
def areGroups (groups : List (List Char)) : Bool :=
  let first := groups.head?.getD []
  let last := groups.getLast?.getD []
  let inner := (groups.drop 1).dropLast
  if inner.any List.isEmpty then
    let (before, after) := splitAtGap (inner)
    let head := if first.isEmpty then before else first :: before
    let tail := if last.isEmpty then after else after ++ [last]
    (head ++ tail).all isGroup && (head ++ tail).length ≤ 7 &&
      (!first.isEmpty || before.isEmpty) && (!last.isEmpty || after.isEmpty)
  else groups.length = 8 && groups.all isGroup

-- A zone may follow a percent sign. It is not empty and has no percent sign of its own.
def isVersion6 (cs : List Char) : Bool :=
  let (address, zone) := cutAt '%' cs
  let zoned := match zone with
    | some zone => !zone.isEmpty && !zone.contains '%'
    | none => true
  let groups := pieces ':' address
  zoned && 3 ≤ groups.length &&
    match expandTail groups with
    | some groups => groups.length ≤ 9 && areGroups groups
    | none => false

def isLaterVersion : List Char → Bool
  | 'v' :: rest =>
    match cutAt '.' rest with
    | (version, some address) => !version.isEmpty && version.all isHex && !address.isEmpty
    | _ => false
  | _ => false

def isBracketed (cs : List Char) : Bool :=
  if cs.head? = some 'v' then isLaterVersion cs else isVersion6 cs

end SearchStore.Address
