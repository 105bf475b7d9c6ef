namespace SearchStore.Text

structure CharClass where
  ofBoundaries ::
  boundaries : List Nat

-- A character is inside when an odd number of boundaries lies at or below it.
def CharClass.contains (cls : CharClass) (c : Char) : Bool :=
  cls.boundaries.countP (· ≤ c.toNat) % 2 = 1

def blanks : CharClass := .ofBoundaries [
    9, 14, 28, 33, 133, 134, 160, 161, 5760, 5761, 8192, 8203, 8232, 8234, 8239, 8240, 8287, 8288,
    12288, 12289]

-- The zeros of the decimal digit rows. The other nine digits of a row follow its zero.
def digitZeros : List Nat := [
    48, 1632, 1776, 1984, 2406, 2534, 2662, 2790, 2918, 3046, 3174, 3302, 3430, 3558, 3664, 3792,
    3872, 4160, 4240, 6112, 6160, 6470, 6608, 6784, 6800, 6992, 7088, 7232, 7248, 42528, 43216,
    43264, 43472, 43504, 43600, 44016, 65296, 66720, 68912, 69734, 69872, 69942, 70096, 70384,
    70736, 70864, 71248, 71360, 71472, 71904, 72016, 72784, 73040, 73120, 92768, 92864, 93008,
    120782, 120792, 120802, 120812, 120822, 123200, 123632, 125264, 130032]

def isBlank (c : Char) : Bool := blanks.contains c

-- The four separators between 28 and 31 end fields in some files but are no Unicode white space.
def isSpace (c : Char) : Bool := isBlank c && !(28 ≤ c.toNat && c.toNat ≤ 31)

def isLineEnd (c : Char) : Bool :=
  (10 ≤ c.toNat && c.toNat ≤ 13) || (28 ≤ c.toNat && c.toNat ≤ 30) ||
    c.toNat = 133 || c.toNat = 8232 || c.toNat = 8233

def digit? (c : Char) : Option Nat :=
  (digitZeros.find? fun start => start ≤ c.toNat ∧ c.toNat < start + 10).map (c.toNat - ·)

def trimLeft (outside : Char → Bool) (cs : List Char) : List Char := cs.dropWhile outside

def trimRight (outside : Char → Bool) (cs : List Char) : List Char :=
  (cs.reverse.dropWhile outside).reverse

def trim (outside : Char → Bool) (cs : List Char) : List Char :=
  trimRight outside (trimLeft outside cs)

def linesFrom (current : List Char) : List Char → List (List Char)
  | [] => if current.isEmpty then [] else [current.reverse]
  | '\r' :: '\n' :: rest => current.reverse :: linesFrom [] rest
  | c :: rest =>
    if isLineEnd c then current.reverse :: linesFrom [] rest else linesFrom (c :: current) rest

def lines (cs : List Char) : List (List Char) := linesFrom [] cs

def wordsFrom (current : List Char) : List Char → List (List Char)
  | [] => if current.isEmpty then [] else [current.reverse]
  | c :: rest =>
    if isBlank c then
      if current.isEmpty then wordsFrom [] rest else current.reverse :: wordsFrom [] rest
    else wordsFrom (c :: current) rest

def words (cs : List Char) : List (List Char) := wordsFrom [] cs

end SearchStore.Text
