import SearchStore.Host.Address
import SearchStore.Text.LetterCase
namespace SearchStore

structure Url where
  scheme : Option String
  user : Option String
  password : Option String
  hostname : Option String
  port : Option (List Char)
  path : String

namespace Url

def isControlOrSpace (c : Char) : Bool := c.toNat ≤ 32

def isDropped (c : Char) : Bool := c = '\t' || c = '\r' || c = '\n'

def isLetter (c : Char) : Bool := ('a' ≤ c && c ≤ 'z') || ('A' ≤ c && c ≤ 'Z')

def isSchemeChar (c : Char) : Bool := isLetter c || c.isDigit || c = '+' || c = '-' || c = '.'

-- The scheme ends at the first colon. Where the characters before it are no scheme there is none,
-- and the colon belongs to what follows.
def splitScheme (cs : List Char) : Option String × List Char :=
  match Address.cutAt ':' cs with
  | (scheme, some rest) =>
    if (scheme.head?.any isLetter) && scheme.all isSchemeChar then
      (some (String.ofList (Literal.lowercaseAscii scheme)), rest)
    else (none, cs)
  | (_, none) => (none, cs)

def endsAuthority (c : Char) : Bool := c = '/' || c = '?' || c = '#'

def splitAuthority : List Char → List Char × List Char
  | '/' :: '/' :: rest => (rest.takeWhile (!endsAuthority ·), rest.dropWhile (!endsAuthority ·))
  | cs => ([], cs)

def splitUser (authority : List Char) : Option (List Char) × List Char :=
  let host := (authority.reverse.takeWhile (· ≠ '@')).reverse
  if authority.contains '@' then (some (authority.take (authority.length - host.length - 1)), host)
  else (none, host)

def splitHost (cs : List Char) : List Char × Option (List Char) :=
  match Address.cutAt '[' cs with
  | (_, some bracketed) =>
    let (host, rest) := Address.cutAt ']' bracketed
    (host, (Address.cutAt ':' (rest.getD [])).2)
  | (_, none) => Address.cutAt ':' cs

-- Characters that turn into one of the five delimiters when a host is normalised for look-up.
def delimiterForms : List Nat :=
  [0x2047, 0x2048, 0x2049, 0x2100, 0x2101, 0x2105, 0x2106, 0x2A74, 0xFE13, 0xFE16, 0xFE55, 0xFE56,
    0xFE5F, 0xFE6B, 0xFF03, 0xFF0F, 0xFF1A, 0xFF1F, 0xFF20]

def hidesDelimiter (authority : List Char) : Bool :=
  authority.any fun c => delimiterForms.contains c.toNat

-- Brackets come in pairs, start the host, enclose an address and are followed by a port at most.
def bracketsFit (authority : List Char) : Bool :=
  let opened := authority.contains '['
  let closed := authority.contains ']'
  if opened && closed then
    match Address.cutAt '[' (splitUser authority).2 with
    | (before, some bracketed) =>
      let (host, rest) := Address.cutAt ']' bracketed
      let rest := rest.getD []
      before.isEmpty && (rest.isEmpty || rest.head? = some ':') && Address.isBracketed host
    | (_, none) => Address.isBracketed (splitHost (splitUser authority).2).1
  else !opened && !closed

def lowerHost (cs : List Char) : String :=
  let (host, zone) := Address.cutAt '%' cs
  Text.lower (String.ofList host) ++
    match zone with
    | some zone => String.ofList ('%' :: zone)
    | none => ""

def nonempty (cs : List Char) : Option (List Char) := if cs.isEmpty then none else some cs

def read? (text : String) : Option Url :=
  let cs := (text.toList.dropWhile isControlOrSpace).filter (!isDropped ·)
  let (scheme, rest) := splitScheme cs
  let (authority, rest) := splitAuthority rest
  if bracketsFit authority && !hidesDelimiter authority then
    let (about, host) := splitUser authority
    let (user, password) := Address.cutAt ':' (about.getD [])
    let (host, port) := splitHost host
    some ⟨scheme, (nonempty user).map String.ofList, password.map String.ofList,
      (nonempty host).map lowerHost, port.bind nonempty,
      String.ofList (rest.takeWhile fun c => c ≠ '?' && c ≠ '#')⟩
  else none

def port? (url : Url) : Option (Option Nat) :=
  match url.port with
  | none => some none
  | some digits =>
    if digits.all Char.isDigit && Literal.ofDigitChars digits ≤ 65535 then
      some (some (Literal.ofDigitChars digits))
    else none

end Url
end SearchStore
