import SearchStore.Failure
import SearchStore.Number.Literal
import SearchStore.Text.Blank
namespace SearchStore

inductive Verdict (α : Type) where
  | valid (value : α)
  | invalid (details : List Detail)
  | failed (fault : Fault)
deriving Inhabited

namespace Verdict
variable {α β : Type}

def map (f : α → β) : Verdict α → Verdict β
  | .valid a => .valid (f a)
  | .invalid details => .invalid details
  | .failed fault => .failed fault

def apply : Verdict (α → β) → Verdict α → Verdict β
  | .failed fault, _ => .failed fault
  | .valid f, v => v.map f
  | .invalid _, .failed fault => .failed fault
  | .invalid details, .invalid more => .invalid (details ++ more)
  | .invalid details, .valid _ => .invalid details

instance : Applicative Verdict where
  pure := .valid
  seq f v := apply f (v ())

def broken (rule : Rule) : Verdict α := .invalid [⟨[], rule⟩]

def inside (place : Place) : Verdict α → Verdict α
  | .invalid details => .invalid (details.map fun d => ⟨place :: d.path, d.rule⟩)
  | v => v

def all : List (Verdict α) → Verdict (List α)
  | [] => .valid []
  | v :: rest => (v.map List.cons).apply (all rest)

def result : Verdict α → Except Failure α
  | .valid a => .ok a
  | .invalid details => .error (.invalid details)
  | .failed fault => .error (.fault fault)

end Verdict
end SearchStore

namespace SearchStore.Reading

def text : Value → Verdict String
  | .str s => .valid s
  | _ => .broken .textExpected

def optional {α : Type} (read : Value → Verdict α) : Value → Verdict (Option α)
  | .null => .valid none
  | v => (read v).map some

def onWords : List String := ["1", "t", "true", "y", "yes", "on"]

def offWords : List String := ["0", "f", "false", "n", "no", "off"]

def flagOf (n : Int) : Verdict Bool :=
  if n = 0 then .valid false else if n = 1 then .valid true else .broken .flagUnreadable

def fitsWord (n : Int) : Bool := -9223372036854775808 ≤ n && n ≤ 9223372036854775807

def flag : Value → Verdict Bool
  | .bool b => .valid b
  | .str s =>
    let word := String.ofList (Literal.lowercaseAscii s.toList)
    if onWords.contains word then .valid true
    else if offWords.contains word then .valid false
    else .broken .flagUnreadable
  | .int n =>
    if fitsWord n || (Binary64.ofInt? n).isSome then flagOf n else .broken .flagExpected
  | .float x =>
    match x.rat? with
    | some q => if q.den = 1 then flagOf q.num else .broken .flagExpected
    | none => .broken .flagExpected
  | _ => .broken .flagExpected

def dropEmptyFraction (cs : List Char) : List Char :=
  let (before, behind) := (cs.takeWhile (· ≠ '.'), cs.dropWhile (· ≠ '.'))
  if (behind.drop 1).all (· = '0') then before else cs

-- Leading zeros, with underscores among them, are skipped. The last of them always stays.
def dropLeadingZeros : List Char → List Char
  | '0' :: rest =>
    match rest.dropWhile fun c => c = '0' || c = '_' with
    | [] => [rest.getLast?.getD '0']
    | more => more
  | cs => cs

-- Underscores may stand between other characters, one at a time.
def ungrouped? (cs : List Char) : Option (List Char) :=
  let doubled := (cs.zip (cs.drop 1)).any fun pair => pair.1 = '_' && pair.2 = '_'
  if doubled || cs.head? = some '_' || cs.getLast? = some '_' then none
  else some (cs.filter (· ≠ '_'))

def magnitude? (cs : List Char) : Option Int :=
  if !cs.isEmpty && cs.all Char.isDigit then some (Literal.ofDigitChars cs : Int) else none

def signedWhole? : List Char → Option Int
  | ['-', '0'] => some 0
  | '-' :: '0' :: _ => none
  | '-' :: digits => (magnitude? digits).map (- ·)
  | digits => magnitude? digits

def whole? (cs : List Char) : Option Int :=
  match Text.trim Text.isSpace cs with
  | '+' :: '-' :: _ => none
  | '+' :: rest => (ungrouped? (dropEmptyFraction (dropLeadingZeros rest))).bind signedWhole?
  | rest => (ungrouped? (dropEmptyFraction (dropLeadingZeros rest))).bind signedWhole?

def whole : Value → Verdict Int
  | .bool b => .valid (if b then 1 else 0)
  | .int n => .valid n
  | .float x =>
    match x.rat? with
    | some q => if q.den = 1 then .valid q.num else .broken .wholeFractional
    | none => .broken .numberNotFinite
  | .str s =>
    if Literal.digitLimit < s.length then .broken .wholeTooLong
    else match whole? s.toList with
      | some n => .valid n
      | none => .broken .wholeUnreadable
  | _ => .broken .wholeExpected

def number? (cs : List Char) : Option Binary64 :=
  (Literal.double? (Text.trim Text.isSpace cs)).or ((ungrouped? cs).bind Literal.double?)

def number : Value → Verdict Binary64
  | .bool b => .valid (.finite (if b then 1 else 0))
  | .float x => .valid x
  | .int n =>
    match Binary64.ofInt? n with
    | some x => .valid x
    | none => .broken .numberExpected
  | .str s =>
    match number? s.toList with
    | some x => .valid x
    | none => .broken .numberUnreadable
  | _ => .broken .numberExpected

def meeting {α : Type} (read : Value → Verdict α) (holds : α → Bool) (rule : Rule) (v : Value) :
    Verdict α :=
  match read v with
  | .valid a => if holds a then .valid a else .broken rule
  | other => other

def positive : Value → Verdict Binary64 :=
  meeting number (fun x => Binary64.lt (.finite 0) x) .tooSmall

def notNegative : Value → Verdict Binary64 :=
  meeting number (fun x => !x.isNaN && !Binary64.lt x (.finite 0)) .belowMinimum

def atLeastOne : Value → Verdict Int := meeting whole (fun n => 1 ≤ n) .belowMinimum

def keyPlace : Value → Place
  | .str name => .field name
  | .bool b => .position (if b then 1 else 0)
  | .int n => if fitsWord n then .position n else .field (Value.shown (.int n))
  | key => .field key.shown

def mappingOf {α : Type} (read : Value → Verdict α) : Value → Verdict (List (String × α))
  | .map entries => .all (entries.map fun entry =>
      let name := ((text entry.1).inside (.field "[key]")).inside (keyPlace entry.1)
      (name.map Prod.mk).apply ((read entry.2).inside (keyPlace entry.1)))
  | _ => .broken .mappingExpected

def mapping (v : Value) : Verdict Entries := (mappingOf .valid v).map Entries.ofFields

def sequenceOf {α : Type} (read : Value → Verdict α) (items : List Value) : Verdict (List α) :=
  .all (items.zipIdx.map fun item => (read item.1).inside (.position item.2))

def part {α : Type} (read : Entries → Verdict α) : Value → Verdict α
  | .map entries => read entries
  | _ => .broken .sectionExpected

def field {α : Type} (entries : Entries) (name : String) (read : Value → Verdict α) (fallback : α) :
    Verdict α :=
  match Entries.get? entries name with
  | some v => (read v).inside (.field name)
  | none => .valid fallback

end SearchStore.Reading
