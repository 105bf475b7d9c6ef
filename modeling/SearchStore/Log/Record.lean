import SearchStore.Failure
namespace SearchStore

inductive Level where
  | debug | info | warning | error | critical
deriving DecidableEq, Repr

namespace Level

def number : Level → Nat
  | .debug => 10
  | .info => 20
  | .warning => 30
  | .error => 40
  | .critical => 50

def name : Level → String
  | .debug => "debug"
  | .info => "info"
  | .warning => "warning"
  | .error => "error"
  | .critical => "critical"

def ofNumber? (n : Int) : Option Level :=
  [debug, info, warning, error, critical].find? fun level => level.number == n

def nameOf (n : Int) : String :=
  match ofNumber? n with
  | some level => level.name
  | none => if n = 0 then "notset" else "level " ++ toString n

end Level

instance : Coe Level Int := ⟨fun level => level.number⟩

-- The library's own records have one of the named levels. Those of other code may have any number.
structure Record (L : Type := Level) where
  level : L
  logger : String
  template : String
  arguments : List Value
  failure : Option Failure

def rootLogger : String := "elastore"

namespace Record

def debug (logger template : String) (arguments : List Value) : Record :=
  ⟨.debug, logger, template, arguments, none⟩

def warning (logger template : String) (arguments : List Value) : Record :=
  ⟨.warning, logger, template, arguments, none⟩

def error (logger template : String) (arguments : List Value) : Record :=
  ⟨.error, logger, template, arguments, none⟩

def withFailure (r : Record) (failure : Failure) : Record := { r with failure := some failure }

def skippedHit (hit : Value) : Record :=
  debug (rootLogger ++ ".core.hydration") "Skipping malformed hit: %r" [hit]

def numbered (r : Record) : Record Int := ⟨r.level, r.logger, r.template, r.arguments, r.failure⟩

end Record

namespace Threshold

def usual : Nat := Level.warning.number

def named : List (String × Nat) :=
  [("CRITICAL", 50), ("FATAL", 50), ("ERROR", 40), ("WARNING", 30), ("WARN", 30), ("INFO", 20),
    ("DEBUG", 10), ("NOTSET", 0)]

-- Names that stand for something other than a level: a text of a record's form, and a table of such
-- forms.
def misnamed : List (String × Fault) := [("BASIC_FORMAT", .badContent), ("_STYLES", .wrongKind)]

-- The capital form of a character, as far as it is made of the letters in the names above.
def capital (c : Char) : List Char :=
  if c = '\u0131' then ['I']
  else if c = '\u017f' then ['S']
  else if c = '\ufb05' || c = '\ufb06' then ['S', 'T']
  else [c.toUpper]

def capitals (name : String) : String := String.ofList (name.toList.flatMap capital)

def ofName (name : String) : Except Fault Nat :=
  match named.find? fun level => level.1 == capitals name, misnamed.find? fun m => m.1 == capitals name with
  | some (_, n), _ => .ok n
  | none, some (_, fault) => .error fault
  | none, none => .ok Level.info.number

def effective (level : Nat) : Nat := if level = 0 then usual else level

end Threshold
end SearchStore
