/-!
# Log Records

The library writes no log. A function that has something to say returns its answer together
with the records that belong to it, in the order they arose, and whoever runs the program
decides where they go. So the log is part of what can be stated about a function, and a
function without records is known to be silent.

## Main definitions

* `LogRecord`: A message with a level and named fields.
* `LogRecord.isShown`, `LogRecord.render`: How the log of a run is shown.
* `Logged`: A value with the records that arose on the way to it.
* `Logged.note`: Adds one record.

## Theorems

* `Logged.value_pure`, `Logged.value_bind`: Records do not touch values.
-/

namespace CloneScan

/-- How much a record matters. -/
inductive LogLevel where
  | trace
  | debug
  | info
  | warn
  deriving Repr, DecidableEq

/-- The name of a level, as the log writes it. -/
def LogLevel.label : LogLevel → String
  | trace => "TRACE"
  | debug => "DEBUG"
  | info => "INFO"
  | warn => "WARN"

/-- The value of a named field of a record. -/
inductive FieldValue where
  | number (n : Nat)
  | truth (b : Bool)
  | text (s : String)
  deriving Repr, DecidableEq

/-- The value of a field as text. -/
def FieldValue.render : FieldValue → String
  | number n => toString n
  | truth b => if b then "true" else "false"
  | text s => s

/-- A message with a level and named fields. -/
structure LogRecord where
  /-- How much the record matters. -/
  level : LogLevel
  /-- What happened, as one line. -/
  message : String
  /-- What it happened to. -/
  fields : List (String × FieldValue)
  deriving Repr, DecidableEq

namespace LogRecord

/-- The record is worth showing. Details are for those who asked for them, and the finest ones
    are never shown. -/
def isShown (details : Bool) (r : LogRecord) : Bool :=
  match r.level with
  | .trace => false
  | .debug => details
  | .info | .warn => true

/-- A record as one line: its level, its message and its fields. -/
def render (r : LogRecord) : String :=
  let fields := r.fields.map fun (name, value) => s!" {name}={value.render}"
  s!"{r.level.label} {r.message}{String.join fields}"

end LogRecord

/-- A value together with the log records that arose on the way to it, in order. -/
structure Logged (α : Type) where
  value : α
  /-- The records, first one first. -/
  records : List LogRecord
  deriving Repr, DecidableEq

namespace Logged

variable {α β : Type}

/-- The records of the first part precede those of the second. -/
instance : Monad Logged where
  pure a := ⟨a, []⟩
  bind m f :=
    let next := f m.value
    ⟨next.value, m.records ++ next.records⟩

/-- A value by itself comes without records. -/
@[simp] theorem value_pure (a : α) : (pure a : Logged α).value = a :=
  rfl

/-- The value of two parts is that of the second, given the value of the first. -/
@[simp] theorem value_bind (m : Logged α) (f : α → Logged β) :
    (m >>= f).value = (f m.value).value :=
  rfl

/-- Adds one record. -/
def note (level : LogLevel) (message : String) (fields : List (String × FieldValue)) :
    Logged Unit :=
  ⟨(), [⟨level, message, fields⟩]⟩

end Logged

end CloneScan
