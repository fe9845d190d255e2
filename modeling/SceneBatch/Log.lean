/-!
# Log lines

Loading and frame building tell what they did in log lines. A `Logged` value is a value with the
lines written on the way to it, oldest first.
-/

namespace SceneBatch

/-- How important a log line is. -/
inductive LogLevel where
  | warn
  | info
  | debug
  | trace
  deriving DecidableEq, Repr

namespace LogLevel

/-- The name of a level. -/
def label : LogLevel → String
  | warn => "WARN"
  | info => "INFO"
  | debug => "DEBUG"
  | trace => "TRACE"

end LogLevel

/-- One line of the log. -/
structure LogLine where
  level : LogLevel
  text : String
  deriving DecidableEq, Repr

/-- A value and the log lines written on the way to it. -/
structure Logged (α : Type) where
  value : α
  lines : List LogLine

namespace Logged

instance : Monad Logged where
  pure a := ⟨a, []⟩
  bind m f :=
    let r := f m.value
    ⟨r.value, m.lines ++ r.lines⟩

/-- Write one line. -/
def write (level : LogLevel) (text : String) : Logged Unit := ⟨(), [⟨level, text⟩]⟩

/-- Write a warning. -/
def warn : String → Logged Unit := write .warn

/-- Write an informational line. -/
def info : String → Logged Unit := write .info

/-- Write a line for those who look for a fault. -/
def debug : String → Logged Unit := write .debug

/-- Write a line for those who follow every step. -/
def trace : String → Logged Unit := write .trace

@[simp] theorem pure_value (a : α) : (pure a : Logged α).value = a := rfl

@[simp] theorem bind_value (m : Logged α) (f : α → Logged β) :
    (m >>= f).value = (f m.value).value := rfl

@[simp] theorem pure_lines (a : α) : (pure a : Logged α).lines = [] := rfl

@[simp] theorem bind_lines (m : Logged α) (f : α → Logged β) :
    (m >>= f).lines = m.lines ++ (f m.value).lines := rfl

end Logged

end SceneBatch
