import CiWorkflow.Calendar

set_option autoImplicit false

namespace CiWorkflow.Yaml

inductive Fault where
  /-- The text is no acceptable document. -/
  | malformed
  /-- An escape names a code point past the last one. -/
  | codePoint (n : Nat)
  | integer (base : Nat) (text : String)
  /-- A whole number with more digits than are accepted. -/
  | longInteger (digits : Nat)
  | decimal (text : String)
  /-- A number without any character. -/
  | emptyNumber
  | boolWord (text : String)
  /-- A text tagged as a timestamp that is none. -/
  | timestamp
  /-- A mapping tagged as a timestamp. -/
  | mappedTimestamp
  /-- A place of a number in base sixty counts for more than any float. -/
  | hugePlace
  | calendar (fault : CalendarFault)
  deriving DecidableEq, Repr

def Fault.message : Fault → String
  | .malformed => "malformed document"
  | .codePoint n =>
    if n < 0x80000000 then "chr() arg not in range(0x110000)"
    else "Python int too large to convert to C int"
  | .integer base text => s!"invalid literal for int() with base {base}: " ++ Text.quoted text
  | .longInteger digits =>
    s!"Exceeds the limit (4300 digits) for integer string conversion: value has {digits} digits; "
      ++ "use sys.set_int_max_str_digits() to increase the limit"
  | .decimal text => "could not convert string to float: " ++ Text.quoted text
  | .emptyNumber => "string index out of range"
  | .boolWord text => Text.quoted text
  | .timestamp => "'NoneType' object has no attribute 'groupdict'"
  | .mappedTimestamp => "expected string or bytes-like object, got 'list'"
  | .hugePlace => "int too large to convert to float"
  | .calendar fault => fault.message

def orMalformed {α : Type} : Option α → Except Fault α
  | some a => .ok a
  | none => .error .malformed

end CiWorkflow.Yaml
