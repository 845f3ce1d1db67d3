/-!
# Faults

What cuts a call short. A fault is no answer of the call: it says that the call was made where it
must not be made.
-/

namespace LexicalScope

/-- What ends an operation without an answer. -/
inductive Fault where
  /-- a name is to be bound, but the table has no frame left -/
  | noFrame
  /-- a mark ends past the widest field that can be set -/
  | tooWide
  /-- a call that had to succeed was refused; the details of the refusal follow -/
  | refused (details : String)
  deriving Repr, DecidableEq

def Fault.message : Fault → String
  | noFrame => "root scope must never be removed"
  | tooWide => "Formatting argument out of range"
  | refused details => "called `Result::unwrap()` on an `Err` value: " ++ details

end LexicalScope
