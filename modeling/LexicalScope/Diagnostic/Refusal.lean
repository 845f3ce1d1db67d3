import LexicalScope.Diagnostic.Basic

/-!
# Refusals

Why an operation is refused. Each cause has its diagnostic; the wording is here and nowhere else.

* `Refusal.diagnostic` — the report of a refusal
* `Failure` — a call is refused, or a fault cuts it short
-/

namespace LexicalScope

/-- Why an operation is refused. -/
inductive Refusal where
  /-- no frame binds the name -/
  | undefined (name : String)
  /-- the root frame would be closed -/
  | rootScope
  /-- a scoped block would close a frame that it did not open -/
  | scopeFloor
  /-- the name is empty or contains a blank or a control character -/
  | invalidName (name : String)
  /-- a value has no data form, or a data value is not of the type asked for -/
  | unconvertible (details : String)
  /-- the compile service answered with this message -/
  | service (message : String)
  deriving Repr, DecidableEq

namespace Refusal

/-- The kind under which a refusal is reported; the root and the floor of a block share one. -/
def kind : Refusal → DiagnosticKind
  | undefined _ => .undefinedVariable
  | rootScope => .invalidScopeOperation
  | scopeFloor => .invalidScopeOperation
  | invalidName _ => .invalidName
  | unconvertible _ => .serialization
  | service _ => .service

/-- The short reason, one for each kind. -/
def reason : Refusal → String
  | undefined _ => "undefined variable"
  | rootScope => "invalid scope operation"
  | scopeFloor => "invalid scope operation"
  | invalidName _ => "invalid name"
  | unconvertible _ => "serialization failure"
  | service _ => "compile service failure"

/-- What the user is told besides the reason. -/
def help : Refusal → String
  | undefined name => "`" ++ name ++ "` is not declared in any enclosing scope"
  | rootScope => "the root scope must never be removed, is every exit paired with an enter?"
  | scopeFloor => "a scoped block may only exit scopes it entered itself"
  | invalidName name =>
    if name.isEmpty then "names must not be empty"
    else "name " ++ Text.quote name ++ " must not contain whitespace or control characters"
  | unconvertible details => details
  | service message => message

def diagnostic (r : Refusal) : Diagnostic :=
  { kind := r.kind, reason := r.reason, help := some r.help }

/-- The fault of a call that had to succeed and was refused. -/
def fault (r : Refusal) : Fault :=
  match r.diagnostic.inspect with
  | .ok details => .refused details
  | .error f => f

end Refusal

/-- Why a call does not give what it was made for. -/
inductive Failure where
  | refused (r : Refusal)
  | aborted (f : Fault)
  deriving Repr, DecidableEq

/-- The fault of a failed call that had to succeed. -/
def Failure.fault : Failure → Fault
  | refused r => r.fault
  | aborted f => f

end LexicalScope
