import LexicalScope.Diagnostic.Refusal
import LexicalScope.Json.Outline
import LexicalScope.Json.Reading.Value

/-!
# Compile responses

The service answers with an object. If this has a member `error` that is a string, the service
failed and the string is its message; any other object holds the sections of the result, whatever
its members are.

* `Response.ofValue`, `Response.ofText` — classify an answer
* `Response.section?`, `Response.result` — what an answer holds
-/

namespace LexicalScope.Service

/-- The member that marks a failure. -/
def errorField : String := "error"

/-- An answer of the service that could be told apart. -/
inductive Response where
  | success (sections : Dict String Json)
  | failure (message : String)

namespace Response

/-- Classifies an answer. The error member is taken out to be looked at, and put back if it is no
message. -/
def ofValue : Json → Except Refusal Response
  | .object members =>
    let others := members.erase errorField
    match members.get? errorField with
    | some (.string message) => .ok (.failure message)
    | some v => .ok (.success (others.insert errorField v))
    | none => .ok (.success others)
  | v => .error (.unconvertible ("expected a response object, found `" ++ v.toText ++ "`"))

/-- Reads and classifies an answer. -/
def ofText (s : String) : Except Refusal Response :=
  match Json.ofText s with
  | .ok v => ofValue v
  | .error e => .error (.unconvertible e.message)

def isFailure : Response → Bool
  | success _ => false
  | failure _ => true

/-- A section of the result; a failure has none. -/
def section? : Response → String → Option Json
  | success sections, name => sections.get? name
  | failure _, _ => none

/-- The sections, or the message of the service. -/
def result : Response → Except Refusal (Dict String Json)
  | success sections => .ok sections
  | failure message => .error (.service message)

/-- Equality under the equality of data values. -/
def same : Response → Response → Bool
  | success a, success b => Json.sameMembers a.entries b.entries
  | failure a, failure b => a == b
  | _, _ => false

def outline : Response → Outline
  | success sections => .wrapped "Success" [.map (Json.outlineMembers sections.entries)]
  | failure message => .record "Failure" [("error", .quoted message)]

end Response

end LexicalScope.Service
