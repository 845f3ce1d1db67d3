import LexicalScope.Json.Text
import LexicalScope.Outline

/-!
# Compile requests

A request carries source code to the compile service; its body is an object whose one member is
the code.
-/

namespace LexicalScope.Service

/-- A request to the service: the text of the program that it is to work on. -/
structure Request where
  code : String
  deriving Repr, DecidableEq

namespace Request

/-- The body of the request as a data value. -/
def toJson (r : Request) : Json := .ofMembers [("code", .string r.code)]

/-- The body that is sent. -/
def body (r : Request) : String := r.toJson.toText

def outline (r : Request) : Outline := .record "CompileRequest" [("code", .quoted r.code)]

end Request

end LexicalScope.Service
