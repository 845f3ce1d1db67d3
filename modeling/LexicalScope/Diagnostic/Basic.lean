import LexicalScope.Diagnostic.Fault
import LexicalScope.Diagnostic.Pointer

/-!
# Diagnostics

A diagnostic reports what went wrong: its kind, a short reason, and optionally a help text, the
name of the source and a visual that shows the place.

* `Diagnostic.summary` — the reason on one line
* `Diagnostic.report` — the summary, the visual and the help
* `Diagnostic.inspect`, `Diagnostic.inspectBlock` — all parts by name; the former after the report
* `Diagnostic.same` — equality up to the visual
-/

namespace LexicalScope

/-- What a diagnostic is about. -/
inductive DiagnosticKind where
  | undefinedVariable
  | invalidScopeOperation
  | invalidName
  | serialization
  | service
  deriving Repr, DecidableEq

namespace DiagnosticKind

def name : DiagnosticKind → String
  | undefinedVariable => "UndefinedVariable"
  | invalidScopeOperation => "InvalidScopeOperation"
  | invalidName => "InvalidName"
  | serialization => "Serialization"
  | service => "Service"

def all : List DiagnosticKind :=
  [undefinedVariable, invalidScopeOperation, invalidName, serialization, service]

/-- The kind of the given name. -/
def ofName? (name : String) : Option DiagnosticKind := all.find? fun k => k.name == name

end DiagnosticKind

/-- What illustrates a diagnostic. -/
inductive Visual where
  | pointer (p : Pointer)
  /-- a remark that stands for itself -/
  | note (text : String)
  deriving Repr, DecidableEq

namespace Visual

/-- The lines of the visual, for a source of the given name and a diagnostic with the given help. -/
def render (v : Visual) (name help : Option String) : Except Fault String :=
  match v with
  | .pointer p =>
    match p.render? name help with
    | some s => .ok s
    | none => .error .tooWide
  | .note text => .ok ("<" ++ text ++ "|" ++ name.getD "none" ++ "|" ++ help.getD "none" ++ ">\n")

def outline : Visual → Outline
  | .pointer p => p.outline
  | .note text => .wrapped "Note" [.quoted text]

end Visual

/-- A report of what went wrong. -/
structure Diagnostic where
  kind : DiagnosticKind
  /-- a short summary -/
  reason : String
  visual : Option Visual := none
  /-- what may help to mend the error -/
  help : Option String := none
  /-- the name of the source -/
  name : Option String := none
  deriving Repr, DecidableEq

namespace Diagnostic

/-- Shows the place of the diagnostic by a pointer to a region of the source. -/
def pointTo (d : Diagnostic) (source : String) (r : Region) : Diagnostic :=
  { d with visual := some (.pointer (.of source r)) }

/-- The reason on one line. -/
def summary (d : Diagnostic) : String := "\x1b[31merror\x1b[0m: " ++ d.reason

/-- The summary, followed by the visual, or by the help alone if there is no visual. -/
def report (d : Diagnostic) : Except Fault String :=
  match d.visual with
  | some v =>
    match v.render d.name d.help with
    | .ok lines => .ok (d.summary ++ lines)
    | .error f => .error f
  | none =>
    match d.help with
    | some h => .ok (d.summary ++ "\n  = help: " ++ h ++ "\n")
    | none => .ok (d.summary ++ "\n")

/-- All parts by name. -/
def outline (d : Diagnostic) : Outline :=
  .record "Error"
    [("kind", .atom d.kind.name), ("reason", .quoted d.reason),
     ("name", .option (d.name.map .quoted)), ("visual", .option (d.visual.map Visual.outline)),
     ("help", .option (d.help.map .quoted))]

/-- The report, and below it all parts by name. -/
def inspect (d : Diagnostic) : Except Fault String :=
  match d.report with
  | .ok lines => .ok (lines ++ "\n" ++ d.outline.inline)
  | .error f => .error f

/-- All parts by name, on lines of their own. -/
def inspectBlock (d : Diagnostic) : String := d.outline.block

/-- Equality of all parts but the visual. -/
def same (a b : Diagnostic) : Bool :=
  a.kind = b.kind && a.reason == b.reason && a.help == b.help && a.name == b.name

end Diagnostic

end LexicalScope
