import LexicalScope.Json.Text
import LexicalScope.Outline

/-!
# Outlines of data values

A value is shown with the kind of each part: `Object {"a": Array [Null, Number(1)]}`.
-/

namespace LexicalScope.Json

mutual

/-- The outline of a value. -/
def outline : Json → Outline
  | .null => .atom "Null"
  | .bool b => .wrapped "Bool" [.atom (if b then "true" else "false")]
  | .whole n => .wrapped "Number" [.atom (String.ofList (integerText n.val))]
  | .float x => .wrapped "Number" [.atom (String.ofList x.text)]
  | .string s => .wrapped "String" [.quoted s]
  | .array items => .labelled "Array" (.list (outlineItems items))
  | .object ⟨members⟩ => .labelled "Object" (.map (outlineMembers members))
termination_by structural v => v

def outlineItems : List Json → List Outline
  | [] => []
  | v :: rest => v.outline :: outlineItems rest
termination_by structural items => items

/-- The outlines of members under their names. -/
def outlineMembers : List (String × Json) → List (String × Outline)
  | [] => []
  | (k, v) :: rest => (k, v.outline) :: outlineMembers rest
termination_by structural members => members

end

end LexicalScope.Json
