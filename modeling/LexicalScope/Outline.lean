import LexicalScope.Text.Quoted

/-!
# Outlines

How a structured value is shown to a developer: the names of its parts with their contents. An
outline has two renderings.

* `Outline.inline` — on one line: `Point { x: 1, tags: ["a"] }`
* `Outline.block` — one part on a line, each followed by a comma, four more spaces for each level
-/

namespace LexicalScope

/-- What is shown of a value. -/
inductive Outline where
  /-- a text as it is -/
  | atom (text : String)
  /-- a name in front of a value -/
  | labelled (label : String) (body : Outline)
  /-- a name with named parts -/
  | record (name : String) (fields : List (String × Outline))
  /-- a name with parts in parentheses -/
  | wrapped (name : String) (parts : List Outline)
  /-- items in brackets -/
  | list (items : List Outline)
  /-- entries in braces; the keys are quoted -/
  | map (entries : List (String × Outline))

namespace Outline

/-- A quoted string. -/
def quoted (s : String) : Outline := atom (Text.quote s)

/-- A number. -/
def nat (n : Nat) : Outline := atom (toString n)

/-- A value that may be missing. -/
def option : Option Outline → Outline
  | none => atom "None"
  | some o => wrapped "Some" [o]

/-- The texts with commas and spaces between them. -/
def commas (texts : List String) : String := ", ".intercalate texts

mutual

/-- The rendering on one line. -/
def inline : Outline → String
  | .atom s => s
  | .labelled label body => label ++ " " ++ body.inline
  | .record name [] => name
  | .record name fields => name ++ " \x7b " ++ commas (inlineFields fields) ++ " \x7d"
  | .wrapped name parts => name ++ "(" ++ commas (inlineItems parts) ++ ")"
  | .list items => "[" ++ commas (inlineItems items) ++ "]"
  | .map entries => "\x7b" ++ commas (inlineEntries entries) ++ "\x7d"
termination_by structural o => o

/-- Items on one line. -/
def inlineItems : List Outline → List String
  | [] => []
  | o :: rest => o.inline :: inlineItems rest
termination_by structural items => items

/-- Fields on one line, each after its name. -/
def inlineFields : List (String × Outline) → List String
  | [] => []
  | (k, o) :: rest => (k ++ ": " ++ o.inline) :: inlineFields rest
termination_by structural fields => fields

/-- Entries on one line, each after its quoted key. -/
def inlineEntries : List (String × Outline) → List String
  | [] => []
  | (k, o) :: rest => (Text.quote k ++ ": " ++ o.inline) :: inlineEntries rest
termination_by structural entries => entries

end

/-- A line break and the indentation of the given level. -/
def newline (level : Nat) : String := "\n" ++ String.ofList (List.replicate (4 * level) ' ')

/-- The parts on lines of their own between two brackets; nothing between the brackets if there are
none. -/
def enclose (opening closing : String) (level : Nat) (parts : List String) : String :=
  if parts.isEmpty then opening ++ closing
  else
    let lines := parts.map fun p => newline (level + 1) ++ p ++ ","
    opening ++ String.join lines ++ newline level ++ closing

mutual

/-- The rendering on several lines, the first of which stands at the given level. -/
def blockAt (level : Nat) : Outline → String
  | .atom s => s
  | .labelled label body => label ++ " " ++ body.blockAt level
  | .record name [] => name
  | .record name fields => enclose (name ++ " \x7b") "\x7d" level (blockFields (level + 1) fields)
  | .wrapped name parts => enclose (name ++ "(") ")" level (blockItems (level + 1) parts)
  | .list items => enclose "[" "]" level (blockItems (level + 1) items)
  | .map entries => enclose "\x7b" "\x7d" level (blockEntries (level + 1) entries)
termination_by structural o => o

/-- Items for a block that is indented by `level` steps. -/
def blockItems (level : Nat) : List Outline → List String
  | [] => []
  | o :: rest => o.blockAt level :: blockItems level rest
termination_by structural items => items

/-- Fields for such a block, each after its name. -/
def blockFields (level : Nat) : List (String × Outline) → List String
  | [] => []
  | (k, o) :: rest => (k ++ ": " ++ o.blockAt level) :: blockFields level rest
termination_by structural fields => fields

/-- Entries for such a block, each after its quoted key. -/
def blockEntries (level : Nat) : List (String × Outline) → List String
  | [] => []
  | (k, o) :: rest => (Text.quote k ++ ": " ++ o.blockAt level) :: blockEntries level rest
termination_by structural entries => entries

end

/-- The rendering on several lines. -/
def block (o : Outline) : String := o.blockAt 0

end Outline

end LexicalScope
