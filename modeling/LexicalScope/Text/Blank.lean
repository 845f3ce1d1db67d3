import LexicalScope.Text.Ranges

/-!
# Blank and control characters

The two classes that a name must be free of: white space (the Unicode property `White_Space`) and
control characters (general category `Cc`).

* `isBlank`, `isControl` — the classes
-/

namespace LexicalScope.Text

/-- The characters with the property `White_Space`. -/
def blanks : Ranges :=
  [(0x9, 0xD), (0x20, 0x20), (0x85, 0x85), (0xA0, 0xA0), (0x1680, 0x1680), (0x2000, 0x200A),
    (0x2028, 0x2029), (0x202F, 0x202F), (0x205F, 0x205F), (0x3000, 0x3000)]

/-- The characters of category `Cc`. -/
def controls : Ranges := [(0x0, 0x1F), (0x7F, 0x9F)]

def isBlank (c : Char) : Bool := blanks.contains c

def isControl (c : Char) : Bool := controls.contains c

end LexicalScope.Text
