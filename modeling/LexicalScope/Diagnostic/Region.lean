import LexicalScope.Outline
import LexicalScope.Text.Offset

/-!
# Regions

A range of byte offsets in a source text. Nothing is required of the offsets: they may be in
reverse order, inside a character or past the end of the text.

* `Region.literal?` — the text of the range, if it has one
-/

namespace LexicalScope

/-- The bytes from `start` to `stop`, the latter excluded. -/
structure Region where
  start : Nat
  stop : Nat
  deriving Repr, DecidableEq

namespace Region

/-- The text of the region, if its ends are character boundaries of the source in the right order.
-/
def literal? (r : Region) (source : String) : Option String :=
  (Text.slice? source.toList r.start r.stop).map String.ofList

def outline (r : Region) : Outline :=
  .record "Region" [("begin", .nat r.start), ("end", .nat r.stop)]

end Region

end LexicalScope
