import LexicalScope.Diagnostic.Pointer
import LexicalScope.Text.Bytes

/-!
# Pointers found by offsets

The pointer to a region can be found without taking the source apart: the ends of the region and of
its line are offsets, and what lies between two of them is a slice. A slice has to run forward from
boundary to boundary, and an offset on its way back to a boundary must not leave the source.

* `Pointer.ofOffsets?` — the pointer to a region; none if one of its slices is refused
-/

namespace LexicalScope.Pointer

open Text

/-- The pointer to a region, slice by slice. -/
def ofOffsets? (source : String) (r : Region) : Option Pointer := do
  let s := source.toList
  let start ← clamp? s r.start
  let before ← slice? s 0 start
  let lineStart := ((lastLineFeedAt? before).map (· + 1)).getD 0
  let after ← slice? s start (byteLength s)
  let lineStop := ((lineFeedAt? after).map (start + ·)).getD (byteLength s)
  let above ← slice? s 0 lineStart
  let lead ← slice? s lineStart start
  let reach ← clamp? s (max r.stop start)
  let mark ← slice? s start (min reach lineStop)
  let line ← slice? s lineStart lineStop
  some
    { line := lineFeeds above
      column := Width.width lead
      length := max 1 (Width.width mark)
      text := String.ofList line }

end LexicalScope.Pointer
