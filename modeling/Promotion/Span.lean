/-!
# Spans

Where a node of the tree stands in its source text.  Positions are 64-bit byte offsets, the line and the column are
32-bit and count from one; nothing in the library does arithmetic on them, they are only carried from node to node.
-/
namespace Promotion

/-- A stretch of source text: byte offsets `start` up to but not including `stop`, and the line and column of `start`. -/
structure Span where
  start : UInt64
  stop : UInt64
  line : UInt32
  column : UInt32
deriving DecidableEq, Repr

/-- The span of a node that stands nowhere in a source text. -/
def Span.synthetic : Span := ⟨0, 0, 1, 1⟩

instance : Inhabited Span := ⟨Span.synthetic⟩

end Promotion
