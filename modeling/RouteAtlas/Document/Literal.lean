import RouteAtlas.Document.Value
import RouteAtlas.Syntax.Source

/-!
# Literal values in documents

`Value.ofScalar` carries a literal value of a declaration into a document, where it keeps its kind: a
truth value does not become a number, nor a number a text.
-/

namespace RouteAtlas.Document

open RouteAtlas.Syntax

/-- A literal value as a document value. -/
def Value.ofScalar : Scalar → Value
  | .str s => .str s
  | .surrogate t => .surrogate t
  | .int n => .int n
  | .float x => .float x
  | .bool b => .bool b

end RouteAtlas.Document
