import CodeMarkup.Markup.SpanClass
import CodeMarkup.Markup.Collapse

/-!
# Pieces of a document

While rules work on a document it is a list of *pieces* (`CodeMarkup.Piece`): text
that later rules may still search, spans, and markup that is written as it is. Spans
and markup are sealed.

After each rule the pieces are brought into their normal form
(`CodeMarkup.Piece.merge`): no text is empty, and no two texts are neighbours.
-/

namespace CodeMarkup

/-- A piece of a document. -/
inductive Piece where
  /-- Escaped text that rules may search. -/
  | text (t : Text)
  /-- Escaped text in a span of a class. -/
  | span (c : SpanClass) (t : Text)
  /-- Markup, written as it is. -/
  | markup (t : Text)
  deriving DecidableEq, Repr, Inhabited

namespace Piece

/-- What a piece holds. -/
def content : Piece → Text
  | text t => t
  | span _ t => t
  | markup t => t

/-- The pieces with `p` before them: an empty text is left out, and a text becomes one
with the text it meets. -/
def cons (p : Piece) (ps : List Piece) : List Piece :=
  match p with
  | text [] => ps
  | text t =>
    match ps with
    | text u :: ps => text (t ++ u) :: ps
    | ps => text t :: ps
  | p => p :: ps

/-- The pieces with empty texts left out and neighbouring texts made one. -/
def merge (ps : List Piece) : List Piece := ps.foldr cons []

/-! ### Rendering -/

/-- The markup of one piece, with `classPrefix` before the name of the class. -/
def render (classPrefix : Text) : Piece → Text
  | text t => t
  | markup t => t
  | span c t =>
    Markup.spanOpen ++ classPrefix ++ c.name.toList ++ Markup.spanMid ++ t ++ Markup.spanClose

/-- The markup of a document. -/
def renderAll (classPrefix : Text) (ps : List Piece) : Text := ps.flatMap (render classPrefix)

end Piece

end CodeMarkup
