import CodeMarkup.Regex.Segment
import CodeMarkup.Piece

/-!
# Rules

A rule replaces every match of a pattern in the texts of a document by pieces
(`CodeMarkup.Rule`); what lies between the matches stays text. A rule set applies
its rules one after the other (`CodeMarkup.RuleSet.apply`), each to the texts that
the rules before it have left. So what an earlier rule has sealed no later rule
looks into, which keeps the words of a comment from being taken for keywords.

Rules search escaped text. What an emitter makes of a match may depend on all there is to
know of it (`CodeMarkup.Regex.Match`): what its groups take, where they stand, and the
text around it. An emitter is asked to spell out its match: what it returns should hold,
all in all, the text that was matched.
-/

namespace CodeMarkup

/-- What is made of a run is made of a match, wherever it stands. -/
instance : Coe (Regex.Run → List Piece) (Regex.Match → List Piece) := ⟨fun emit m => emit m.run⟩

/-- What a rule makes of a match. -/
inductive Emitter where
  /-- A span of a class around the whole match. -/
  | wrap (c : SpanClass)
  /-- Pieces made from the match and its groups. -/
  | custom (emit : Regex.Match → List Piece)

/-- The pieces that replace a match. -/
def Emitter.emit : Emitter → Regex.Match → List Piece
  | wrap c, m => [.span c m.run.taken]
  | custom emit, m => emit m

/-- A pattern with what is made of its matches. -/
structure Rule where
  /-- The name of the rule. -/
  name : String
  /-- What is searched for. -/
  pattern : Regex
  /-- What a match is replaced by. -/
  emitter : Emitter

namespace Rule

/-- The rule that wraps the matches of a pattern in spans of a class. -/
def ofClass (name pattern : String) (c : SpanClass) : Except Regex.PatternError Rule :=
  (Regex.compile pattern).map fun r => ⟨name, r, .wrap c⟩

/-- The pieces that replace a segment of the text `t`, which is given with its place. -/
def onSegment (rule : Rule) (t : Text) : Nat × Regex.Segment → List Piece
  | (_, .gap u) => [.text u]
  | (n, .hit r) => rule.emitter.emit ⟨t, n, r⟩

/-- The pieces that replace segments of the text `t`, before which there are `n` characters
of it. -/
def onSegments (rule : Rule) (t : Text) (n : Nat) (ss : List Regex.Segment) : List Piece :=
  (Regex.Segment.placed n ss).flatMap (rule.onSegment t)

@[simp] theorem onSegments_nil (rule : Rule) (t : Text) (n : Nat) : rule.onSegments t n [] = [] :=
  rfl

@[simp] theorem onSegments_cons (rule : Rule) (t : Text) (n : Nat) (s : Regex.Segment)
    (ss : List Regex.Segment) :
    rule.onSegments t n (s :: ss) =
      rule.onSegment t (n, s) ++ rule.onSegments t (n + s.text.length) ss := rfl

/-- The pieces that replace a text. -/
def onText (rule : Rule) (t : Text) : List Piece := rule.onSegments t 0 (rule.pattern.segments t)

/-- The pieces that replace a piece: only texts are searched. -/
def onPiece (rule : Rule) : Piece → List Piece
  | .text t => rule.onText t
  | p => [p]

/-- A document after the rule. -/
def onPieces (rule : Rule) (ps : List Piece) : List Piece := Piece.merge (ps.flatMap rule.onPiece)

end Rule

/-- The rules of a language, in the order in which they are applied. -/
structure RuleSet where
  /-- The name of the language. -/
  name : String
  /-- The rules. -/
  rules : List Rule

namespace RuleSet

/-- Whether there is no rule. -/
def isEmpty (set : RuleSet) : Bool := set.rules.isEmpty

/-- The pieces that the rules make of an escaped text. -/
def apply (set : RuleSet) (escaped : Text) : List Piece :=
  set.rules.foldl (fun ps rule => rule.onPieces ps) [.text escaped]

end RuleSet

end CodeMarkup
