import CodeMarkup.Text

/-!
# Spans that only wrap a span

A span whose whole content is one other span, which holds text only, adds nothing;
`CodeMarkup.Markup.collapse` leaves the outer one out. One pass
(`CodeMarkup.Markup.collapseOnce`) finds such pairs from left to right, each behind
the one before it, and passes follow one another until one changes nothing. A pass
that changes something leaves out two tags, at least 22 characters, so the length of
the text bounds the number of passes.

What the search looks for is told by characters alone, whether the text is well
formed or not: a tag `<span class="…">` with anything but a quote between the
quotes, twice in a row, then text without `<`, then `</span>` twice.
-/

namespace CodeMarkup.Markup

/-- What stands before the class of a span. -/
def spanOpen : Text := "<span class=\"".toList

/-- What stands behind the class of a span. -/
def spanMid : Text := "\">".toList

/-- What stands behind the content of a span. -/
def spanClose : Text := "</span>".toList

/-- The text behind `start`, if the text begins with it. -/
def afterStart? (start : Text) (t : Text) : Option Text :=
  if start.isPrefixOf t then some (t.drop start.length) else none

/-- The text behind the opening tag of a span, if the text begins with one. -/
def afterOpenTag? (t : Text) : Option Text :=
  (afterStart? spanOpen t).bind fun t => afterStart? spanMid (t.dropWhile (· ≠ '"'))

/-- The text behind a span that holds text only, if the text begins with one. -/
def afterPlainSpan? (t : Text) : Option Text :=
  (afterOpenTag? t).bind fun t => afterStart? spanClose (t.dropWhile (· ≠ '<'))

/-- If the text begins with a span whose whole content is a span of text: this inner
span, and the number of characters of the outer one. -/
def wrapped? (t : Text) : Option (Text × Nat) := do
  let inner ← afterOpenTag? t
  let behind ← afterPlainSpan? inner
  let rest ← afterStart? spanClose behind
  return (inner.take (inner.length - behind.length), t.length - rest.length)

/-- The text with each outer span that is found left out; the first `skip` characters
belong to a span that has been dealt with. -/
def collapseFrom : Nat → Text → Text
  | _, [] => []
  | skip + 1, _ :: t => collapseFrom skip t
  | 0, c :: t =>
    match wrapped? (c :: t) with
    | some (inner, length) => inner ++ collapseFrom (length - 1) t
    | none => c :: collapseFrom 0 t

/-- One pass over the text. -/
def collapseOnce (t : Text) : Text := collapseFrom 0 t

/-- Passes over the text until one changes nothing, and at most `n` of them. -/
def collapseUpTo : Nat → Text → Text
  | 0, t => t
  | n + 1, t =>
    let t' := collapseOnce t
    if t' = t then t else collapseUpTo n t'

/-- The text without the spans that only wrap a span. -/
def collapse (t : Text) : Text := collapseUpTo t.length t

end CodeMarkup.Markup
