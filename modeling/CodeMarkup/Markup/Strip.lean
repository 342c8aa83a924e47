import CodeMarkup.Markup.Escape

/-!
# Markup without its tags

A tag runs from `<` to the next `>`. Since the angle brackets of the source are
escaped, every `<` of the markup opens a tag, and leaving the tags out
(`CodeMarkup.Markup.strip`) leaves the escaped source. With the entities read back
this is the source itself (`CodeMarkup.Markup.plain`).
-/

namespace CodeMarkup.Markup

/-- A text without its tags; with `inTag` it begins inside of one. A tag that does not
end goes up to the end of the text, and a `>` outside of tags stays. -/
def stripFrom (inTag : Bool) : Text → Text
  | [] => []
  | c :: t =>
    if c = '<' then stripFrom true t
    else if inTag then stripFrom (c ≠ '>') t
    else c :: stripFrom false t

/-- A text without its tags. -/
def strip (t : Text) : Text := stripFrom false t

/-- The source that markup was made from. -/
def plain (t : Text) : Text := unescape (strip t)

@[simp] theorem stripFrom_nil (inTag : Bool) : stripFrom inTag [] = [] := rfl

/-- A text without angle brackets has no tags. -/
theorem strip_append_of_forall_ne {s : Text} (h : ∀ c ∈ s, c ≠ '<') (t : Text) :
    strip (s ++ t) = s ++ strip t := by
  induction s with
  | nil => rfl
  | cons c s ih =>
    have hc := h c (by simp)
    have hs := ih fun d hd => h d (by simp [hd])
    simpa [strip, stripFrom, hc] using hs

end CodeMarkup.Markup
