import CodeMarkup.Proofs.Markup.Forests

/-!
# Wrappers that stay

A wrapper is a span whose whole content is one other span. Collapsing is there to leave wrappers
out, and leaves out those around a chain. The others stay: the pattern has no tag between the tags of
the span inside, so it does not match where the span inside holds a text and a span, or two spans.

**Exactly these wrappers are left** (`CodeMarkup.Markup.Forest.hasWrapper_collapse_iff`): what comes
of collapsing has a wrapper if and only if there has been one around a span that is no chain. None
of them goes away, and none is made, since leaving out the wrapper of a chain does not change whether
a content is one span.
-/

namespace CodeMarkup.Markup

/-- **A wrapper is in a text**: it is the markup of a forest in which the whole content of a span is
one other span. -/
def HasWrapper (t : Text) : Prop :=
  ∃ f : Forest, f.markup = t ∧ ∃ s ∈ f.spansFrom 0, s.inner.isSpan

namespace Forest

theorem hasWrapper_markup_iff {f : Forest} :
    HasWrapper f.markup ↔ ∃ s ∈ f.spansFrom 0, s.inner.isSpan := by
  constructor
  · rintro ⟨g, hg, h⟩
    rwa [← markup_injective hg]
  · intro h
    exact ⟨f, rfl, h⟩

theorem isSpan_reduce (f : Forest) : f.reduce.isSpan = f.isSpan := by
  cases f with
  | nil | char => rfl
  | span v inner rest =>
    obtain ⟨w, x, hwrap⟩ := exists_wrap_eq v rest.reduce inner.reduce
    rw [reduce, hwrap]
    by_cases hrest : rest = nil
    · subst hrest
      rfl
    · have hne : rest.reduce ≠ nil := fun h => hrest (reduce_eq_nil_iff.1 h)
      rw [(not_isSpan_of_ne_nil hne w x).1, (not_isSpan_of_ne_nil hrest v inner).1]

theorem isSpan_of_isText {f : Forest} (h : f.isText) : f.isSpan = false := by
  cases f with
  | nil | char => rfl
  | span => cases h

theorem exists_mem_spansFrom_span {P : Forest → Prop} {v : ClassValue} {inner rest : Forest}
    {n : Nat} :
    (∃ s ∈ (span v inner rest).spansFrom n, P s.inner) ↔
      P inner ∨ (∃ s ∈ inner.spansFrom n, P s.inner) ∨
        ∃ s ∈ rest.spansFrom (n + inner.text.length), P s.inner := by
  simp only [spansFrom, List.mem_cons, List.mem_append, or_and_right, exists_or, exists_eq_left]

/-- **The wrappers of the reduced forest** are those around a span that is no chain. -/
theorem exists_wrapper_reduce_iff (f : Forest) (n : Nat) :
    (∃ s ∈ f.reduce.spansFrom n, s.inner.isSpan) ↔
      ∃ s ∈ f.spansFrom n, s.inner.isSpan ∧ s.inner.isChain = false := by
  induction f generalizing n with
  | nil => simp [reduce, spansFrom]
  | char c rest ih => exact ih (n + 1)
  | span v inner rest ihinner ihrest =>
    rw [reduce, exists_mem_spansFrom_span (P := fun f => f.isSpan ∧ f.isChain = false), ← ihinner,
      ← ihrest, ← isLeaf_reduce, ← isSpan_reduce, ← text_reduce]
    rcases wrap_cases v rest.reduce inner.reduce with ⟨w, x, hinner, hx, hwrap⟩ | ⟨hleaf, hwrap⟩
    · -- The span inside is no wrapper, and there is none in it.
      have hspan := isSpan_of_isText hx
      have htext : (span w x nil).text = x.text := List.append_nil _
      rw [hwrap, hinner, htext, exists_mem_spansFrom_span (P := fun f => f.isSpan),
        exists_mem_spansFrom_span (P := fun f => f.isSpan)]
      simp [hspan, spansFrom_of_isText hx, isLeaf, hx, spansFrom]
    · rw [hwrap, exists_mem_spansFrom_span (P := fun f => f.isSpan)]
      simp [hleaf]

/-- **The wrappers that are left** by collapsing are those around a span that is no chain: there is
one in what comes of it if and only if there has been one of this kind. -/
theorem hasWrapper_collapse_iff (f : Forest) :
    HasWrapper (collapse f.markup) ↔
      ∃ s ∈ f.spansFrom 0, s.inner.isSpan ∧ s.inner.isChain = false := by
  rw [collapse_eq_markup_reduce, hasWrapper_markup_iff]
  exact exists_wrapper_reduce_iff f 0

/-- A span around a span that holds a text and a span. -/
def wrappedMixture : Forest :=
  span (letterClass 'a')
    (span (letterClass 'b')
      (char ⟨'x', by decide⟩ (span (letterClass 'c') (char ⟨'y', by decide⟩ nil) nil)) nil) nil

/-- **A wrapper stays** around a span that holds a text and a span. -/
theorem hasWrapper_collapse_wrappedMixture :
    wrappedMixture.markup =
        ("<span class=\"a\"><span class=\"b\">x<span class=\"c\">y</span></span></span>").toList ∧
      collapse wrappedMixture.markup = wrappedMixture.markup ∧
      HasWrapper (collapse wrappedMixture.markup) := by
  have hsame : collapse wrappedMixture.markup = wrappedMixture.markup := by decide +kernel
  refine ⟨by decide, hsame, ?_⟩
  rw [hsame]
  exact ⟨wrappedMixture, rfl, _, List.mem_cons_self, rfl⟩

end Forest

end CodeMarkup.Markup
