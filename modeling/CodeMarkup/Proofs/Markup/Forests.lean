import CodeMarkup.Proofs.Markup.Unwrapping

/-!
# Forests of spans

Markup in which the tags of spans are properly nested is written from a *forest*
(`CodeMarkup.Markup.Forest`): characters and spans in a row, where a span holds a forest again. No
two forests have the same markup (`CodeMarkup.Markup.Forest.markup_injective`).

On forests collapsing is a matter of the tree (`CodeMarkup.Markup.Forest.reduce`): from the inside
out, a span that holds a span of text and nothing else gives way to this span. Two things have to be
seen. **A match in the markup is a span of the forest**, with the tags of the pattern at the tags of
the forest, so a step leads from the markup of a forest to that of another one
(`CodeMarkup.Markup.Forest.exists_of_unwraps`). And **no step changes what the forest reduces
to**. So it does not matter in which order the matches are found: where nothing is left to be
found, the forest is the reduced one (`CodeMarkup.Markup.Forest.eq_markup_reduce`).

A chain of spans around a text comes down to the innermost one in this way, and the spans that are
kept are those that do not wrap a chain (`CodeMarkup.Markup.Forest.spansFrom_reduce`).
-/

namespace CodeMarkup.Markup

/-- A value of the class attribute: no character of it means something in a tag. -/
def ClassValue : Type := {v : Text // ∀ c ∈ v, c ≠ '"' ∧ c ≠ '<' ∧ c ≠ '>'}

theorem ClassValue.quote_not_mem (v : ClassValue) : '"' ∉ v.val := fun h => (v.property _ h).1 rfl

/-- A forest of spans: characters that begin no tag, and spans that hold a forest. -/
inductive Forest where
  /-- Nothing. -/
  | nil
  /-- A character, before a forest. -/
  | char (c : {c : Char // c ≠ '<'}) (rest : Forest)
  /-- A span with a forest inside, before a forest. -/
  | span (v : ClassValue) (inner rest : Forest)

namespace Forest

/-- The markup of a forest. -/
def markup : Forest → Text
  | nil => []
  | char c rest => c.val :: rest.markup
  | span v inner rest => spanTag v.val ++ (inner.markup ++ (spanClose ++ rest.markup))

/-- The text of a forest, without its tags. -/
def text : Forest → Text
  | nil => []
  | char c rest => c.val :: rest.text
  | span _ inner rest => inner.text ++ rest.text

/-- Whether there is no span in a forest. -/
def isText : Forest → Bool
  | nil => true
  | char _ rest => rest.isText
  | span _ _ _ => false

/-- Whether a forest is one span, which holds text only. -/
def isLeaf : Forest → Bool
  | span _ inner nil => inner.isText
  | _ => false

/-- A span around `inner`, before `rest`; if it would only wrap a span of text, this span. -/
def wrap (v : ClassValue) (rest : Forest) : Forest → Forest
  | span w x nil => if x.isText then span w x rest else span v (span w x nil) rest
  | inner => span v inner rest

/-- **The reduced forest**: from the inside out, each span whose whole content is a span of text by
then gives way to this span. -/
def reduce : Forest → Forest
  | nil => nil
  | char c rest => char c rest.reduce
  | span v inner rest => wrap v rest.reduce inner.reduce

/-! ### Reading markup -/

/-- What may stand behind the markup of a forest: nothing, or a closing tag. -/
def Ends (k : Text) : Prop := k = [] ∨ ∃ u, k = spanClose ++ u

theorem ends_nil : Ends [] := .inl rfl

theorem ends_close (u : Text) : Ends (spanClose ++ u) := .inr ⟨u, rfl⟩

theorem Ends.ne_cons {k t : Text} {c : Char} (h : Ends k) (hc : c ≠ '<') : k ≠ c :: t := by
  rintro rfl
  rcases h with h | ⟨u, h⟩
  · cases h
  · rw [spanClose_append] at h
    exact hc (List.cons.inj h).1

theorem Ends.ne_spanTag {k t v : Text} (h : Ends k) : k ≠ spanTag v ++ t := by
  rintro rfl
  rcases h with h | ⟨u, h⟩
  · rw [spanTag_append] at h
    cases h
  · exact spanTag_append_ne v t u h

/-- An opening tag ends behind its class. -/
theorem spanTag_append_inj {v w t u : Text} (hv : '"' ∉ v) (hw : '"' ∉ w)
    (h : spanTag v ++ t = spanTag w ++ u) : v = w ∧ t = u := by
  have hclass : v ++ '"' :: '>' :: t = w ++ '"' :: '>' :: u := by
    simpa [spanTag, spanMid_eq] using h
  obtain ⟨rfl, htail⟩ := eq_of_append_quote hv hw hclass
  exact ⟨rfl, (List.cons.inj htail).2⟩

theorem char_ne_spanTag {c : Char} (hc : c ≠ '<') (s t v : Text) : c :: s ≠ spanTag v ++ t := by
  intro h
  rw [spanTag_append] at h
  exact hc (List.cons.inj h).1

variable {f g : Forest} {k k' : Text}

theorem markup_span_append (v : ClassValue) (inner rest : Forest) (k : Text) :
    (span v inner rest).markup ++ k =
      spanTag v.val ++ (inner.markup ++ (spanClose ++ (rest.markup ++ k))) := by
  simp [markup]

/-- **Markup is read in one way**, up to the closing tag behind it. -/
theorem markup_append_inj (hk : Ends k) (hk' : Ends k')
    (h : f.markup ++ k = g.markup ++ k') : f = g ∧ k = k' := by
  induction f generalizing g k k' with
  | nil =>
    cases g with
    | nil => exact ⟨rfl, h⟩
    | char c rest => exact absurd h (hk.ne_cons c.property)
    | span v inner rest =>
      rw [markup_span_append] at h
      exact absurd h hk.ne_spanTag
  | char c rest ih =>
    cases g with
    | nil => exact absurd h.symm (hk'.ne_cons c.property)
    | char d rest' =>
      obtain ⟨hcd, htail⟩ := List.cons.inj h
      obtain ⟨rfl, rfl⟩ := ih hk hk' htail
      obtain rfl := Subtype.ext hcd
      exact ⟨rfl, rfl⟩
    | span v inner rest' =>
      rw [markup_span_append] at h
      exact absurd h (char_ne_spanTag c.property _ _ _)
  | span v inner rest ihinner ihrest =>
    rw [markup_span_append] at h
    cases g with
    | nil => exact absurd h.symm hk'.ne_spanTag
    | char c rest' => exact absurd h.symm (char_ne_spanTag c.property _ _ _)
    | span w inner' rest' =>
      rw [markup_span_append] at h
      obtain ⟨hvw, hbehind⟩ := spanTag_append_inj v.quote_not_mem w.quote_not_mem h
      obtain ⟨rfl, hclose⟩ := ihinner (ends_close _) (ends_close _) hbehind
      obtain ⟨rfl, rfl⟩ := ihrest hk hk' (List.append_cancel_left hclose)
      obtain rfl := Subtype.ext hvw
      exact ⟨rfl, rfl⟩

/-- **No two forests have the same markup.** -/
theorem markup_injective : Function.Injective markup := by
  intro f g h
  exact (markup_append_inj ends_nil ends_nil (by rw [h])).1

theorem markup_eq_nil_iff : f.markup = [] ↔ f = nil := by
  constructor
  · intro h
    exact markup_injective h
  · rintro rfl
    rfl

theorem angle_not_mem_markup (h : f.isText) : '<' ∉ f.markup := by
  induction f with
  | nil => simp [markup]
  | char c rest ih => simpa [markup, c.property.symm] using ih h
  | span => cases h

/-! ### Where a match stands in the markup of a forest -/

/-- A text before a closing tag is all that the forest has. -/
theorem isText_of_append_close {x b : Text} (hx : '<' ∉ x) (hk : Ends k)
    (h : f.markup ++ k = x ++ (spanClose ++ b)) :
    f.isText ∧ f.markup = x ∧ k = spanClose ++ b := by
  induction f generalizing x with
  | nil =>
    cases x with
    | nil => exact ⟨rfl, rfl, h⟩
    | cons c x =>
      have hc : c ≠ '<' := fun hc => hx (by simp [hc])
      exact absurd h (hk.ne_cons hc)
  | char c rest ih =>
    cases x with
    | nil =>
      rw [List.nil_append, spanClose_append] at h
      exact absurd (List.cons.inj h).1 c.property
    | cons d x =>
      obtain ⟨hcd, htail⟩ := List.cons.inj h
      obtain ⟨htext, hmarkup, hclose⟩ := ih (fun hmem => hx (by simp [hmem])) htail
      exact ⟨htext, by rw [markup, hmarkup, hcd], hclose⟩
  | span v inner rest =>
    rw [markup_span_append] at h
    cases x with
    | nil => exact absurd h (spanTag_append_ne _ _ _)
    | cons c x =>
      have hc : c ≠ '<' := fun hc => hx (by simp [hc])
      exact absurd h.symm (char_ne_spanTag hc _ _ _)

/-- An opening tag at the start is that of a span of the forest. -/
theorem exists_of_append_spanTag {w b : Text} (hw : '"' ∉ w) (hk : Ends k)
    (h : f.markup ++ k = spanTag w ++ b) :
    ∃ v inner rest, f = span v inner rest ∧ v.val = w ∧
      inner.markup ++ (spanClose ++ (rest.markup ++ k)) = b := by
  cases f with
  | nil => exact absurd h hk.ne_spanTag
  | char c rest => exact absurd h (char_ne_spanTag c.property _ _ _)
  | span v inner rest =>
    rw [markup_span_append] at h
    obtain ⟨hvw, hbehind⟩ := spanTag_append_inj v.quote_not_mem hw h
    exact ⟨v, inner, rest, rfl, hvw, hbehind⟩

/-- **A match at the start** is a span of the forest that wraps a span of text. -/
theorem exists_of_append_nested {outer inner b : Text} (hn : Nested outer inner) (hk : Ends k)
    (h : f.markup ++ k = outer ++ b) :
    ∃ v w x rest, f = span v (span w x nil) rest ∧ x.isText ∧
      inner ++ b = (span w x rest).markup ++ k := by
  obtain @⟨v', w', x', hv, hw, hx⟩ := hn
  simp only [List.append_assoc] at h
  obtain ⟨v, f₁, rest, rfl, -, h₁⟩ := exists_of_append_spanTag hv hk h
  obtain ⟨w, x, f₂, rfl, rfl, h₂⟩ := exists_of_append_spanTag hw (ends_close _) h₁
  obtain ⟨htext, rfl, h₃⟩ := isText_of_append_close hx (ends_close _) h₂
  -- The closing tag of the span inside is followed by that of the outer one.
  have hbetween := List.append_cancel_left h₃
  obtain ⟨-, hnil, h₄⟩ := isText_of_append_close (x := []) (by simp) (ends_close _) hbetween
  obtain rfl := markup_eq_nil_iff.1 hnil
  obtain rfl := List.append_cancel_left h₄
  exact ⟨v, w, x, rest, rfl, htext, by simp [markup]⟩

/-- What begins with an angle bracket does not begin inside of a tag. -/
theorem exists_of_tag_append {s a t y : Text} (hs : '<' ∉ s) (ha : a ≠ [])
    (h : '<' :: (s ++ t) = a ++ '<' :: y) : ∃ a', a = '<' :: (s ++ a') ∧ t = a' ++ '<' :: y := by
  obtain ⟨c, a, rfl⟩ := List.exists_cons_of_ne_nil ha
  obtain ⟨rfl, htail⟩ := List.cons.inj h
  rcases List.append_eq_append_iff.1 htail with ⟨a', rfl, ht⟩ | ⟨_ | ⟨d, a'⟩, rfl, ht⟩
  · exact ⟨a', rfl, ht⟩
  · exact ⟨[], by simp, by simpa using ht.symm⟩
  · obtain ⟨rfl, -⟩ := List.cons.inj ht
    exact absurd (by simp) hs

section Match

variable {outer inner a b t : Text}

theorem Nested.exists_cons (h : Nested outer inner) (b : Text) : ∃ y, outer ++ b = '<' :: y := by
  obtain @⟨v, w, x, -, -, -⟩ := h
  rw [List.append_assoc, spanTag_append]
  exact ⟨_, rfl⟩

/-- A match behind the start of an opening tag is behind the tag. -/
theorem exists_of_spanTag_append (hn : Nested outer inner) (v : ClassValue) (ha : a ≠ [])
    (h : spanTag v.val ++ t = a ++ (outer ++ b)) :
    ∃ a', a = spanTag v.val ++ a' ∧ t = a' ++ (outer ++ b) := by
  obtain ⟨y, hy⟩ := Nested.exists_cons hn b
  have hstart : '<' ∉ spanStart := by decide
  have hclass : '<' ∉ v.val := fun hmem => (v.property _ hmem).2.1 rfl
  have htag : ∀ u, spanTag v.val ++ u = '<' :: ((spanStart ++ v.val ++ ['"', '>']) ++ u) := by
    intro u
    simp [spanTag_append]
  rw [hy] at h ⊢
  simp only [htag] at h ⊢
  exact exists_of_tag_append (by simp [hstart, hclass]) ha h

/-- A match does not begin in a closing tag. -/
theorem exists_of_spanClose_append (hn : Nested outer inner)
    (h : spanClose ++ t = a ++ (outer ++ b)) : ∃ a', a = spanClose ++ a' ∧ t = a' ++ (outer ++ b) := by
  have ha : a ≠ [] := by
    rintro rfl
    obtain @⟨v, w, x, -, -, -⟩ := hn
    rw [List.nil_append, List.append_assoc] at h
    exact spanTag_append_ne _ _ _ h.symm
  obtain ⟨y, hy⟩ := Nested.exists_cons hn b
  have htag : ∀ u, spanClose ++ u = '<' :: ((spanEnd ++ ['>']) ++ u) := by
    intro u
    simp [spanClose_append]
  rw [hy] at h ⊢
  simp only [htag] at h ⊢
  exact exists_of_tag_append (by decide) ha h

end Match

/-! ### Reducing -/

theorem wrap_of_isText {x : Forest} (h : x.isText) (v w : ClassValue) (rest : Forest) :
    wrap v rest (span w x nil) = span w x rest := by
  simp [wrap, h]

/-- A span around a forest wraps a span of text, or stays. -/
theorem wrap_cases (v : ClassValue) (rest inner : Forest) :
    (∃ w x, inner = span w x nil ∧ x.isText ∧ wrap v rest inner = span w x rest) ∨
      (inner.isLeaf = false ∧ wrap v rest inner = span v inner rest) := by
  cases inner with
  | nil => exact .inr ⟨rfl, rfl⟩
  | char c f => exact .inr ⟨rfl, rfl⟩
  | span w x f =>
    cases f with
    | nil =>
      cases hx : x.isText with
      | true => exact .inl ⟨w, x, rfl, hx, wrap_of_isText hx v w rest⟩
      | false => exact .inr ⟨hx, by simp [wrap, hx]⟩
    | char c f => exact .inr ⟨rfl, rfl⟩
    | span u y f => exact .inr ⟨rfl, rfl⟩

/-- Whatever is wrapped, one span comes before the rest. -/
theorem exists_wrap_eq (v : ClassValue) (rest inner : Forest) :
    ∃ w x, wrap v rest inner = span w x rest := by
  rcases wrap_cases v rest inner with ⟨w, x, -, -, hwrap⟩ | ⟨-, hwrap⟩
  · exact ⟨w, x, hwrap⟩
  · exact ⟨v, inner, hwrap⟩

theorem reduce_of_isText (h : f.isText) : f.reduce = f := by
  induction f with
  | nil => rfl
  | char c rest ih => rw [reduce, ih h]
  | span => cases h

/-- **Leaving out a span that wraps a span of text does not change what the forest reduces to.** -/
theorem reduce_nested {x : Forest} (h : x.isText) (v w : ClassValue) (rest : Forest) :
    (span v (span w x nil) rest).reduce = (span w x rest).reduce := by
  have hx := reduce_of_isText h
  have hspan : ∀ y, wrap w y x = span w x y := by
    intro y
    cases x with
    | nil => rfl
    | char => rfl
    | span => cases h
  rw [reduce, reduce, reduce, reduce, hx, hspan, hspan, wrap_of_isText h]

/-- **A match in the markup of a forest** is one of its spans, or stands behind it. -/
theorem exists_of_append {outer inner a b : Text} (hn : Nested outer inner) (hk : Ends k)
    (h : f.markup ++ k = a ++ (outer ++ b)) :
    (∃ g : Forest, a ++ (inner ++ b) = g.markup ++ k ∧ g.reduce = f.reduce) ∨
      ∃ a', a = f.markup ++ a' ∧ k = a' ++ (outer ++ b) := by
  induction f generalizing a k with
  | nil => exact .inr ⟨a, rfl, h⟩
  | char c rest ih =>
    cases a with
    | nil =>
      obtain ⟨v, w, x, f, hf, -⟩ := exists_of_append_nested hn hk h
      cases hf
    | cons d a =>
      obtain ⟨rfl, htail⟩ := List.cons.inj h
      rcases ih hk htail with ⟨g, hg, hreduce⟩ | ⟨a', rfl, hbehind⟩
      · exact .inl ⟨char c g, by rw [List.cons_append, hg]; rfl, by rw [reduce, reduce, hreduce]⟩
      · exact .inr ⟨a', rfl, hbehind⟩
  | span v f rest ihf ihrest =>
    by_cases ha : a = []
    · subst ha
      obtain ⟨v', w, x, rest', heq, hx, hg⟩ := exists_of_append_nested hn hk h
      obtain ⟨rfl, rfl, rfl⟩ := Forest.span.inj heq
      exact .inl ⟨span w x rest, hg, (reduce_nested hx v w rest).symm⟩
    · rw [markup_span_append] at h
      obtain ⟨a, rfl, h₁⟩ := exists_of_spanTag_append hn v ha h
      rcases ihf (ends_close _) h₁ with ⟨g, hg, hreduce⟩ | ⟨a, rfl, h₂⟩
      · refine .inl ⟨span v g rest, ?_, by rw [reduce, reduce, hreduce]⟩
        rw [markup_span_append, ← hg, List.append_assoc]
      · obtain ⟨a, rfl, h₃⟩ := exists_of_spanClose_append hn h₂
        rcases ihrest hk h₃ with ⟨g, hg, hreduce⟩ | ⟨a, rfl, h₄⟩
        · refine .inl ⟨span v f g, ?_, by rw [reduce, reduce, hreduce]⟩
          rw [markup_span_append, ← hg]
          simp
        · exact .inr ⟨a, by simp [markup], h₄⟩

/-- **A step leads to the markup of a forest** which reduces to the same. -/
theorem exists_of_unwraps {u : Text} (h : Unwraps f.markup u) :
    ∃ g : Forest, u = g.markup ∧ g.reduce = f.reduce := by
  obtain ⟨a, outer, inner, b, hn, hf, rfl⟩ := h
  rw [← List.append_nil f.markup] at hf
  rcases exists_of_append hn ends_nil hf with ⟨g, hg, hreduce⟩ | ⟨a', -, hnil⟩
  · exact ⟨g, by simpa using hg, hreduce⟩
  · obtain ⟨y, hy⟩ := Nested.exists_cons hn b
    rw [hy] at hnil
    simp at hnil

theorem exists_of_unwrapsTo {u : Text} (h : UnwrapsTo f.markup u) :
    ∃ g : Forest, u = g.markup ∧ g.reduce = f.reduce := by
  induction h with
  | refl => exact ⟨f, rfl, rfl⟩
  | tail _ hstep ih =>
    obtain ⟨g, rfl, hg⟩ := ih
    obtain ⟨g', hu, hg'⟩ := exists_of_unwraps hstep
    exact ⟨g', hu, hg'.trans hg⟩

/-! ### Where nothing is left to be found -/

theorem nested_markup {x : Forest} (h : x.isText) (v w : ClassValue) :
    Nested (span v (span w x nil) nil).markup (span w x nil).markup := by
  have hn := Nested.mk v.quote_not_mem w.quote_not_mem (angle_not_mem_markup h)
  simpa [markup] using hn

/-- **Where the pattern does not occur, the forest is reduced.** -/
theorem reduce_eq_self (h : ¬nestedExpr.OccursIn f.markup) : f.reduce = f := by
  induction f with
  | nil => rfl
  | char c rest ih =>
    rw [reduce, ih]
    intro hrest
    refine h ?_
    simpa [markup] using hrest.append [c.val] []
  | span v inner rest ihinner ihrest =>
    have hinner : ¬nestedExpr.OccursIn inner.markup := fun hin => h (hin.append _ _)
    have hrest : ¬nestedExpr.OccursIn rest.markup := by
      intro hin
      refine h ?_
      simpa [markup] using hin.append (spanTag v.val ++ (inner.markup ++ spanClose)) []
    rw [reduce, ihinner hinner, ihrest hrest]
    rcases wrap_cases v rest inner with ⟨w, x, rfl, hx, -⟩ | ⟨-, hwrap⟩
    · refine absurd ⟨[], _, rest.markup, takes_nested_iff.2 ⟨_, nested_markup hx v w⟩, ?_⟩ h
      simp [markup]
    · exact hwrap

/-- **Where steps come to an end, in whichever order they have been taken, the forest is the
reduced one.** -/
theorem eq_markup_reduce {u : Text} (h : UnwrapsTo f.markup u) (hu : ¬nestedExpr.OccursIn u) :
    u = f.reduce.markup := by
  obtain ⟨g, rfl, hg⟩ := exists_of_unwrapsTo h
  rw [← hg, reduce_eq_self hu]

theorem collapse_eq_markup_reduce (f : Forest) : collapse f.markup = f.reduce.markup :=
  eq_markup_reduce (unwrapsTo_collapse _) (not_occursIn_collapse _)

/-! ### What is kept -/

/-- Whether a forest is one span. -/
def isSpan : Forest → Bool
  | span _ _ nil => true
  | _ => false

/-- Whether a forest is a chain: one span, which holds a text or a chain. -/
def isChain : Forest → Bool
  | span _ inner nil => inner.isText || inner.isChain
  | _ => false

/-- A span of a forest. -/
structure Span where
  /-- How many characters of the text stand before the span. -/
  place : Nat
  /-- The value of its class attribute. -/
  value : ClassValue
  /-- What it holds. -/
  inner : Forest

/-- The place, the class and the text of a span. -/
def Span.outline (s : Span) : Nat × Text × Text := (s.place, s.value.val, s.inner.text)

/-- The spans of a forest, an outer one before those inside, where `n` characters stand before the
forest. -/
def spansFrom (n : Nat) : Forest → List Span
  | nil => []
  | char _ rest => rest.spansFrom (n + 1)
  | span v inner rest =>
    ⟨n, v, inner⟩ :: (inner.spansFrom n ++ rest.spansFrom (n + inner.text.length))

theorem spansFrom_of_isText (h : f.isText) (n : Nat) : f.spansFrom n = [] := by
  induction f generalizing n with
  | nil => rfl
  | char c rest ih => exact ih h (n + 1)
  | span => cases h

theorem text_reduce (f : Forest) : f.reduce.text = f.text := by
  induction f with
  | nil => rfl
  | char c rest ih => rw [reduce, text, ih, text]
  | span v inner rest ihinner ihrest =>
    rw [reduce, text, ← ihinner, ← ihrest]
    rcases wrap_cases v rest.reduce inner.reduce with ⟨w, x, hinner, -, hwrap⟩ | ⟨-, hwrap⟩
    · rw [hwrap, hinner]
      simp [text]
    · rw [hwrap, text]

theorem isText_reduce (f : Forest) : f.reduce.isText = f.isText := by
  induction f with
  | nil => rfl
  | char c rest ih => exact ih
  | span v inner rest =>
    obtain ⟨w, x, hwrap⟩ := exists_wrap_eq v rest.reduce inner.reduce
    rw [reduce, hwrap]
    rfl

theorem reduce_eq_nil_iff : f.reduce = nil ↔ f = nil := by
  constructor
  · intro h
    cases f with
    | nil => rfl
    | char => cases h
    | span v inner rest =>
      obtain ⟨w, x, hwrap⟩ := exists_wrap_eq v rest.reduce inner.reduce
      rw [reduce, hwrap] at h
      cases h
  · rintro rfl
    rfl

theorem not_isSpan_of_ne_nil {rest : Forest} (h : rest ≠ nil) (v : ClassValue) (inner : Forest) :
    (span v inner rest).isSpan = false ∧ (span v inner rest).isLeaf = false ∧
      (span v inner rest).isChain = false := by
  cases rest with
  | nil => exact absurd rfl h
  | char | span => exact ⟨rfl, rfl, rfl⟩

/-- **The chains are what reduces to a span of text.** -/
theorem isLeaf_reduce (f : Forest) : f.reduce.isLeaf = f.isChain := by
  induction f with
  | nil => rfl
  | char => rfl
  | span v inner rest ihinner _ =>
    by_cases hrest : rest = nil
    · subst hrest
      rw [reduce, reduce, isChain, ← ihinner, ← isText_reduce]
      rcases wrap_cases v nil inner.reduce with ⟨w, x, hinner, hx, hwrap⟩ | ⟨hleaf, hwrap⟩
      · rw [hwrap, hinner]
        simp [isLeaf, hx]
      · rw [hwrap, hleaf]
        simp [isLeaf]
    · have hne : rest.reduce ≠ nil := fun h => hrest (reduce_eq_nil_iff.1 h)
      obtain ⟨w, x, hwrap⟩ := exists_wrap_eq v rest.reduce inner.reduce
      rw [reduce, hwrap, (not_isSpan_of_ne_nil hne w x).2.1,
        (not_isSpan_of_ne_nil hrest v inner).2.2]

/-- **The spans that are kept** are those that do not wrap a chain, each at its place with its class
and its text. -/
theorem spansFrom_reduce (n : Nat) (f : Forest) :
    (f.reduce.spansFrom n).map Span.outline =
      ((f.spansFrom n).filter fun s => !s.inner.isChain).map Span.outline := by
  induction f generalizing n with
  | nil => rfl
  | char c rest ih => exact ih (n + 1)
  | span v inner rest ihinner ihrest =>
    have hinner := ihinner n
    rw [reduce, spansFrom, List.filter_cons, ← isLeaf_reduce, List.filter_append]
    rcases wrap_cases v rest.reduce inner.reduce with ⟨w, x, heq, hx, hwrap⟩ | ⟨hleaf, hwrap⟩
    · -- The span inside is the only one there is, and it stands for the chain.
      have htext : inner.text = x.text := by
        rw [← text_reduce, heq]
        exact List.append_nil _
      rw [heq] at hinner
      rw [hwrap, heq, spansFrom, spansFrom_of_isText hx, htext]
      simp only [isLeaf, hx, Bool.not_true, Bool.false_eq_true, if_false, List.map_append,
        ← hinner, ← ihrest, spansFrom, spansFrom_of_isText hx]
      rfl
    · rw [hwrap, hleaf, spansFrom]
      simp only [Bool.not_false, if_true, List.map_cons, List.map_append, hinner, ihrest,
        text_reduce, Span.outline]

/-! ### The result -/

/-- **Collapsing gives the markup of the reduced forest**, and so does leaving out one wrapper after
the other in any order, until the pattern does not occur any more. The text stays, and the spans
that are kept are those that do not wrap a chain: each has its place, its class and its text, and
they come in the same order. -/
theorem collapse_markup (f : Forest) :
    collapse f.markup = f.reduce.markup ∧
      (∀ u, UnwrapsTo f.markup u → ¬nestedExpr.OccursIn u → u = f.reduce.markup) ∧
      f.reduce.text = f.text ∧
      (f.reduce.spansFrom 0).map Span.outline =
        ((f.spansFrom 0).filter fun s => !s.inner.isChain).map Span.outline :=
  ⟨collapse_eq_markup_reduce f, fun _ h hu => eq_markup_reduce h hu, text_reduce f,
    spansFrom_reduce 0 f⟩

/-- The character `c` in a span of class `w`. -/
def single (w : ClassValue) (c : {c : Char // c ≠ '<'}) : Forest := span w (char c nil) nil

/-- The character `c` in a span of class `w`, in a span of class `v`. -/
def doubled (v w : ClassValue) (c : {c : Char // c ≠ '<'}) (rest : Forest) : Forest :=
  span v (single w c) rest

/-- A wrapper around one character is left out wherever it stands. -/
theorem unwraps_doubled (a b : Text) (v w : ClassValue) (c : {c : Char // c ≠ '<'}) :
    Unwraps (a ++ ((doubled v w c nil).markup ++ b)) (a ++ ((single w c).markup ++ b)) :=
  ⟨a, _, _, b, nested_markup rfl v w, rfl, rfl⟩

/-- A class of one letter. -/
def letterClass (c : Char) (h : c ≠ '"' ∧ c ≠ '<' ∧ c ≠ '>' := by decide) : ClassValue :=
  ⟨[c], by simpa using h⟩

/-- Two wrapped spans in a row. -/
def wrappedPair : Forest :=
  doubled (letterClass 'd') (letterClass 'e') ⟨'p', by decide⟩
    (doubled (letterClass 'f') (letterClass 'g') ⟨'q', by decide⟩ nil)

/-- Two wrapped spans, with the wrapper of the second one left out first, and that of the first one
then. -/
theorem collapse_markup_wrappedPair :
    ∃ u, UnwrapsTo wrappedPair.markup u ∧ ¬nestedExpr.OccursIn u ∧
      u = "<span class=\"e\">p</span><span class=\"g\">q</span>".toList ∧
      u = wrappedPair.reduce.markup ∧ collapse wrappedPair.markup = wrappedPair.reduce.markup := by
  have hmarkup : wrappedPair.markup =
      (doubled (letterClass 'd') (letterClass 'e') ⟨'p', by decide⟩ nil).markup ++
        ((doubled (letterClass 'f') (letterClass 'g') ⟨'q', by decide⟩ nil).markup ++ []) := by
    simp [wrappedPair, doubled, markup]
  have hsecond := unwraps_doubled
    (doubled (letterClass 'd') (letterClass 'e') ⟨'p', by decide⟩ nil).markup [] (letterClass 'f')
    (letterClass 'g') ⟨'q', by decide⟩
  have hfirst := unwraps_doubled [] ((single (letterClass 'g') ⟨'q', by decide⟩).markup ++ [])
    (letterClass 'd') (letterClass 'e') ⟨'p', by decide⟩
  have hsteps := (Relation.ReflTransGen.single hsecond).tail hfirst
  rw [← hmarkup] at hsteps
  have hend : ¬nestedExpr.OccursIn _ := collapseOnce_eq_self_iff.1
    (show collapseOnce ((single (letterClass 'e') ⟨'p', by decide⟩).markup ++
      ((single (letterClass 'g') ⟨'q', by decide⟩).markup ++ [])) = _ by decide +kernel)
  obtain ⟨hcollapse, horder, -, -⟩ := collapse_markup wrappedPair
  exact ⟨_, hsteps, hend, by decide, horder _ hsteps hend, hcollapse⟩

end Forest

end CodeMarkup.Markup
