import CodeMarkup.Proofs.Highlighter
import CodeMarkup.Proofs.Markup.Tagged
import CodeMarkup.Proofs.Regex.Places

/-!
# Emitters that write markup

A rule with an emitter of its own may make markup of a match, and then spans may wrap
spans, across pieces and across rules, and collapsing has something to leave out. What
an emitter is asked for is little (`CodeMarkup.Rule.Honest`): texts and spans without angle
brackets, markup of whole tags, and **what is left of the pieces without tags is the match**. It
is asked for matches that are found only (`CodeMarkup.Regex.Finds`), and may be kept in another way
for each of them, according to where the match stands and what is around it.

This is kept by all that follows. A text that an emitter leaves open is searched by later
rules, but it has no angle brackets, so the same is asked of them
(`CodeMarkup.Rule.Honest.onPieces`); rendering writes whole tags only
(`CodeMarkup.Piece.strip_renderAll_of_isTagged`); and collapsing leaves out whole tags only. So
nothing is lost by rule sets of any kind, with collapsing and without
(`CodeMarkup.Highlighter.plain_highlight_of_honest`).
-/

namespace CodeMarkup

open Piece Regex Markup

/-! ### Pieces with whole tags -/

namespace Piece

/-- That a piece has whole tags only: a text or a span has no angle brackets, and markup is
tagged. -/
def IsTagged : Piece → Prop
  | text t => ∀ c ∈ t, c ≠ '<' ∧ c ≠ '>'
  | span _ t => ∀ c ∈ t, c ≠ '<' ∧ c ≠ '>'
  | markup t => Tagged t

variable {p : Piece} {ps : List Piece} {classPrefix : Text}

theorem IsTagged.tagged_content (h : p.IsTagged) : Tagged p.content := by
  cases p with
  | text t => exact tagged_of_ne_angle h
  | span k t => exact tagged_of_ne_angle h
  | markup t => exact h

/-- The contents without tags are what the pieces hold without tags, one after the other. -/
theorem strip_contents (h : ∀ p ∈ ps, p.IsTagged) :
    strip (contents ps) = ps.flatMap fun p => strip p.content := by
  induction ps with
  | nil => rfl
  | cons p ps ih =>
    obtain ⟨hp, hps⟩ := List.forall_mem_cons.1 h
    rw [contents_cons, hp.tagged_content.strip_append, ih hps, List.flatMap_cons]

/-- A piece is rendered with whole tags around what it holds. -/
theorem IsTagged.render (hP : IsPrefix classPrefix) (h : p.IsTagged) :
    Tagged (render classPrefix p) ∧ strip (render classPrefix p) = strip p.content := by
  cases p with
  | text t => exact ⟨h.tagged_content, rfl⟩
  | markup t => exact ⟨h, rfl⟩
  | span k t =>
    have hclass : ∀ c ∈ classPrefix ++ k.name.toList, c ≠ '"' ∧ c ≠ '<' ∧ c ≠ '>' := fun c hc =>
      have hne := hP.ne_of_mem_attribute hc
      ⟨hne.2.2.1, hne.1, hne.2.1⟩
    have hrender : Piece.render classPrefix (span k t) =
        spanTag (classPrefix ++ k.name.toList) ++ (t ++ (spanClose ++ [])) := by
      simp [Piece.render, spanTag]
    have ht : Tagged t := tagged_of_ne_angle h
    rw [hrender, strip_spanTag fun hmem => (hclass _ hmem).2.2 rfl, ht.strip_append, strip_spanClose]
    exact ⟨.opening hclass (ht.append (.close .nil)), List.append_nil _⟩

/-- **Pieces are rendered with whole tags**, and without the tags there is what they hold. -/
theorem strip_renderAll_of_isTagged (hP : IsPrefix classPrefix) (h : ∀ p ∈ ps, p.IsTagged) :
    Tagged (renderAll classPrefix ps) ∧ strip (renderAll classPrefix ps) = strip (contents ps) := by
  induction ps with
  | nil => exact ⟨.nil, rfl⟩
  | cons p ps ih =>
    obtain ⟨hp, hps⟩ := List.forall_mem_cons.1 h
    obtain ⟨htagged, hstrip⟩ := hp.render hP
    obtain ⟨ih, ihstrip⟩ := ih hps
    rw [renderAll_cons, contents_cons, htagged.strip_append, hp.tagged_content.strip_append, hstrip,
      ihstrip]
    exact ⟨htagged.append ih, rfl⟩

/-- What is made of the members of a list is tagged, and is without tags what they stand for. -/
theorem strip_contents_flatMap {α : Type} {f : α → List Piece} {g : α → Text} {as : List α}
    (h : ∀ a ∈ as, (∀ p ∈ f a, p.IsTagged) ∧ strip (contents (f a)) = g a) :
    (∀ p ∈ as.flatMap f, p.IsTagged) ∧ strip (contents (as.flatMap f)) = as.flatMap g := by
  induction as with
  | nil => exact ⟨by simp, rfl⟩
  | cons a as ih =>
    obtain ⟨⟨ha, hga⟩, has⟩ := List.forall_mem_cons.1 h
    obtain ⟨ih, ihstrip⟩ := ih has
    have hall : ∀ p ∈ (a :: as).flatMap f, p.IsTagged := by
      rw [List.flatMap_cons, List.forall_mem_append]
      exact ⟨ha, ih⟩
    refine ⟨hall, ?_⟩
    rw [strip_contents hall, List.flatMap_cons, List.flatMap_append, ← strip_contents ha,
      ← strip_contents ih, hga, ihstrip, List.flatMap_cons]

end Piece

/-! ### Rules -/

namespace Rule

/-- That a rule is honest: if it has an emitter of its own, this makes of each match in a text
without angle brackets pieces with whole tags, which are without tags the match. What it makes may
depend on where the match and its groups stand, and on the text around it. A rule that wraps its
matches is always honest. -/
def Honest (rule : Rule) : Prop :=
  ∀ emit, rule.emitter = .custom emit → ∀ m : Match, rule.pattern.Finds m →
    (∀ c ∈ m.text, c ≠ '<' ∧ c ≠ '>') →
      (∀ p ∈ emit m, p.IsTagged) ∧ ((emit m).flatMap fun p => strip p.content) = m.run.taken

variable {rule : Rule}

/-- A rule that wraps its matches is honest. -/
theorem honest_wrap {k : SpanClass} (h : rule.emitter = .wrap k) : rule.Honest := by
  intro emit hemitter
  rw [h] at hemitter
  cases hemitter

/-- A segment has the characters of its text only. -/
theorem ne_angle_of_mem_segments {re : Regex} {t : Text} (ht : ∀ c ∈ t, c ≠ '<' ∧ c ≠ '>')
    {s : Segment} (hs : s ∈ re.segments t) : ∀ c ∈ s.text, c ≠ '<' ∧ c ≠ '>' := fun c hc =>
  ht c (covered_segments re t ▸ List.mem_flatMap.2 ⟨s, hs, hc⟩)

/-- What an honest rule makes of a segment at its place. -/
theorem Honest.onSegment (h : rule.Honest) {t : Text} (ht : ∀ c ∈ t, c ≠ '<' ∧ c ≠ '>') {n : Nat}
    {s : Segment} (hs : (n, s) ∈ Segment.placed 0 (rule.pattern.segments t)) :
    (∀ p ∈ rule.onSegment t (n, s), p.IsTagged) ∧
      strip (contents (rule.onSegment t (n, s))) = s.text := by
  have htext := ne_angle_of_mem_segments ht (Segment.mem_of_mem_placed hs)
  have hstrip := strip_of_ne_angle htext
  cases s with
  | gap u =>
    rw [Segment.text] at htext hstrip
    exact ⟨by simpa [Rule.onSegment, IsTagged] using htext, by simpa [Rule.onSegment, content]⟩
  | hit r =>
    rw [Segment.text] at htext hstrip
    change (∀ p ∈ rule.emitter.emit ⟨t, n, r⟩, p.IsTagged) ∧
      strip (contents (rule.emitter.emit ⟨t, n, r⟩)) = r.taken
    cases hemitter : rule.emitter with
    | wrap k =>
      exact ⟨by simpa [Emitter.emit, IsTagged] using htext, by simpa [Emitter.emit, content]⟩
    | custom emit =>
      obtain ⟨htagged, hspelt⟩ := h emit hemitter ⟨t, n, r⟩ hs ht
      exact ⟨htagged, (strip_contents htagged).trans hspelt⟩

/-- What an honest rule makes of a piece. -/
theorem Honest.onPiece (h : rule.Honest) {p : Piece} (hp : p.IsTagged) :
    (∀ q ∈ rule.onPiece p, q.IsTagged) ∧ strip (contents (rule.onPiece p)) = strip p.content := by
  cases p with
  | text t =>
    obtain ⟨htagged, hstrip⟩ := strip_contents_flatMap (f := rule.onSegment t)
      (g := fun s => s.2.text) fun s hs => h.onSegment hp hs
    have hcovered : (Segment.placed 0 (rule.pattern.segments t)).flatMap (fun s => s.2.text) = t :=
      (Segment.flatMap_text_placed 0 _).trans (covered_segments rule.pattern t)
    exact ⟨htagged, (hstrip.trans hcovered).trans (strip_of_ne_angle hp).symm⟩
  | span k t => simpa [Rule.onPiece] using hp
  | markup t => simpa [Rule.onPiece] using hp

/-- **An honest rule keeps whole tags, and changes no character outside of them.** -/
theorem Honest.onPieces (h : rule.Honest) {ps : List Piece} (hps : ∀ p ∈ ps, p.IsTagged) :
    (∀ p ∈ rule.onPieces ps, p.IsTagged) ∧
      strip (contents (rule.onPieces ps)) = strip (contents ps) := by
  obtain ⟨htagged, hstrip⟩ := strip_contents_flatMap fun p hp => h.onPiece (hps p hp)
  constructor
  · refine forall_mem_merge (fun t u ht hu => ?_) htagged
    exact List.forall_mem_append.2 ⟨ht, hu⟩
  · rw [Rule.onPieces, contents_merge, hstrip, strip_contents hps]

end Rule

/-- **Honest rules change no character outside of tags.** -/
theorem RuleSet.strip_contents_apply {set : RuleSet} (h : ∀ rule ∈ set.rules, rule.Honest) {e : Text}
    (he : ∀ c ∈ e, c ≠ '<' ∧ c ≠ '>') :
    (∀ p ∈ set.apply e, p.IsTagged) ∧ strip (contents (set.apply e)) = e := by
  refine apply_induction
    (I := fun ps => (∀ p ∈ ps, p.IsTagged) ∧ strip (contents ps) = e) ?_ fun rule hrule ps hps => ?_
  · exact ⟨by simpa [IsTagged] using he, by simpa [content] using strip_of_ne_angle he⟩
  · obtain ⟨htagged, hstrip⟩ := (h rule hrule).onPieces hps.1
    exact ⟨htagged, hstrip.trans hps.2⟩

/-! ### Documents -/

namespace Highlighter

/-- **Without its tags the markup of a document is the escaped text**, whether spans are collapsed
or not. -/
theorem strip_render_of_honest {settings : Settings} (hP : IsPrefix settings.classPrefix.toList)
    {set : RuleSet} (h : ∀ rule ∈ set.rules, rule.Honest) (text : Text) :
    strip (render settings set text) = escape text := by
  obtain ⟨hpieces, hcontents⟩ :=
    RuleSet.strip_contents_apply h fun c hc => (isEscaped_escape text).ne_angle hc
  obtain ⟨htagged, hstrip⟩ := strip_renderAll_of_isTagged hP hpieces
  unfold render
  dsimp only
  split
  · rw [htagged.strip_collapse, hstrip, hcontents]
  · rw [hstrip, hcontents]

/-- **Honest rules lose no character.** Let settings be sound, and let the rules of a language wrap
their matches or make honest pieces of them, wherever these stand. Whatever has been called before, the markup
of a text without its tags is the escaped text, and so the text can be read back from
it, also where spans that only wrap a span have been left out. -/
theorem plain_highlight_of_honest {settings : Settings} {registry : Registry} {h : Highlighter}
    (hm : make settings registry = .ok h) {language : String}
    (hset : ∀ slot set, registry.resolve? language = some (slot, set) →
      ∀ rule ∈ set.rules, rule.Honest)
    (calls : List Call) (text : Text) :
    strip ((h.run calls).highlight text language).1 = escape text ∧
      plain ((h.run calls).highlight text language).1 = text := by
  obtain ⟨hs, rfl⟩ := make_eq_ok_iff.1 hm
  have hP : IsPrefix settings.classPrefix.toList := fun c hc =>
    Settings.isPrefixChar_of_validate hs hc
  have hstrip : strip (((assemble Cache.contentDigest settings registry).run calls).highlight text
      language).1 = escape text := by
    rw [(coherent_assemble _ settings registry).fst_highlight_run]
    cases ha : (assemble Cache.contentDigest settings registry).applied? text language with
    | none => exact strip_of_ne_angle fun c hc => (isEscaped_escape text).ne_angle hc
    | some set =>
      obtain ⟨slot, hr⟩ := exists_rules?_of_applied? ha
      exact strip_render_of_honest hP (hset slot set (Option.filter_eq_some_iff.1 hr).1) text
  exact ⟨hstrip, by rw [plain, hstrip, unescape_escape]⟩

/-- An emitter that tells words apart by their places: the word that begins a text is put between
tags and stays open, and any other is a span with a span of the emitter's own around it. -/
def framed (m : Match) : List Piece :=
  if m.start = 0 then [.markup (spanTag "first".toList), .text m.run.taken, .markup spanClose]
  else [.markup (spanTag "outer".toList), .span .keyword m.run.taken, .markup spanClose]

/-- Words by their places, and digits in one span. -/
def framedWords : RuleSet :=
  ⟨"words", [
    ⟨"word", Language.pattern "[a-z]+" (Language.many1 (.one (.range 'a' 'z'))), .custom framed⟩,
    ⟨"digits", Language.pattern "[0-9]+" (Language.many1 (.one (.range '0' '9'))), .wrap .number⟩]⟩

/-- Of the two spans around the second word the outer one is left out. -/
example : render .default framedWords ['x', '<'] =
    "<span class=\"first\">x</span>&<span class=\"sh-keyword\">lt</span>;".toList := by
  decide +kernel

theorem honest_framedWords : ∀ rule ∈ framedWords.rules, rule.Honest := by
  intro rule hrule
  rcases List.mem_pair.1 hrule with rfl | rfl
  · rintro emit ⟨⟩ m hm ht
    have htaken : ∀ c ∈ m.run.taken, c ≠ '<' ∧ c ≠ '>' := Rule.ne_angle_of_mem_segments ht hm.hit_mem
    have hstrip : strip m.run.taken ++ [] = m.run.taken := by
      rw [List.append_nil, strip_of_ne_angle htaken]
    have hfirst : Tagged (spanTag "first".toList ++ []) := .opening (by simp) .nil
    have houter : Tagged (spanTag "outer".toList ++ []) := .opening (by simp) .nil
    have hclose : Tagged (spanClose ++ []) := .close .nil
    rw [List.append_nil] at hfirst houter hclose
    unfold framed
    split
    · exact ⟨by simpa [IsTagged] using ⟨hfirst, htaken, hclose⟩, hstrip⟩
    · exact ⟨by simpa [IsTagged] using ⟨houter, htaken, hclose⟩, hstrip⟩
  · exact Rule.honest_wrap rfl

/-- Words and digits of a text with an angle bracket, after the cache has been used. -/
theorem plain_highlight_of_honest_framedWords :
    make .default (Registry.empty.register framedWords ["words"]) =
        .ok (assemble Cache.contentDigest .default (Registry.empty.register framedWords ["words"])) ∧
      (∀ slot set, (Registry.empty.register framedWords ["words"]).resolve? "words" =
        some (slot, set) → ∀ rule ∈ set.rules, rule.Honest) ∧
      plain (((assemble Cache.contentDigest .default
          (Registry.empty.register framedWords ["words"])).run
            [.highlight "x < y1".toList "words"]).highlight "x < y1".toList "words").1 =
        "x < y1".toList := by
  have hm : make .default (Registry.empty.register framedWords ["words"]) =
      .ok (assemble Cache.contentDigest .default
        (Registry.empty.register framedWords ["words"])) := rfl
  have hset : ∀ slot set, (Registry.empty.register framedWords ["words"]).resolve? "words" =
      some (slot, set) → ∀ rule ∈ set.rules, rule.Honest := by
    intro slot set hresolve
    rw [Registry.resolve?_register_self] at hresolve
    cases hresolve
    exact honest_framedWords
  exact ⟨hm, hset, (plain_highlight_of_honest hm hset _ _).2⟩

end Highlighter

end CodeMarkup
