import CodeMarkup.Proofs.Histories
import CodeMarkup.Proofs.Registry
import Mathlib.Data.List.Permutation

/-!
# What a highlighter gives back

The main statements about highlighting, for every highlighter that can be made
(`CodeMarkup.Highlighter.Made`), after any calls, for every text and language.

* **No character is lost**: without its tags the markup is the escaped text, and read
  back it is the text itself (`CodeMarkup.Highlighter.plain_highlight`).
* **The markup is flat**: bare texts and spans of bare texts, and nothing else
  (`CodeMarkup.Highlighter.flat_highlight`).
* **Entities are whole unless a match splits one**
  (`CodeMarkup.Config.entitiesWhole_highlight`). In the three languages none does. A
  pattern of a configuration may, and then the markup has an ampersand with a tag
  right behind it.

All three rest on one fact about a document: a highlighter renders pieces that are texts
and spans that are not empty, and their contents are the escaped text.
-/

namespace CodeMarkup

open Markup Piece

/-! ### One document -/

section Document

variable {settings : Settings} {set : RuleSet} {text : Text}

/-- Pieces made of an escaped text have no angle brackets. -/
theorem RuleSet.Spells.ne_angle (hs : set.Spells) {p : Piece} (hp : p ∈ set.apply (escape text))
    {c : Char} (hc : c ∈ p.content) : c ≠ '<' ∧ c ≠ '>' := by
  have hmem := mem_contents hp hc
  rw [RuleSet.contents_apply hs] at hmem
  exact (isEscaped_escape text).ne_angle hmem

/-- **The markup of a document is that of its pieces**, whether spans are collapsed or not. -/
theorem Highlighter.render_eq (hP : IsPrefix settings.classPrefix.toList) (hs : set.Spells)
    (text : Text) :
    render settings set text =
      renderAll settings.classPrefix.toList (set.apply (escape text)) := by
  have hplain : ∀ p ∈ set.apply (escape text), p.IsPlain := fun p hp =>
    (RuleSet.solid_apply hs _ p hp).isPlain
  have hangle : ∀ p ∈ set.apply (escape text), '<' ∉ p.content := fun p hp hc =>
    (hs.ne_angle hp hc).1 rfl
  unfold render
  dsimp only
  split
  · exact collapse_renderAll hP hplain hangle
  · rfl

/-- **Entities are whole in a document if and only if no match splits one.** -/
theorem RuleSet.Ordinary.entitiesWhole_iff (ho : set.Ordinary)
    (hP : IsPrefix settings.classPrefix.toList) :
    EntitiesWhole (renderAll settings.classPrefix.toList (set.apply (escape text))) ↔
      ¬set.SplitsEntity (escape text) := by
  have he := isEscaped_escape text
  rcases ho with hset | hw
  · -- The three languages never split an entity.
    have hk := Language.keepsEntities_of_mem_ruleSets hset
    exact ⟨fun _ => hk.not_splitsEntity he, fun _ =>
      entitiesWhole_renderAll hP (hk.isEscaped_apply he)⟩
  · refine ⟨fun hwhole hsplit => ?_, fun hn => ?_⟩
    · obtain ⟨ps, k, x, qs, happly, hbegun⟩ := hw.exists_begun hsplit
      have hsolid := RuleSet.solid_apply hw.spells (escape text)
      have hangle : ∀ p ∈ set.apply (escape text), ∀ c ∈ p.content, c ≠ '<' ∧ c ≠ '>' :=
        fun p hp c hc => hw.spells.ne_angle hp hc
      rw [happly] at hwhole hsolid hangle
      obtain ⟨hbefore, hbehind⟩ := entitiesWhole_of_append_span hwhole
      -- Whole entities without angle brackets make an escaped text.
      have hesc : ∀ rs : List Piece, (∀ p ∈ rs, p ∈ ps ++ span k x :: qs) →
          EntitiesWhole (renderAll settings.classPrefix.toList rs) → IsEscaped (contents rs) := by
        intro rs hrs hrender
        refine (entitiesWhole_contents (fun p hp => (hsolid p (hrs p hp)).isPlain) hrender).isEscaped
          fun c hc => ?_
        obtain ⟨p, hp, hcp⟩ := List.mem_flatMap.1 hc
        exact hangle p (hrs p hp) c hcp
      rcases hbegun with hbegun | hbegun
      · exact hbegun (hesc ps (fun p hp => by simp [hp]) hbefore)
      · refine hbegun ?_
        have := hesc (ps ++ [span k x]) (fun p hp => by simp at hp ⊢; tauto) hbehind
        simpa [content] using this
    · exact entitiesWhole_renderAll hP (hw.isEscaped_apply he hn)

end Document

namespace Highlighter

/-! ### The highlighters that can be made -/

/-- The highlighters that can be made over the three languages and languages whose rules wrap
their matches. -/
inductive Made : Highlighter → Prop where
  /-- Without a configuration. -/
  | default : Made default
  /-- With settings, if they are sound. -/
  | withSettings {settings : Settings} {h : Highlighter} (hm : make settings .builtin = .ok h) :
      Made h
  /-- With settings and languages. -/
  | withRegistry {settings : Settings} {registry : Registry} {h : Highlighter}
      (ho : registry.Ordinary) (hm : make settings registry = .ok h) : Made h
  /-- From a configuration, whether it has been checked or not. -/
  | ofConfig {c : Config} {h : Highlighter} (hm : c.highlighter = .ok h) : Made h

/-- What is true of a highlighter from the start and whatever is called. -/
structure Sound (h : Highlighter) : Prop where
  /-- The prefix of the classes means nothing in markup. -/
  isPrefix : IsPrefix h.settings.classPrefix.toList
  /-- The languages are ordinary. -/
  ordinary : h.registry.Ordinary
  /-- The cache tells the truth. -/
  coherent : h.Coherent

theorem sound_assemble {digest : Nat → Text → UInt64} {settings : Settings} {registry : Registry}
    (hs : settings.validate = .ok ()) (ho : registry.Ordinary) :
    (assemble digest settings registry).Sound where
  isPrefix := fun _ hc => Settings.isPrefixChar_of_validate hs hc
  ordinary := ho
  coherent := coherent_assemble digest settings registry

theorem make_eq_ok_iff {settings : Settings} {registry : Registry} {h : Highlighter} :
    make settings registry = .ok h ↔
      settings.validate = .ok () ∧ assemble Cache.contentDigest settings registry = h := by
  rw [make]
  cases settings.validate <;> simp

theorem sound_make {settings : Settings} {registry : Registry} {h : Highlighter}
    (hm : make settings registry = .ok h) (ho : registry.Ordinary) : h.Sound := by
  obtain ⟨hs, rfl⟩ := make_eq_ok_iff.1 hm
  exact sound_assemble hs ho

/-- **Every highlighter that can be made is sound.** -/
theorem Made.sound {h : Highlighter} (hm : h.Made) : h.Sound := by
  cases hm with
  | default => exact sound_assemble (by decide) Registry.ordinary_builtin
  | withSettings hm => exact sound_make hm Registry.ordinary_builtin
  | withRegistry ho hm => exact sound_make hm ho
  | @ofConfig c _ hm =>
    obtain ⟨r, hr, hm⟩ := bind_eq_ok_iff.1 hm
    exact sound_make hm (Config.ordinary_registry hr)

variable {h : Highlighter}

/-- **What a sound highlighter gives back after any calls**: the escaped text, or the markup of
the pieces that the rules make of it. -/
theorem Sound.fst_highlight_run (hs : h.Sound) (calls : List Call) (text : Text)
    (language : String) :
    (h.applied? text language = none ∧
        ((h.run calls).highlight text language).1 = escape text) ∨
      ∃ set, h.applied? text language = some set ∧ set.Ordinary ∧
        ((h.run calls).highlight text language).1 =
          renderAll h.settings.classPrefix.toList (set.apply (escape text)) := by
  have hfst := hs.coherent.fst_highlight_run calls text language
  cases ha : h.applied? text language with
  | none => exact .inl ⟨rfl, by rw [hfst, ha]⟩
  | some set =>
    have ho : set.Ordinary := by
      obtain ⟨slot, hr⟩ := exists_rules?_of_applied? ha
      exact hs.ordinary set (List.mem_of_getElem? (getElem?_of_rules? hr))
    refine .inr ⟨set, rfl, ho, ?_⟩
    rw [hfst, ha]
    exact render_eq hs.isPrefix ho.spells text

/-! ### Main statements -/

/-- **Highlighting loses no character.** Whatever has been called before, the markup without its
tags is the escaped text, and so the text can be read back from it. -/
theorem plain_highlight (hm : h.Made) (calls : List Call) (text : Text) (language : String) :
    strip ((h.run calls).highlight text language).1 = escape text ∧
      plain ((h.run calls).highlight text language).1 = text := by
  have hstrip : strip ((h.run calls).highlight text language).1 = escape text := by
    have hs := hm.sound
    have hesc := isEscaped_escape text
    rcases hs.fst_highlight_run calls text language with ⟨-, he⟩ | ⟨set, -, ho, he⟩ <;> rw [he]
    · have hno := strip_append_of_forall_ne (s := escape text) (t := [])
        fun c hc => (hesc.ne_angle hc).1
      have hnil : strip [] = [] := rfl
      simpa [hnil] using hno
    · rw [strip_renderAll hs.isPrefix (fun p hp => (RuleSet.solid_apply ho.spells _ p hp).isPlain)
        (fun p hp hc => (ho.spells.ne_angle hp hc).1 rfl), RuleSet.contents_apply ho.spells]
  exact ⟨hstrip, by rw [plain, hstrip, unescape_escape]⟩

/-- A comment that is highlighted twice, and once after the cache has been emptied. -/
theorem plain_highlight_comment :
    default.Made ∧
      strip ((default.run [.highlight "// a < b".toList "js", .forget]).highlight
          "// a < b".toList "js").1 = escape "// a < b".toList ∧
        plain ((default.run [.highlight "// a < b".toList "js", .forget]).highlight
          "// a < b".toList "js").1 = "// a < b".toList :=
  ⟨.default, plain_highlight .default _ _ _⟩

/-- **The markup is flat.** It is a row of bare texts and of spans with bare texts; a bare text is
not empty and has no angle brackets, and the class of a span is made of letters, digits,
`-` and `_`. -/
theorem flat_highlight (hm : h.Made) (calls : List Call) (text : Text) (language : String) :
    Flat h.settings.classPrefix.toList ((h.run calls).highlight text language).1 ∧
      ∀ k : SpanClass, ∀ c ∈ h.settings.classPrefix.toList ++ k.name.toList,
        c.isAlphanum ∨ c = '-' ∨ c = '_' := by
  have hs := hm.sound
  constructor
  · rcases hs.fst_highlight_run calls text language with ⟨-, he⟩ | ⟨set, -, ho, he⟩ <;> rw [he]
    · have hesc := isEscaped_escape text
      have hflat : Flat h.settings.classPrefix.toList (escape text ++ []) :=
        flat_of_ne_angle (fun c hc => hesc.ne_angle hc) (flat_nil _)
      simpa using hflat
    · exact flat_renderAll _ (RuleSet.solid_apply ho.spells _) fun p hp c hc =>
        ho.spells.ne_angle hp hc
  · intro k c hc
    rcases List.mem_append.1 hc with hc | hc
    · simpa [Settings.isPrefixChar, or_assoc] using hs.isPrefix c hc
    · exact .inl (SpanClass.isAlphanum_of_mem_name hc)

/-- A tag in the text of a document. -/
theorem flat_highlight_tag :
    default.Made ∧
      Flat "sh-".toList
        ((default.run [.forget]).highlight "<b title=\"<i>\">".toList "html").1 :=
  ⟨.default, (flat_highlight .default [.forget] _ _).1⟩

end Highlighter

/-- **With a configuration, entities are whole unless a match splits one.** Every ampersand of
the markup begins an entity if and only if no rule of the language has a match that
begins or ends inside of one. -/
theorem Config.entitiesWhole_highlight {c : Config} {h : Highlighter} (hc : c.highlighter = .ok h)
    (calls : List Highlighter.Call) (text : Text) (language : String) :
    EntitiesWhole ((h.run calls).highlight text language).1 ↔
      ∀ set, h.applied? text language = some set → ¬set.SplitsEntity (escape text) := by
  have hs := (Highlighter.Made.ofConfig hc).sound
  rcases hs.fst_highlight_run calls text language with ⟨hnone, he⟩ | ⟨set, hset, ho, he⟩
  · rw [he, hnone]
    refine ⟨fun _ set hset => ?_, fun _ => (isEscaped_escape text).entitiesWhole⟩
    cases hset
  · rw [he, hset, ho.entitiesWhole_iff hs.isPrefix]
    refine ⟨fun hn set' hset' => ?_, fun hn => hn set rfl⟩
    cases hset'
    exact hn

/-! ### A configuration that splits entities -/

namespace Config

/-- The expression of a comment from a semicolon on. -/
def iniExpr : Regex.Expr :=
  Language.seq [Language.char ';', Language.many (.one (.range ' ' '~'))]

/-- A language with the comments of an ini file. -/
def iniLanguage : LanguageDef := ⟨"ini", [], [⟨"comment", ";[ -~]*", .comment⟩]⟩

/-- The configuration with this language. -/
def ini : Config := ⟨.default, .empty, [iniLanguage]⟩

/-- The rule set of the language. -/
def iniRules : RuleSet :=
  ⟨Registry.normalize "ini", [⟨"comment", Language.pattern ";[ -~]*" iniExpr, .wrap .comment⟩]⟩

/-- The highlighter of the configuration. -/
def iniHighlighter : Highlighter :=
  .assemble Cache.contentDigest .default (Registry.builtin.register iniRules ["ini"])

theorem compile_iniLanguage : iniLanguage.compile = .ok iniRules :=
  compile_of_writtenAs (by rfl) (by cbv)

theorem highlighter_ini : ini.highlighter = .ok iniHighlighter := by
  have hvalid : Settings.default.validate = .ok () := by decide
  have hregistry : ini.registry = .ok (Registry.builtin.register iniRules ["ini"]) :=
    registry_of_compile compile_iniLanguage
  rw [highlighter, hregistry]
  simp only [Except.bind, Highlighter.make, ini, hvalid, iniHighlighter]

theorem applied?_ini : iniHighlighter.applied? ['&'] "ini" = some iniRules := by
  have hrules : iniHighlighter.rules? "ini" = some (3, iniRules) := by
    have hresolve : iniHighlighter.registry.resolve? "ini" = some (3, iniRules) :=
      Registry.resolve?_register_self iniRules "ini" .builtin
    rw [Highlighter.rules?, hresolve]
    rfl
  rw [Highlighter.applied?, if_neg (by decide), hrules]
  rfl

theorem render_ini :
    Highlighter.render .default iniRules ['&'] = "&amp<span class=\"sh-comment\">;</span>".toList := by
  decide

/-- The statement about whole entities for this configuration. -/
theorem entitiesWhole_highlight_ini :
    ini.highlighter = .ok iniHighlighter ∧
      (EntitiesWhole ((iniHighlighter.run [.forget]).highlight ['&'] "ini").1 ↔
        ∀ set, iniHighlighter.applied? ['&'] "ini" = some set →
          ¬set.SplitsEntity (escape ['&'])) :=
  ⟨highlighter_ini, entitiesWhole_highlight highlighter_ini _ _ _⟩

/-- **A comment of an ini file begins inside of an entity.** The configuration is sound and has a
highlighter, and a text of one ampersand is given back with the semicolon of its entity
in a span. -/
theorem highlight_ini :
    ini.validate = .ok () ∧ iniLanguage ∈ ini.languages ∧ ini.highlighter = .ok iniHighlighter ∧
      (iniHighlighter.highlight ['&'] "ini").1 =
        "&amp<span class=\"sh-comment\">;</span>".toList ∧
      ¬EntitiesWhole (iniHighlighter.highlight ['&'] "ini").1 := by
  have hmarkup : (iniHighlighter.highlight ['&'] "ini").1 =
      "&amp<span class=\"sh-comment\">;</span>".toList := by
    have hcoherent : iniHighlighter.Coherent := Highlighter.coherent_assemble _ _ _
    rw [hcoherent.fst_highlight, applied?_ini]
    exact render_ini
  refine ⟨by decide, List.mem_cons_self, highlighter_ini, hmarkup, fun hwhole => ?_⟩
  rw [hmarkup] at hwhole
  obtain ⟨e, he⟩ := hwhole [] "amp<span class=\"sh-comment\">;</span>".toList (by decide)
  revert he
  cases e <;> decide

end Config

end CodeMarkup
