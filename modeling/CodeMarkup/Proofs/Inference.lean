import CodeMarkup.Command.Run
import CodeMarkup.Proofs.Highlighter
import CodeMarkup.Proofs.Registry.Log

/-!
# The language of a file

If no language is asked for, the extension of the file is looked up, and what is found is
the *name* of a rule set, which is then looked up once more, as an identifier. The two
look-ups need not agree: a name stays with its rule set for ever, and an identifier
goes to whoever takes it last.

They agree **if and only if the name is still bound to the slot of the extension**
(`CodeMarkup.Config.inferred_language_agrees_iff`), and then a document is printed as it is if
the extension is asked for. Otherwise it may look different: with a language that
replaces the one for styles, a file of the second kind of style sheet has the colours
of the new language, and has the old ones if its own extension is asked for
(`CodeMarkup.Config.document_restyled`).
-/

namespace CodeMarkup

/-! ### The log of a configuration -/

namespace Config

open Registry

/-- The operation that a language stands for, if its patterns write expressions. -/
def operationOf (l : LanguageDef) : Except Error Operation :=
  l.compile.map fun set => .register set l.identifiers

/-- The log of the registry of a configuration: the languages that need none, its own, and its
aliases. -/
def log (c : Config) : Except Error (List Operation) :=
  (c.languages.mapM operationOf).map fun ops =>
    builtinLog ++ ops ++ c.aliases.entries.map fun e => .addAlias e.1 e.2

theorem exists_operations_of_addLanguages {languages : List LanguageDef} {r r' : Registry}
    (h : addLanguages languages r = .ok r') :
    ∃ ops, languages.mapM operationOf = .ok ops ∧ r.run ops = r' := by
  induction languages generalizing r with
  | nil =>
    cases h
    exact ⟨[], rfl, rfl⟩
  | cons l languages ih =>
    obtain ⟨r₁, hstep, hrest⟩ := foldlM_cons_eq_ok_iff.1 h
    obtain ⟨set, hl, rfl⟩ := map_eq_ok_iff.1 hstep
    obtain ⟨ops, hops, hrun⟩ := ih hrest
    have hop : operationOf l = .ok (.register set l.identifiers) := map_eq_ok_iff.2 ⟨set, hl, rfl⟩
    exact ⟨_, mapM_cons_eq_ok_iff.2 ⟨_, ops, hop, hops, rfl⟩, hrun⟩

theorem run_of_addAliases {entries : List (String × String)} {r r' : Registry}
    (h : entries.foldlM (fun r e => r.addAlias e.1 e.2) r = .ok r') :
    r.run (entries.map fun e => .addAlias e.1 e.2) = r' := by
  induction entries generalizing r with
  | nil =>
    cases h
    rfl
  | cons e entries ih =>
    obtain ⟨r₁, he, hrest⟩ := foldlM_cons_eq_ok_iff.1 h
    have hstep : (r.perform (.addAlias e.1 e.2)).2 = r₁ := by simp [perform, he]
    rw [List.map_cons, run, List.foldl_cons, hstep]
    exact ih hrest

/-- Languages and aliases behind those that need no configuration are a log. -/
theorem exists_run_of_addLanguages {languages : List LanguageDef}
    {entries : List (String × String)} {r₁ r : Registry}
    (hl : addLanguages languages .builtin = .ok r₁)
    (h : entries.foldlM (fun r e => r.addAlias e.1 e.2) r₁ = .ok r) :
    ∃ ops, languages.mapM operationOf = .ok ops ∧
      empty.run (builtinLog ++ ops ++ entries.map fun e => .addAlias e.1 e.2) = r := by
  obtain ⟨ops, hops, hrun⟩ := exists_operations_of_addLanguages hl
  refine ⟨ops, hops, ?_⟩
  rw [run_append, run_append, run_builtinLog, hrun]
  exact run_of_addAliases h

/-- **The registry of a configuration is what its log says.** -/
theorem exists_log_of_registry {c : Config} {r : Registry} (h : c.registry = .ok r) :
    ∃ log, c.log = .ok log ∧ empty.run log = r := by
  obtain ⟨r₁, hl, h⟩ := bind_eq_ok_iff.1 h
  obtain ⟨ops, hops, hrun⟩ := exists_run_of_addLanguages hl h
  exact ⟨_, map_eq_ok_iff.2 ⟨ops, hops, rfl⟩, hrun⟩

end Config

/-! ### Names -/

namespace Registry

/-- That the name of each rule set is an identifier, perhaps of another one. -/
def NamesBound (r : Registry) : Prop := ∀ set ∈ r.ruleSets, (r.slot? set.name).isSome

variable {r r' : Registry}

theorem namesBound_builtin : builtin.NamesBound := by
  intro set hset
  have hnames : ∀ name ∈ builtin.ruleSets.map (·.name), (builtin.slot? name).isSome := by decide
  exact hnames _ (List.mem_map_of_mem hset)

theorem isSome_slot?_register {id : String} (h : (r.slot? id).isSome) (set : RuleSet)
    (ids : List String) : ((r.register set ids).slot? id).isSome := by
  rw [slot?_register]
  split
  · rfl
  · exact h

/-- A rule set whose name is among its identifiers has a name that is bound. -/
theorem NamesBound.register (h : r.NamesBound) {set : RuleSet} {ids : List String}
    (hname : ∃ id ∈ ids, normalize id = set.name) : (r.register set ids).NamesBound := by
  intro set' hset'
  rw [ruleSets_register, List.mem_append, List.mem_singleton] at hset'
  rcases hset' with hset' | rfl
  · exact isSome_slot?_register (h set' hset') set ids
  · obtain ⟨id, hid, hname⟩ := hname
    rw [slot?_register, if_pos ⟨id, hid, by rw [← hname, normalize_normalize]⟩]
    rfl

theorem NamesBound.addAlias (h : r.NamesBound) {id target : String}
    (hr : r.addAlias id target = .ok r') : r'.NamesBound := by
  unfold Registry.addAlias at hr
  split at hr
  · cases hr
    intro set hset
    rw [slot?_bind]
    split
    · rfl
    · exact h set hset
  · cases hr

end Registry

namespace Config

open Registry

/-- A language is named after its identifier. -/
theorem name_of_compile {l : LanguageDef} {set : RuleSet} (h : l.compile = .ok set) :
    set.name = normalize l.id := by
  unfold LanguageDef.compile at h
  split at h
  · cases h
    rfl
  · cases h

/-- **In the registry of a configuration all names are bound.** -/
theorem namesBound_registry {c : Config} {r : Registry} (h : c.registry = .ok r) :
    r.NamesBound := by
  obtain ⟨r₁, hl, h⟩ := bind_eq_ok_iff.1 h
  have hlanguages : r₁.NamesBound := by
    refine foldlM_invariant (fun r l r' hr hr' => ?_) namesBound_builtin hl
    obtain ⟨set, hc, rfl⟩ := map_eq_ok_iff.1 hr'
    exact hr.register ⟨l.id, List.mem_cons_self, (name_of_compile hc).symm⟩
  exact foldlM_invariant (fun _ _ _ h hr => h.addAlias hr) hlanguages h

end Config

/-! ### Documents -/

/-- **Identifiers of one slot give one markup.** -/
theorem Highlighter.Coherent.highlight_congr {h : Highlighter} (hc : h.Coherent) {a b : String}
    (hab : h.registry.resolve? a = h.registry.resolve? b) (text : Text) :
    (h.highlight text a).1 = (h.highlight text b).1 := by
  have happlied : h.applied? text a = h.applied? text b := by
    simp only [applied?, rules?, hab]
  rw [hc.fst_highlight, hc.fst_highlight, happlied]

/-- Identifiers of one slot give one document, in either format. -/
theorem Command.document_congr {h : Highlighter} (hc : h.Coherent) (o o' : Options)
    (hformat : o.format = o'.format) (hcaret : o.caret = o'.caret)
    (hlanguage : h.registry.resolve? (languageOf o h.registry) =
      h.registry.resolve? (languageOf o' h.registry)) (text : Text) :
    document o h text = document o' h text := by
  have hmarkup := hc.highlight_congr hlanguage text
  have hname : h.registry.nameOf? (languageOf o h.registry) =
      h.registry.nameOf? (languageOf o' h.registry) := by
    simp only [Registry.nameOf?, hlanguage]
  simp only [document, hformat, hcaret, Frame.render, hmarkup, hname]

namespace Config

open Registry Command

/-- The highlighter of a configuration has its registry, and a cache that tells the truth. -/
theorem registry_of_highlighter {c : Config} {r : Registry} (hr : c.registry = .ok r)
    {h : Highlighter} (hh : c.highlighter = .ok h) : h.registry = r ∧ h.Coherent := by
  refine ⟨?_, (Highlighter.Made.ofConfig hh).sound.coherent⟩
  obtain ⟨r', hr', hm⟩ := bind_eq_ok_iff.1 hh
  obtain ⟨-, rfl⟩ := Highlighter.make_eq_ok_iff.1 hm
  exact Except.ok.inj (hr'.symm.trans hr)

/-- **The language of a file is the one of its extension if and only if its name still belongs to
it.** What is found by the extension is the name of its rule set, and the name is an
identifier. It resolves to the same slot just if the log of the configuration binds it
to this slot last; and then a document is the same whether the language is inferred or
the extension is asked for. -/
theorem inferred_language_agrees_iff {c : Config} {r : Registry} (hr : c.registry = .ok r)
    {path name : String} (hname : r.nameForFile? path = some name) :
    ∃ log ext slot set, c.log = .ok log ∧ extension? path.toList = some ext ∧
      r.resolve? (String.ofList ext) = some (slot, set) ∧ set.name = name ∧
      (r.resolve? name).isSome ∧
      (r.resolve? name = r.resolve? (String.ofList ext) ↔ LastBinds log name slot) ∧
      (LastBinds log name slot → ∀ h, c.highlighter = .ok h → ∀ o text,
        o.file = some path → o.language = none →
          document o h text = document { o with language := some (String.ofList ext) } h text) := by
  obtain ⟨log, hlog, rfl⟩ := exists_log_of_registry hr
  obtain ⟨ext, hext, hnameOf⟩ := Option.bind_eq_some_iff.1 hname
  obtain ⟨⟨slot, set⟩, hresolve, hset⟩ := Option.map_eq_some_iff.1 hnameOf
  have hrefines := refines_run log
  obtain ⟨-, hslot⟩ := (hrefines.resolve_iff _ slot set).1 hresolve
  have hiff : (empty.run log).resolve? name = (empty.run log).resolve? (String.ofList ext) ↔
      LastBinds log name slot := by
    rw [hresolve, hrefines.resolve_iff]
    exact and_iff_left hslot
  refine ⟨log, ext, slot, set, hlog, hext, hresolve, hset, ?_, hiff, fun hlast h hh o text hfile
    hlanguage => ?_⟩
  · have hmem : set ∈ (empty.run log).ruleSets := by
      rw [ruleSets_run]
      exact List.mem_of_getElem? hslot
    have hbound := namesBound_registry hr set hmem
    obtain ⟨slot', hslot'⟩ := Option.isSome_iff_exists.1 hbound
    rw [Option.isSome_iff_ne_none, ne_eq, hrefines.unresolved_iff]
    exact fun hnone => hnone slot' (hset ▸ slot?_run.1 hslot')
  · obtain ⟨hregistry, hcoherent⟩ := registry_of_highlighter hr hh
    have hinferred : languageOf o h.registry = name := by
      simp [languageOf, hfile, hlanguage, hregistry, hname]
    have hsame : h.registry.resolve? (languageOf o h.registry) =
        h.registry.resolve? (String.ofList ext) := by
      rw [hinferred, hregistry]
      exact hiff.2 hlast
    exact document_congr hcoherent o { o with language := some (String.ofList ext) } rfl rfl hsame
      text

/-- A file in the script language without a configuration, whose extension has large letters. -/
theorem inferred_language_agrees_iff_tsx :
    Config.default.registry = .ok .builtin ∧
      Registry.builtin.nameForFile? "app/main.TSX" = some "js" ∧
      ∃ log ext slot set, Config.default.log = .ok log ∧
        extension? "app/main.TSX".toList = some ext ∧
        Registry.builtin.resolve? (String.ofList ext) = some (slot, set) ∧
        (Registry.builtin.resolve? "js" = Registry.builtin.resolve? (String.ofList ext) ↔
          LastBinds log "js" slot) := by
  have hregistry : Config.default.registry = .ok .builtin := rfl
  have hname : Registry.builtin.nameForFile? "app/main.TSX" = some "js" := by rfl
  obtain ⟨log, ext, slot, set, hlog, hext, hresolve, -, -, hiff, -⟩ :=
    inferred_language_agrees_iff hregistry hname
  exact ⟨hregistry, hname, log, ext, slot, set, hlog, hext, hresolve, hiff⟩

/-! ### A configuration that takes a name away -/

/-- The expression of a word. -/
def wordExpr : Regex.Expr := Language.many1 (.one (.range 'a' 'z'))

/-- A language in the place of the one for styles. -/
def wordsLanguage : LanguageDef := ⟨"css", [], [⟨"word", "[a-z]+", .keyword⟩]⟩

/-- The configuration with this language. -/
def restyled : Config := ⟨.default, .empty, [wordsLanguage]⟩

/-- The rule set of the language. -/
def wordsRules : RuleSet :=
  ⟨normalize "css", [⟨"word", Language.pattern "[a-z]+" wordExpr, .wrap .keyword⟩]⟩

/-- The highlighter of the configuration. -/
def restyledHighlighter : Highlighter :=
  .assemble Cache.contentDigest .default (Registry.builtin.register wordsRules ["css"])

theorem highlighter_restyled : restyled.highlighter = .ok restyledHighlighter := by
  have hvalid : Settings.default.validate = .ok () := by decide
  have hcompile : wordsLanguage.compile = .ok wordsRules :=
    compile_of_writtenAs (by rfl) (by cbv)
  have hregistry : restyled.registry = .ok (Registry.builtin.register wordsRules ["css"]) :=
    registry_of_compile hcompile
  rw [highlighter, hregistry]
  simp only [Except.bind, Highlighter.make, restyled, hvalid, restyledHighlighter]

/-- The markup of a word under one of the two rule sets with the name. -/
theorem highlight_restyled {language : String} {slot : Nat} {set : RuleSet}
    (hresolve : restyledHighlighter.registry.resolve? language = some (slot, set))
    (hrules : set.isEmpty = false) :
    (restyledHighlighter.highlight ['a'] language).1 = Highlighter.render .default set ['a'] := by
  have hcoherent : restyledHighlighter.Coherent := Highlighter.coherent_assemble _ _ _
  have happlied : restyledHighlighter.applied? ['a'] language = some set := by
    have hset : restyledHighlighter.rules? language = some (slot, set) := by
      rw [Highlighter.rules?, hresolve]
      simp [Option.filter, hrules]
    rw [Highlighter.applied?, if_neg (by decide), hset]
    rfl
  rw [hcoherent.fst_highlight, happlied]
  rfl

/-- **The language that is inferred is not the one of the extension.** A sound configuration gives
the identifier of the language for styles to a new language. A file of the second kind of
style sheet is then printed with the words of the new language in spans, and without them
if its own extension is asked for. -/
theorem document_restyled :
    restyled.validate = .ok () ∧ restyled.highlighter = .ok restyledHighlighter ∧
      restyledHighlighter.registry.nameForFile? "a.scss" = some "css" ∧
      restyledHighlighter.registry.slot? "css" = some 3 ∧
      restyledHighlighter.registry.slot? "scss" = some 2 ∧
      document { file := some "a.scss" } restyledHighlighter ['a'] =
        "<span class=\"sh-keyword\">a</span>\n".toList ∧
      document { file := some "a.scss", language := some "scss" } restyledHighlighter ['a'] =
        "a\n".toList := by
  have hinferred : (restyledHighlighter.highlight ['a'] "css").1 =
      "<span class=\"sh-keyword\">a</span>".toList := by
    rw [highlight_restyled (resolve?_register_self wordsRules "css" .builtin) rfl]
    decide
  have hasked : (restyledHighlighter.highlight ['a'] "scss").1 = ['a'] := by
    have hresolve : restyledHighlighter.registry.resolve? "scss" = some (2, Language.style) := by
      rfl
    rw [highlight_restyled hresolve rfl]
    decide
  refine ⟨by decide, highlighter_restyled, by rfl, by rfl, by rfl, ?_, ?_⟩
  · have hlanguage : languageOf { file := some "a.scss" } restyledHighlighter.registry = "css" := by
      rfl
    simp only [document, hlanguage, Option.getD_none, hinferred]
    decide
  · have hlanguage : languageOf { file := some "a.scss", language := some "scss" }
        restyledHighlighter.registry = "scss" := rfl
    simp only [document, hlanguage, Option.getD_none, hasked]
    decide

end Config

end CodeMarkup
