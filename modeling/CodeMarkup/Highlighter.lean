import CodeMarkup.Cache
import CodeMarkup.Markup.Strip
import CodeMarkup.Registry
import CodeMarkup.Settings

/-!
# Highlighting

A highlighter (`CodeMarkup.Highlighter`) turns the text of a document into markup:

1. the text is escaped, once, before any rule sees it;
2. the rules of the language are applied in order;
3. the pieces are rendered, and spans that only wrap a span are left out, if the
   settings ask for it.

An empty text has empty markup. A text in a language without rules, or one that is
too long, is only escaped. Where there is a cache, markup that has been made once is
taken from it; so highlighting gives a highlighter back, with the cache that is left
(`CodeMarkup.Highlighter.highlight`).
-/

namespace CodeMarkup

/-- Settings, languages and a cache. -/
structure Highlighter where
  /-- The settings. -/
  settings : Settings
  /-- The languages. -/
  registry : Registry
  /-- The cache, if there is one. -/
  cache : Option Cache

namespace Highlighter

/-- A highlighter with settings that are known to be sound, and with a cache that makes
digests by `digest`, if the settings ask for one. -/
def assemble (digest : Nat → Text → UInt64) (settings : Settings) (registry : Registry) :
    Highlighter where
  settings := settings
  registry := registry
  cache :=
    if settings.useCache && settings.cacheCapacity ≠ 0 then
      some (Cache.empty digest settings.cacheCapacity)
    else none

/-- A highlighter with the given settings and languages, if the settings are sound. -/
def make (settings : Settings) (registry : Registry) : Except Error Highlighter :=
  match settings.validate with
  | .ok _ => .ok (assemble Cache.contentDigest settings registry)
  | .error f => .error (.invalidConfig f)

/-- The highlighter with the languages and settings that need no configuration. -/
def default : Highlighter := assemble Cache.contentDigest .default .builtin

/-- The rule set of a language and its slot, if it has rules. -/
def rules? (h : Highlighter) (language : String) : Option (Nat × RuleSet) :=
  (h.registry.resolve? language).filter fun (_, set) => !set.isEmpty

/-- Whether a language has rules. -/
def supports (h : Highlighter) (language : String) : Bool := (h.rules? language).isSome

/-- The markup of a text under a rule set. -/
def render (settings : Settings) (set : RuleSet) (text : Text) : Text :=
  let markup := Piece.renderAll settings.classPrefix.toList (set.apply (Markup.escape text))
  if settings.collapse then Markup.collapse markup else markup

/-- The number of bytes of a text. -/
def byteSize (text : Text) : Nat := text.foldr (fun c n => c.utf8Size + n) 0

/-- The markup of a text in a language, and the highlighter afterwards. -/
def highlight (h : Highlighter) (text : Text) (language : String) : Text × Highlighter :=
  if text.isEmpty then ([], h)
  else
    match h.rules? language with
    | none => (Markup.escape text, h)
    | some (slot, set) =>
      if byteSize text > h.settings.maxBytes then (Markup.escape text, h)
      else
        match h.cache with
        | none => (render h.settings set text, h)
        | some cache =>
          match cache.get slot text with
          | (some markup, cache) => (markup, { h with cache := some cache })
          | (none, cache) =>
            let markup := render h.settings set text
            (markup, { h with cache := some (cache.insert slot text markup) })

/-- The size and the capacity of the cache, if there is one. -/
def usage? (h : Highlighter) : Option CacheUsage := h.cache.map Cache.usage

/-- The highlighter with an empty cache. -/
def forget (h : Highlighter) : Highlighter := { h with cache := h.cache.map Cache.clear }

end Highlighter

/-- The markup of a text in one of the languages that need no configuration. -/
def highlight (text language : String) : String :=
  let h := Highlighter.assemble Cache.contentDigest .uncached .builtin
  String.ofList (h.highlight text.toList language).1

end CodeMarkup
