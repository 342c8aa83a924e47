import CodeMarkup.Quoted
import CodeMarkup.Regex.Syntax

/-!
# What can go wrong

Highlighting itself never fails. What can fail is the work before it: reading
patterns, naming languages, checking settings, and reading and writing
configurations. `CodeMarkup.Error` has a constructor for each cause, and
`CodeMarkup.Error.message` has the words for it.
-/

namespace CodeMarkup

/-- What is wrong with a configuration that could be read. -/
inductive ConfigFault where
  /-- The class prefix has a character that may not stand in a class attribute. -/
  | unsafePrefix (classPrefix : String)
  /-- The cache is to be used and has no room. -/
  | emptyCache
  /-- No text is short enough to be highlighted. -/
  | emptyLimit
  /-- A language has nothing but white space for an identifier. -/
  | blankLanguage
  /-- A language has no rules. -/
  | noRules (id : String)
  deriving DecidableEq, Repr

/-- What is wrong, in words. -/
def ConfigFault.message : ConfigFault → String
  | unsafePrefix p =>
    "class_prefix may only contain ASCII letters, digits, '-' and '_': " ++ quoted p
  | emptyCache => "cache_capacity must be at least 1 when the cache is enabled"
  | emptyLimit => "max_highlight_bytes must be at least 1"
  | blankLanguage => "language id cannot be empty"
  | noRules id => id ++ ": language needs at least one rule"

/-- What can go wrong. -/
inductive Error where
  /-- The pattern of a rule writes no expression. -/
  | invalidPattern (e : Regex.PatternError)
  /-- No language has this identifier. -/
  | unknownLanguage (target : String)
  /-- A configuration is not sound. -/
  | invalidConfig (f : ConfigFault)
  /-- A file could not be read or written. -/
  | inaccessibleFile
  /-- A text is no configuration. -/
  | malformedConfig
  /-- A configuration has a number that its written form has no place for. -/
  | unwritableConfig
  deriving DecidableEq, Repr

/-- What went wrong, in words. -/
def Error.message : Error → String
  | invalidPattern _ => "Invalid rule pattern"
  | unknownLanguage target => "Unknown language: " ++ target
  | invalidConfig f => "Invalid configuration: " ++ f.message
  | inaccessibleFile => "I/O error"
  | malformedConfig => "Failed to parse config"
  | unwritableConfig => "Failed to serialize config"

end CodeMarkup
