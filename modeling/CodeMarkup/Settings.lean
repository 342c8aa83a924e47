import CodeMarkup.Error

/-!
# Settings

The settings of a highlighter (`CodeMarkup.Settings`) and the check that they are
sound (`CodeMarkup.Settings.validate`). The prefix of the classes is part of an
attribute, so it may only have characters that mean nothing there.
-/

namespace CodeMarkup

/-- The settings of a highlighter. -/
structure Settings where
  /-- What stands before the name of every class. -/
  classPrefix : String
  /-- Whether spans that only wrap a span are left out. -/
  collapse : Bool
  /-- Whether the markup of documents is kept. -/
  useCache : Bool
  /-- How many documents are kept. -/
  cacheCapacity : Nat
  /-- How many bytes a text may have that is highlighted; a longer one is only escaped. -/
  maxBytes : Nat
  deriving DecidableEq, Repr

namespace Settings

/-- The settings if nothing is said. -/
def default : Settings := ⟨"sh-", true, true, 64, 1024 * 1024⟩

/-- The settings without a cache if nothing else is said. -/
def uncached : Settings := { default with useCache := false }

/-- Whether a character may stand in the prefix of the classes. -/
def isPrefixChar (c : Char) : Bool := c.isAlphanum || c = '-' || c = '_'

/-- Checks the settings. -/
def validate (s : Settings) : Except ConfigFault Unit :=
  if !s.classPrefix.toList.all isPrefixChar then .error (.unsafePrefix s.classPrefix)
  else if s.useCache && s.cacheCapacity == 0 then .error .emptyCache
  else if s.maxBytes = 0 then .error .emptyLimit
  else .ok ()

end Settings

end CodeMarkup
