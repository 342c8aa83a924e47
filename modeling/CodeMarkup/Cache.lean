import CodeMarkup.Digest

/-!
# The cache of markup

A cache (`CodeMarkup.Cache`) keeps the markup of the documents that were used last.
An entry is found by a *digest* of the slot of the language and the text. Digests
may clash, so an entry keeps the slot and the text as well, and one that was made
from something else is no hit: what is found is never the markup of another
document.

The entries are in the order of their last use. Finding an entry and storing one
brings it to the front; the one at the end has to go when there is no room.
-/

namespace CodeMarkup

/-- The markup of a document. -/
structure CacheEntry where
  /-- The digest of the slot and the text. -/
  digest : UInt64
  /-- The slot of the language. -/
  slot : Nat
  /-- The text. -/
  text : Text
  /-- The markup. -/
  markup : Text
  deriving DecidableEq, Repr

/-- The markup of the documents that were used last. -/
structure Cache where
  /-- The function that makes digests. -/
  digest : Nat → Text → UInt64
  /-- How many entries there may be. -/
  capacity : Nat
  /-- The entries, the one that was used last first. -/
  entries : List CacheEntry

namespace Cache

/-- The digest of a slot and a text: of the bytes of the slot and those of the text, with a
byte behind them that is in no text. -/
def contentDigest (slot : Nat) (text : Text) : UInt64 :=
  Digest.ofBytes
    (Digest.bytesOf slot.toUInt64 ++ text.flatMap String.utf8EncodeChar ++ [0xff])

/-- The cache without entries. -/
def empty (digest : Nat → Text → UInt64) (capacity : Nat) : Cache := ⟨digest, capacity, []⟩

/-- The number of entries. -/
def size (c : Cache) : Nat := c.entries.length

/-- The cache without its entries. -/
def clear (c : Cache) : Cache := { c with entries := [] }

/-- The cache after a look at the digest `d`: an entry with this digest comes to the front. -/
def touch (d : UInt64) (c : Cache) : Cache :=
  match c.entries.find? (·.digest = d) with
  | some e => { c with entries := e :: c.entries.filter (·.digest ≠ d) }
  | none => c

/-- The markup of a document, if it is kept, and the cache after the look at it. -/
def get (slot : Nat) (text : Text) (c : Cache) : Option Text × Cache :=
  let d := c.digest slot text
  let hit := (c.entries.find? (·.digest = d)).filter fun e => e.slot = slot ∧ e.text = text
  (hit.map (·.markup), c.touch d)

/-- The cache with the markup of a document in front, in the place of what had the same
digest. -/
def insert (slot : Nat) (text markup : Text) (c : Cache) : Cache :=
  let d := c.digest slot text
  let others := c.entries.filter (·.digest ≠ d)
  { c with entries := (⟨d, slot, text, markup⟩ :: others).take c.capacity }

end Cache

/-- The number of entries of a cache and their greatest number. -/
structure CacheUsage where
  /-- The number of entries. -/
  size : Nat
  /-- The greatest number of entries. -/
  capacity : Nat
  deriving DecidableEq, Repr

/-- The size and the capacity of a cache. -/
def Cache.usage (c : Cache) : CacheUsage := ⟨c.size, c.capacity⟩

/-- The part of the capacity that is in use; 0 if there is none. -/
def CacheUsage.share (s : CacheUsage) : Float32 :=
  if s.capacity = 0 then 0 else Float32.ofNat s.size / Float32.ofNat s.capacity

end CodeMarkup
