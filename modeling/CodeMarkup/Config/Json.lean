import CodeMarkup.Config.Datum
import CodeMarkup.Json.Reader

/-!
# Settings and configurations in JSON

Settings and configurations can be handed over as JSON, too. They are not checked when
they are read.
-/

namespace CodeMarkup

/-- The class that a text names. -/
def SpanClass.ofJson? (t : Text) : Option SpanClass :=
  (Json.read? t).bind (ofDatum? Json.dialect)

/-- The settings that a text writes. -/
def Settings.ofJson? (t : Text) : Option Settings :=
  (Json.read? t).bind (ofDatum? Json.dialect)

/-- The configuration that a text writes. -/
def Config.ofJson? (t : Text) : Option Config :=
  (Json.read? t).bind (ofDatum? Json.dialect)

end CodeMarkup
