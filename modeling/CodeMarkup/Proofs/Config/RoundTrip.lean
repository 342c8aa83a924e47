import CodeMarkup.Proofs.Config.Values
import CodeMarkup.Proofs.Toml.Documents

/-!
# Saved configurations can be loaded

What is saved for a configuration is loaded as the configuration, if it is sound, and
is refused for the reason for which the configuration is refused otherwise; and a
configuration is saved unless one of its numbers does not fit into an integer of TOML, when
nothing is written (`CodeMarkup.Config.load_save`).

Nothing else matters: identifiers, aliases, names and patterns may be any strings, and may be
as many as one likes. The strings are taken care of where values and keys are read; here it
only has to be seen that the document of a configuration is one that is read back, since its
keys and headers have one part or two (`CodeMarkup.Config.named_toDocument`), and that
nothing but the two numbers can keep it from being written
(`CodeMarkup.Config.isSome_write?_iff`).
-/

namespace CodeMarkup

open Toml

/-- A section whose keys have no points is named, if its header is. -/
theorem named_simple {path : List String} (hpath : IsKey path) (isElement : Bool)
    (kvs : List (String × Datum)) : Section.Named ⟨path, isElement, simple kvs⟩ where
  path := hpath
  entries := by
    intro e he
    obtain ⟨kv, -, rfl⟩ := List.mem_map.1 he
    simp [IsKey, depthLimit]

/-! ### Values that can be written -/

@[simp]
theorem isSome_writeValue?_bool (b : Bool) : (Document.writeValue? (.bool b)).isSome := by
  cases b <;> rfl

@[simp]
theorem isSome_writeValue?_string (s : String) : (Document.writeValue? (.string s)).isSome := rfl

@[simp]
theorem isSome_writeValue?_ofStrings (ss : List String) :
    (Document.writeValue? (Datum.ofStrings ss)).isSome := by
  rw [Datum.ofStrings, Document.writeValue?,
    mapM_map_eq_some Datum.string? Datum.string (fun _ => rfl) ss]
  rfl

@[simp]
theorem isSome_writeValue?_nil : (Document.writeValue? (.list [])).isSome := rfl

/-- The only values that cannot always be written are numbers. -/
theorem isSome_writeValue?_nat {n : Nat} :
    (Document.writeValue? (.nat n)).isSome ↔ n ≤ 0x7fffffffffffffff := by
  rw [Document.writeValue?]
  split
  · exact iff_of_true rfl (by omega)
  · exact iff_of_false (by simp) (by omega)

/-! ### Bytes -/

theorem fromUTF8?_toUTF8 (s : String) : String.fromUTF8? s.toUTF8 = some s := by
  rw [String.fromUTF8?, String.toUTF8_eq_toByteArray, dif_pos s.isValidUTF8]
  rfl

/-! ### The document of a configuration -/

namespace Config

/-- The sections of a configuration. -/
theorem forall_mem_sections_iff {P : Section → Prop} (c : Config) :
    (∀ s ∈ c.toDocument.sections, P s) ↔
      P c.settings.toSection ∧ P c.aliases.toSection ∧
        ∀ l ∈ c.languages, P l.ownSection ∧ ∀ r ∈ l.rules, P r.toSection := by
  simp only [toDocument, List.forall_mem_cons, List.forall_mem_flatMap, LanguageDef.toSections_eq,
    List.forall_mem_map]

/-- All that is in the document of a configuration is named. -/
theorem named_toDocument (c : Config) : c.toDocument.Named where
  entries := by
    rw [toDocument]
    cases c.languages <;> simp [IsKey, depthLimit]
  sections := by
    rw [forall_mem_sections_iff, AliasTable.toSection_eq]
    have hshort : ∀ key, IsKey [key] := by simp [IsKey, depthLimit]
    refine ⟨named_simple (hshort _) false c.settings.values, named_simple (hshort _) false _,
      fun l _ => ⟨named_simple (hshort _) true _, fun r _ => named_simple ?_ true r.values⟩⟩
    simp [IsKey, depthLimit]

/-- **A configuration is written** if and only if its numbers fit into integers. -/
theorem isSome_write?_iff (c : Config) :
    c.toDocument.write?.isSome ↔
      c.settings.cacheCapacity ≤ 0x7fffffffffffffff ∧ c.settings.maxBytes ≤ 0x7fffffffffffffff := by
  have hfront : ∀ e ∈ c.toDocument.entries, (Document.writeValue? e.2).isSome := by
    rw [toDocument]
    cases c.languages <;> simp
  have hsettings : (∀ e ∈ c.settings.toSection.entries, (Document.writeValue? e.2).isSome) ↔
      c.settings.cacheCapacity ≤ 0x7fffffffffffffff ∧ c.settings.maxBytes ≤ 0x7fffffffffffffff := by
    simp [Settings.toSection, isSome_writeValue?_nat]
  have haliases : ∀ e ∈ c.aliases.toSection.entries, (Document.writeValue? e.2).isSome := by
    intro e he
    obtain ⟨a, -, rfl⟩ := List.mem_map.1 he
    rfl
  have hlanguages : ∀ l ∈ c.languages,
      (∀ e ∈ l.ownSection.entries, (Document.writeValue? e.2).isSome) ∧
        ∀ r ∈ l.rules, ∀ e ∈ r.toSection.entries, (Document.writeValue? e.2).isSome := by
    intro l _
    constructor
    · cases hrules : l.rules <;>
        simp [LanguageDef.ownSection, LanguageDef.ownValues, simple, hrules]
    · simp [RuleDef.toSection]
  rw [Document.isSome_write?_iff, forall_mem_sections_iff, hsettings]
  exact ⟨fun h => h.2.1, fun h => ⟨hfront, h, haliases, hlanguages⟩⟩

/-- **What is written for a configuration is read as the configuration**, and then checked. -/
theorem ofToml_of_write? {c : Config} {t : Text} (h : c.toDocument.write? = some t) :
    (c.validate = .ok () → ofToml t = .ok c) ∧
      ∀ f, c.validate = .error f → ofToml t = .error (.invalidConfig f) := by
  have hfits := c.isSome_write?_iff.1 (by rw [h]; rfl)
  have hread : (Toml.read? t).bind (ofDatum? Toml.dialect) = some c := by
    rw [Toml.read?, Document.read?_write? c.named_toDocument h, Option.bind_some,
      datum?_toDocument, Option.bind_some]
    exact ofDatum?_values Toml.dialect (by omega) (by omega)
  constructor
  · intro hvalid
    simp only [ofToml, hread, hvalid]
  · intro f hfault
    simp only [ofToml, hread, hfault]

/-! ### Files -/

/-- A file with the bytes of a text is loaded like the text. -/
theorem ofFile_toUTF8 (t : Text) : ofFile (some (String.ofList t).toUTF8) = ofToml t := by
  simp only [ofFile, Option.bind_some, fromUTF8?_toUTF8, String.toList_ofList]

/-- **What is saved can be loaded.** If the numbers of a configuration are at most `2 ^ 63 - 1`, it
has a text, whose bytes replace those of the file, and a file with these bytes is loaded as
the configuration if it is sound, and refused with what is wrong with it if it is not. If
one of the numbers is greater, saving fails and the file is left alone. -/
theorem load_save {m : Type → Type} [Monad m] (replace : ByteArray → m Bool) (c : Config) :
    if c.settings.cacheCapacity ≤ 0x7fffffffffffffff ∧ c.settings.maxBytes ≤ 0x7fffffffffffffff then
      ∃ t, c.toToml = .ok t ∧
        (c.save replace = do
          if ← replace (String.ofList t).toUTF8 then return .ok ()
          else return .error .inaccessibleFile) ∧
        ofFile (some (String.ofList t).toUTF8) = ofToml t ∧
        (c.validate = .ok () → ofToml t = .ok c) ∧
        ∀ f, c.validate = .error f → ofToml t = .error (.invalidConfig f)
    else
      c.toToml = .error .unwritableConfig ∧ c.save replace = return .error .unwritableConfig := by
  split
  · next hfits =>
    obtain ⟨t, ht⟩ := Option.isSome_iff_exists.1 (c.isSome_write?_iff.2 hfits)
    have htoml : c.toToml = .ok t := by simp only [toToml, ht]
    refine ⟨t, htoml, ?_, ofFile_toUTF8 t, ofToml_of_write? ht⟩
    simp only [save, htoml]
  · next hfits =>
    have hnone : c.toDocument.write? = none :=
      Option.not_isSome_iff_eq_none.1 (mt c.isSome_write?_iff.1 hfits)
    have htoml : c.toToml = .error .unwritableConfig := by simp only [toToml, hnone]
    refine ⟨htoml, ?_⟩
    simp only [save, htoml]

end Config

end CodeMarkup
