import CodeMarkup.Markup.Strip
import Mathlib.Data.List.Basic

/-!
# Escaped texts and the places inside of entities

Escaping is undone by reading back (`CodeMarkup.Markup.unescape_escape`), and what it
produces are the escaped texts (`CodeMarkup.Markup.isEscaped_iff_exists_escape`).

The entities are a code in which no word begins another one, so an escaped text is put
together in one way, and a place of it lies between two of its parts or inside of an
entity (`CodeMarkup.Markup.InsideEntity`): **cut at a place, an escaped text falls into
two escaped texts unless the place lies inside of an entity**
(`CodeMarkup.Markup.IsEscaped.cut`). That a place is harmless can mostly be told from a
few characters: an entity has an ampersand at its start, a semicolon at its end and
nothing but a few letters in between (`CodeMarkup.Markup.entityLetters`). So no match
begins inside of an entity that would have to get past the semicolon
(`CodeMarkup.Markup.Foreign`), and none ends there that has something else behind its
last ampersand (`CodeMarkup.Markup.Settled`).

A text in which every ampersand begins an entity, whatever else it has in it, is one
with `CodeMarkup.Markup.EntitiesWhole`; markup is measured by this. Where there are no angle
brackets either, the text is escaped, and **these are the texts that escaping makes again of what
has been read back from them** (`CodeMarkup.Markup.escape_unescape_inverse`).
-/

namespace CodeMarkup.Markup

/-! ### Escaping and reading back -/

theorem Entity.ofChar?_eq_none_iff {c : Char} :
    Entity.ofChar? c = none ↔ c ≠ '&' ∧ c ≠ '<' ∧ c ≠ '>' := by
  unfold Entity.ofChar?
  split <;> simp_all

/-- A character is written as its entity, or it stands for itself. -/
theorem escapeChar_cases (c : Char) :
    (∃ e : Entity, c = e.char ∧ escapeChar c = e.text) ∨
      (Entity.ofChar? c = none ∧ escapeChar c = [c]) := by
  unfold escapeChar
  cases h : Entity.ofChar? c with
  | none => exact .inr ⟨rfl, rfl⟩
  | some e =>
    refine .inl ⟨e, ?_, rfl⟩
    unfold Entity.ofChar? at h
    split at h <;> cases h <;> rfl

theorem unescape_cons_of_ne {c : Char} (h : c ≠ '&') (t : Text) :
    unescape (c :: t) = c :: unescape t := by
  rw [unescape] <;> simp_all

theorem unescape_entity (e : Entity) (t : Text) : unescape (e.text ++ t) = e.char :: unescape t := by
  cases e <;> rfl

/-- **Reading back undoes escaping.** -/
theorem unescape_escape (t : Text) : unescape (escape t) = t := by
  induction t with
  | nil => rfl
  | cons c t ih =>
    rw [escape_cons]
    rcases escapeChar_cases c with ⟨e, rfl, he⟩ | ⟨hc, he⟩
    · rw [he, unescape_entity, ih]
    · rw [he, List.singleton_append, unescape_cons_of_ne (Entity.ofChar?_eq_none_iff.1 hc).1, ih]

/-! ### Escaped texts -/

theorem IsEscaped.append {s t : Text} (hs : IsEscaped s) (ht : IsEscaped t) :
    IsEscaped (s ++ t) := by
  induction hs with
  | nil => exact ht
  | plain h _ ih => exact .plain h ih
  | entity e _ ih =>
    rw [List.append_assoc]
    exact .entity e ih

theorem isEscaped_escape (t : Text) : IsEscaped (escape t) := by
  induction t with
  | nil => exact .nil
  | cons c t ih =>
    rw [escape_cons]
    rcases escapeChar_cases c with ⟨e, -, he⟩ | ⟨hc, he⟩
    · rw [he]
      exact .entity e ih
    · rw [he]
      exact .plain hc ih

/-- **The escaped texts are those that escaping produces.** -/
theorem isEscaped_iff_exists_escape {s : Text} : IsEscaped s ↔ ∃ t, s = escape t := by
  refine ⟨fun h => ?_, fun ⟨t, ht⟩ => ht ▸ isEscaped_escape t⟩
  induction h with
  | nil => exact ⟨[], rfl⟩
  | @plain c _ h _ ih =>
    obtain ⟨t, rfl⟩ := ih
    exact ⟨c :: t, by simp [escapeChar, h]⟩
  | entity e _ ih =>
    obtain ⟨t, rfl⟩ := ih
    exact ⟨e.char :: t, by cases e <;> rfl⟩

theorem Entity.mem_text {e : Entity} {c : Char} (h : c ∈ e.text) : c ≠ '<' ∧ c ≠ '>' := by
  have hall : e.text.all (fun c => c != '<' && c != '>') := by cases e <;> decide
  simpa using List.all_eq_true.1 hall c h

/-- **An escaped text has no angle brackets.** -/
theorem IsEscaped.ne_angle {t : Text} (h : IsEscaped t) {c : Char} (hc : c ∈ t) :
    c ≠ '<' ∧ c ≠ '>' := by
  induction h with
  | nil => cases hc
  | plain hd _ ih =>
    rcases List.mem_cons.1 hc with rfl | hc
    · exact (Entity.ofChar?_eq_none_iff.1 hd).2
    · exact ih hc
  | entity e _ ih =>
    rcases List.mem_append.1 hc with hc | hc
    · exact e.mem_text hc
    · exact ih hc

/-- An escaped text begins with nothing, with a character that needs no entity, or with an
entity. -/
theorem IsEscaped.cases {s : Text} (h : IsEscaped s) :
    s = [] ∨ (∃ c t, s = c :: t ∧ Entity.ofChar? c = none ∧ IsEscaped t) ∨
      ∃ (e : Entity) (t : Text), s = e.text ++ t ∧ IsEscaped t := by
  cases h with
  | nil => exact .inl rfl
  | plain h ht => exact .inr (.inl ⟨_, _, rfl, h, ht⟩)
  | entity e ht => exact .inr (.inr ⟨e, _, rfl, ht⟩)

/-- **No entity begins another one.** -/
theorem Entity.text_append_inj {e e' : Entity} {t t' : Text} (h : e.text ++ t = e'.text ++ t') :
    e = e' ∧ t = t' := by
  cases e <;> cases e' <;> simp_all [Entity.text, Entity.tail]

theorem IsEscaped.of_cons {c : Char} {t : Text} (h : IsEscaped (c :: t))
    (hc : Entity.ofChar? c = none) : IsEscaped t := by
  rcases h.cases with h | ⟨d, u, hs, -, hu⟩ | ⟨e, u, hs, hu⟩
  · cases h
  · cases hs
    exact hu
  · obtain ⟨rfl, -⟩ := List.cons.inj hs
    exact absurd hc (by decide)

theorem IsEscaped.of_entity {e : Entity} {t : Text} (h : IsEscaped (e.text ++ t)) :
    IsEscaped t := by
  rcases h.cases with h | ⟨c, u, hs, hc, -⟩ | ⟨e', u, hs, hu⟩
  · cases h
  · obtain ⟨rfl, -⟩ := List.cons.inj hs
    exact absurd hc (by decide)
  · obtain ⟨-, rfl⟩ := Entity.text_append_inj hs
    exact hu

/-- An escaped text behind an escaped text. -/
theorem IsEscaped.of_append {s t : Text} (hs : IsEscaped s) (h : IsEscaped (s ++ t)) :
    IsEscaped t := by
  induction hs with
  | nil => exact h
  | plain hc _ ih => exact ih (h.of_cons hc)
  | entity e _ ih => exact ih (IsEscaped.of_entity (e := e) (by rwa [← List.append_assoc]))

/-! ### Places inside of entities -/

/-- That the place between `u` and `v` lies inside of an entity. -/
def InsideEntity (u v : Text) : Prop :=
  ∃ (e : Entity) (x y u' v' : Text), x ≠ [] ∧ y ≠ [] ∧ e.text = x ++ y ∧ u = u' ++ x ∧ v = y ++ v'

/-- **A place of an escaped text** lies between two escaped texts or inside of an entity. -/
theorem IsEscaped.cut {u v : Text} (h : IsEscaped (u ++ v)) :
    (IsEscaped u ∧ IsEscaped v) ∨ InsideEntity u v := by
  generalize hs : u ++ v = s at h
  induction h generalizing u with
  | nil =>
    obtain ⟨rfl, rfl⟩ := List.append_eq_nil_iff.1 hs
    exact .inl ⟨.nil, .nil⟩
  | @plain c t hc ht ih =>
    cases u with
    | nil =>
      obtain rfl : v = c :: t := hs
      exact .inl ⟨.nil, .plain hc ht⟩
    | cons d u =>
      obtain ⟨rfl, rfl⟩ := List.cons.inj hs
      rcases ih rfl with ⟨hu, hv⟩ | ⟨e, x, y, u', v', hx, hy, hxy, rfl, hv⟩
      · exact .inl ⟨.plain hc hu, hv⟩
      · exact .inr ⟨e, x, y, d :: u', v', hx, hy, hxy, rfl, hv⟩
  | @entity e t ht ih =>
    rcases List.append_eq_append_iff.1 hs with ⟨y, hy, hv⟩ | ⟨u₂, hu, ht₂⟩
    · -- The place is in the entity or at one of its ends.
      rcases List.eq_nil_or_concat u with rfl | ⟨_, _, hne⟩
      · exact .inl ⟨.nil, (show v = e.text ++ t from hs) ▸ .entity e ht⟩
      · rcases List.eq_nil_or_concat y with rfl | ⟨_, _, hne'⟩
        · refine .inl ⟨?_, by simpa [hv] using ht⟩
          have hu : u = e.text ++ [] := by simpa using hy.symm
          exact hu ▸ .entity e .nil
        · exact .inr ⟨e, u, y, [], t, by simp [hne], by simp [hne'], hy, rfl, hv⟩
    · rcases ih ht₂.symm with ⟨hu₂, hv⟩ | ⟨e', x, y, u', v', hx, hy, hxy, rfl, hv⟩
      · exact .inl ⟨hu ▸ .entity e hu₂, hv⟩
      · exact .inr ⟨e', x, y, e.text ++ u', v', hx, hy, hxy, by rw [hu, List.append_assoc], hv⟩

/-- The letters that entities are written with. -/
def entityLetters : List Char := ['a', 'm', 'p', 'l', 't', 'g']

/-- The two parts of an entity: the first one begins with the ampersand and goes on with
letters, the second one has letters before the semicolon. -/
theorem Entity.parts {e : Entity} {x y : Text} (h : e.text = x ++ y) (hx : x ≠ []) (hy : y ≠ []) :
    (∃ z, x = '&' :: z ∧ ∀ c ∈ z, c ∈ entityLetters) ∧
      ∃ z, y = z ++ [';'] ∧ ∀ c ∈ z, c ∈ entityLetters := by
  have hbegun : ∀ e : Entity, ∀ n < e.text.length, 0 < n →
      (e.text.take n).head? = some '&' ∧ (e.text.take n).tail.all (entityLetters.contains ·) := by
    rintro (_ | _ | _) <;> decide
  have hended : ∀ e : Entity, ∀ n < e.text.length, 0 < n →
      (e.text.drop n).getLast? = some ';' ∧
        (e.text.drop n).dropLast.all (entityLetters.contains ·) := by
    rintro (_ | _ | _) <;> decide
  have hpos : 0 < x.length := List.length_pos_iff.2 hx
  have hlt : x.length < e.text.length := by
    have := List.length_pos_iff.2 hy
    rw [h, List.length_append]
    omega
  obtain ⟨hhead, htail⟩ := hbegun e x.length hlt hpos
  obtain ⟨hlast, hinit⟩ := hended e x.length hlt hpos
  rw [h, List.take_left] at hhead htail
  rw [h, List.drop_left] at hlast hinit
  have hletters : ∀ z : Text, z.all (entityLetters.contains ·) → ∀ c ∈ z, c ∈ entityLetters :=
    fun z hz c hc => List.contains_iff_mem.1 (List.all_eq_true.1 hz c hc)
  refine ⟨⟨x.tail, ?_, hletters _ htail⟩, y.dropLast, ?_, hletters _ hinit⟩
  · obtain ⟨c, z, rfl⟩ := List.exists_cons_of_ne_nil hx
    simpa using hhead
  · exact (List.dropLast_append_getLast? ';' hlast).symm

section Places

variable {u v : Text}

/-- Before a place inside of an entity there is the ampersand, and then letters only. -/
theorem InsideEntity.left (h : InsideEntity u v) :
    ∃ u' z, u = u' ++ '&' :: z ∧ ∀ c ∈ z, c ∈ entityLetters := by
  obtain ⟨e, x, y, u', v', hx, hy, hxy, rfl, -⟩ := h
  obtain ⟨⟨z, rfl, hz⟩, -⟩ := e.parts hxy hx hy
  exact ⟨u', z, rfl, hz⟩

/-- Behind a place inside of an entity there is the semicolon, behind letters only. -/
theorem InsideEntity.right (h : InsideEntity u v) :
    ∃ z v', v = z ++ ';' :: v' ∧ ∀ c ∈ z, c ∈ entityLetters := by
  obtain ⟨e, x, y, u', v', hx, hy, hxy, -, rfl⟩ := h
  obtain ⟨-, z, rfl, hz⟩ := e.parts hxy hx hy
  exact ⟨z, v', by simp, hz⟩

/-- **What stands before a place inside of an entity is not escaped.** -/
theorem InsideEntity.not_isEscaped (h : InsideEntity u v) : ¬IsEscaped u := by
  obtain ⟨e, x, y, u', v', hx, hy, hxy, rfl, rfl⟩ := h
  obtain ⟨⟨z, rfl, hz⟩, -⟩ := e.parts hxy hx hy
  intro hu
  rcases hu.cut with ⟨-, hamp⟩ | hin
  · -- The entity at the start of what has been begun would be the whole of it.
    rcases hamp.cases with h | ⟨c, t, hs, hc, -⟩ | ⟨e', t, hs, -⟩
    · cases h
    · obtain ⟨rfl, -⟩ := List.cons.inj hs
      exact absurd hc (by decide)
    · have : e'.text ++ (t ++ y) = e.text ++ [] := by
        rw [List.append_nil, hxy, hs, List.append_assoc]
      obtain ⟨-, ht⟩ := Entity.text_append_inj this
      exact hy (List.append_eq_nil_iff.1 ht).2
  · -- An ampersand does not stand inside of an entity.
    obtain ⟨z₂, v₂, hv, hletters⟩ := hin.right
    cases z₂ with
    | nil => cases hv
    | cons c z₂ =>
      obtain ⟨rfl, -⟩ := List.cons.inj hv
      exact absurd (hletters '&' (by simp)) (by decide)

/-- That no entity is begun at the end of a text: behind each of its ampersands there is a
character that is no letter of an entity. -/
def Settled (t : Text) : Prop := ∀ x y, t = x ++ '&' :: y → ∃ c ∈ y, c ∉ entityLetters

/-- **A place behind a settled text** lies in no entity. -/
theorem IsEscaped.cut_of_settled {w : Text} (h : IsEscaped (w ++ v)) (hw : Settled w) :
    IsEscaped w ∧ IsEscaped v := by
  rcases h.cut with h | hin
  · exact h
  · obtain ⟨x, y, rfl, hy⟩ := hin.left
    obtain ⟨c, hc, hne⟩ := hw x y rfl
    exact absurd (hy c hc) hne

/-- Two settled texts at the start of an escaped text. -/
theorem IsEscaped.cut_of_settled_append {w w' : Text} (h : IsEscaped (w ++ w' ++ v))
    (hw : Settled w) (hw' : Settled w') : IsEscaped w ∧ IsEscaped w' := by
  rw [List.append_assoc] at h
  obtain ⟨hw, h⟩ := h.cut_of_settled hw
  exact ⟨hw, (h.cut_of_settled hw').1⟩

theorem settled_of_not_mem {t : Text} (h : '&' ∉ t) : Settled t := by
  rintro x y rfl
  exact absurd (by simp) h

/-- Behind a settled text with a character that is no letter of an entity, nothing before it
matters. -/
theorem Settled.append_of_mem {s t : Text} (ht : Settled t) {c : Char} (hc : c ∈ t)
    (hne : c ∉ entityLetters) : Settled (s ++ t) := by
  intro x y h
  rcases List.append_eq_append_iff.1 h with ⟨a, rfl, ha⟩ | ⟨a, rfl, ha⟩
  · exact ht a y ha
  · cases a with
    | nil => exact ht [] y ha.symm
    | cons d a =>
      obtain ⟨-, rfl⟩ := List.cons.inj ha
      exact ⟨c, by simp [hc], hne⟩

theorem Settled.append {s t : Text} (hs : Settled s) (ht : Settled t) : Settled (s ++ t) := by
  intro x y h
  rcases List.append_eq_append_iff.1 h with ⟨a, rfl, ha⟩ | ⟨a, rfl, ha⟩
  · exact ht a y ha
  · cases a with
    | nil => exact ht [] y ha.symm
    | cons d a =>
      obtain ⟨rfl, rfl⟩ := List.cons.inj ha
      obtain ⟨c, hc, hne⟩ := hs x a rfl
      exact ⟨c, by simp [hc], hne⟩

/-- A place before a character that no entity is ended with. -/
theorem IsEscaped.cut_of_head {c : Char} (h : IsEscaped (u ++ c :: v))
    (hc : c ∉ ';' :: entityLetters) : IsEscaped u ∧ IsEscaped (c :: v) := by
  rcases h.cut with h | hin
  · exact h
  · obtain ⟨z, v', hv, hz⟩ := hin.right
    cases z with
    | nil =>
      obtain ⟨rfl, -⟩ := List.cons.inj hv
      exact absurd (by simp) hc
    | cons d z =>
      obtain ⟨rfl, -⟩ := List.cons.inj hv
      exact absurd (List.mem_cons_of_mem _ (hz c (by simp))) hc

/-- That a text has a character that is in no entity, and no semicolon before it. -/
def Foreign (t : Text) : Prop :=
  ∃ x c y, t = x ++ c :: y ∧ ';' ∉ x ∧ c ∉ ';' :: entityLetters

theorem Foreign.append_right {s : Text} (hs : Foreign s) (t : Text) : Foreign (s ++ t) := by
  obtain ⟨x, c, y, rfl, hx, hc⟩ := hs
  exact ⟨x, c, y ++ t, by simp, hx, hc⟩

theorem Foreign.append_left {s t : Text} (ht : Foreign t) (hs : ';' ∉ s) : Foreign (s ++ t) := by
  obtain ⟨x, c, y, rfl, hx, hc⟩ := ht
  exact ⟨s ++ x, c, y, by simp, by simp [hs, hx], hc⟩

/-- **A match that begins inside of an entity** does not get past its semicolon without
taking it. -/
theorem IsEscaped.cut_of_foreign {w : Text} (h : IsEscaped (u ++ (w ++ v))) (hw : Foreign w) :
    IsEscaped u ∧ IsEscaped (w ++ v) := by
  rcases h.cut with h | hin
  · exact h
  · obtain ⟨z, v', hv, hz⟩ := hin.right
    obtain ⟨x, c, y, rfl, hx, hc⟩ := hw
    rw [List.append_assoc, List.cons_append] at hv
    rcases List.append_eq_append_iff.1 hv with ⟨a, rfl, ha⟩ | ⟨a, rfl, ha⟩
    · cases a with
      | nil =>
        obtain ⟨rfl, -⟩ := List.cons.inj ha
        exact absurd (by simp) hc
      | cons d a =>
        obtain ⟨rfl, -⟩ := List.cons.inj ha
        exact absurd (List.mem_cons_of_mem _ (hz c (by simp))) hc
    · cases a with
      | nil =>
        obtain ⟨rfl, -⟩ := List.cons.inj ha
        exact absurd (by simp) hc
      | cons d a =>
        obtain ⟨rfl, -⟩ := List.cons.inj ha
        exact absurd (by simp) hx

end Places

/-! ### Whole entities -/

/-- That every ampersand begins an entity. -/
def EntitiesWhole (t : Text) : Prop := ∀ u v, t = u ++ '&' :: v → ∃ e : Entity, e.tail <+: v

theorem Entity.not_mem_tail (e : Entity) : '&' ∉ e.tail ∧ '<' ∉ e.tail := by
  cases e <;> decide

theorem IsEscaped.entitiesWhole {t : Text} (h : IsEscaped t) : EntitiesWhole t := by
  intro u v huv
  rcases IsEscaped.cut (huv ▸ h) with ⟨-, hv⟩ | hin
  · rcases hv.cases with h | ⟨c, s, hs, hc, -⟩ | ⟨e, s, hs, -⟩
    · cases h
    · obtain ⟨rfl, -⟩ := List.cons.inj hs
      exact absurd hc (by decide)
    · obtain ⟨-, rfl⟩ := List.cons.inj hs
      exact ⟨e, s, rfl⟩
  · obtain ⟨z, v', hv, hz⟩ := hin.right
    cases z with
    | nil => cases hv
    | cons c z =>
      obtain ⟨rfl, -⟩ := List.cons.inj hv
      exact absurd (hz '&' (by simp)) (by decide)

theorem entitiesWhole_of_not_mem {t : Text} (h : '&' ∉ t) : EntitiesWhole t := by
  rintro u v rfl
  exact absurd (by simp) h

theorem EntitiesWhole.append {s t : Text} (hs : EntitiesWhole s) (ht : EntitiesWhole t) :
    EntitiesWhole (s ++ t) := by
  intro u v h
  rcases List.append_eq_append_iff.1 h with ⟨a, rfl, ha⟩ | ⟨a, rfl, ha⟩
  · exact ht a v ha
  · cases a with
    | nil => exact ht [] v ha.symm
    | cons d a =>
      obtain ⟨rfl, rfl⟩ := List.cons.inj ha
      obtain ⟨e, he⟩ := hs u a rfl
      exact ⟨e, he.trans (List.prefix_append a t)⟩

theorem EntitiesWhole.of_append {s t : Text} (h : EntitiesWhole (s ++ t)) : EntitiesWhole t :=
  fun u v huv => h (s ++ u) v (by rw [huv, List.append_assoc])

/-- What begins a text with two parts begins the first part, or goes on in the second one. -/
theorem prefix_append_cases {s t u : Text} (h : s <+: t ++ u) :
    s <+: t ∨ ∃ a, s = t ++ a ∧ a <+: u := by
  rcases List.prefix_or_prefix_of_prefix h (List.prefix_append t u) with h' | ⟨a, rfl⟩
  · exact .inl h'
  · exact .inr ⟨a, rfl, (List.prefix_append_right_inj t).1 h⟩

/-- What has no `<` in it and begins a text with a `<` begins what stands before this. -/
theorem prefix_of_prefix_angle {s t u : Text} (h : s <+: t ++ '<' :: u) (hs : '<' ∉ s) : s <+: t := by
  rcases prefix_append_cases h with h | ⟨a, rfl, ha⟩
  · exact h
  · cases a with
    | nil => simp
    | cons c a =>
      obtain ⟨rfl, -⟩ := List.cons_prefix_cons.1 ha
      exact absurd (by simp) hs

/-- No entity goes on behind a `<`. -/
theorem EntitiesWhole.of_append_angle {s t : Text} (h : EntitiesWhole (s ++ '<' :: t)) :
    EntitiesWhole s := by
  rintro u v rfl
  obtain ⟨e, he⟩ := h u (v ++ '<' :: t) (by simp)
  exact ⟨e, prefix_of_prefix_angle he e.not_mem_tail.2⟩

/-- **Without angle brackets, whole entities make an escaped text.** -/
theorem EntitiesWhole.isEscaped {t : Text} (h : EntitiesWhole t)
    (ht : ∀ c ∈ t, c ≠ '<' ∧ c ≠ '>') : IsEscaped t := by
  induction hn : t.length using Nat.strongRecOn generalizing t with
  | _ n ih =>
    -- What stands behind a part of the text has whole entities as well.
    have hrest : ∀ s t', t = s ++ t' → t'.length < n → IsEscaped t' := fun s t' hs hlt =>
      ih t'.length hlt (fun u v huv => h (s ++ u) v (by rw [hs, huv, List.append_assoc]))
        (fun c hc => ht c (by simp [hs, hc])) rfl
    cases t with
    | nil => exact .nil
    | cons c t =>
      rw [List.length_cons] at hn
      by_cases hc : c = '&'
      · subst hc
        obtain ⟨e, t', rfl⟩ := h [] t rfl
        refine .entity e (hrest e.text t' rfl ?_)
        rw [List.length_append] at hn
        omega
      · refine .plain ?_ (hrest [c] t rfl (by omega))
        exact Entity.ofChar?_eq_none_iff.2 ⟨hc, ht c (by simp)⟩

/-! ### Main statement -/

/-- **The escaped texts are told by their characters**: no angle bracket, and every ampersand
begins an entity. -/
theorem isEscaped_iff {t : Text} : IsEscaped t ↔ '<' ∉ t ∧ '>' ∉ t ∧ EntitiesWhole t := by
  constructor
  · intro h
    exact ⟨fun hc => (h.ne_angle hc).1 rfl, fun hc => (h.ne_angle hc).2 rfl, h.entitiesWhole⟩
  · rintro ⟨hlt, hgt, hwhole⟩
    refine hwhole.isEscaped fun c hc => ⟨?_, ?_⟩
    · rintro rfl
      exact hlt hc
    · rintro rfl
      exact hgt hc

/-- What escaping makes again of a text that has been read back was escaped, and nothing else. -/
theorem escape_unescape_eq_self_iff {t : Text} : escape (unescape t) = t ↔ IsEscaped t := by
  constructor
  · intro h
    rw [← h]
    exact isEscaped_escape _
  · intro h
    obtain ⟨s, rfl⟩ := isEscaped_iff_exists_escape.1 h
    rw [unescape_escape]

/-- **Escaping and reading back are inverse to each other on the escaped texts, and on no others.**
Reading back undoes escaping; and escaping undoes reading back if and only if there was no angle
bracket and every ampersand began an entity. -/
theorem escape_unescape_inverse :
    (∀ t, unescape (escape t) = t) ∧
      ∀ s, escape (unescape s) = s ↔ '<' ∉ s ∧ '>' ∉ s ∧ EntitiesWhole s := by
  refine ⟨unescape_escape, fun s => ?_⟩
  rw [escape_unescape_eq_self_iff, isEscaped_iff]

/-- An ampersand that begins no entity stands for itself, and comes back as an entity. -/
example : escape (unescape "a &amp;lt; &b".toList) = "a &amp;lt; &amp;b".toList := by decide

end CodeMarkup.Markup
