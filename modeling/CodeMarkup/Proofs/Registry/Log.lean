import CodeMarkup.Proofs.ByteOrder
import CodeMarkup.Proofs.Registry
import CodeMarkup.Proofs.Rows
import Mathlib.Data.List.DropRight
import Mathlib.Data.List.Induction

/-!
# A registry is a log in which the last word counts

A registry is told one operation after the other (`CodeMarkup.Registry.Operation`): a rule
set is registered, or an alias is added. All that it knows can be read off the log of
these operations (`CodeMarkup.Registry.refines_log`):

* the rule sets are in the order in which they were registered, and stay where they are;
* an identifier has the slot that the last operation of the log binds it to
  (`CodeMarkup.Registry.LastBinds`), where registering binds to the new slot, and an alias
  to the slot that its target has at that moment;
* an alias of something that nothing is bound to fails and changes nothing;
* the list of the identifiers ascends byte by byte.

Only normal forms of identifiers are ever compared, and the normal form of a normal form
is itself (`CodeMarkup.Registry.normalize_normalize`).

The step is one lemma, what an operation does to the slot of an identifier
(`CodeMarkup.Registry.slot?_perform`); the rest is induction on the log from its end.
-/

namespace CodeMarkup

/-! ### Normal forms -/

namespace Unicode

theorem toLower_ascii : ∀ n < 128, (Char.ofNat n).toLower.toLower = (Char.ofNat n).toLower ∧
    isWhiteSpace (Char.ofNat n).toLower = isWhiteSpace (Char.ofNat n) := by
  decide

/-- A letter in lower case stays as it is, and is white space if it was before. -/
theorem toLower_toLower_and_isWhiteSpace (c : Char) :
    c.toLower.toLower = c.toLower ∧ isWhiteSpace c.toLower = isWhiteSpace c := by
  by_cases hc : c.toNat < 128
  · simpa using toLower_ascii c.toNat hc
  · have hsame : c.toLower = c := by
      refine dif_neg ?_
      rintro ⟨-, hle⟩
      have : c.toNat ≤ 90 := hle
      omega
    rw [hsame, hsame]
    exact ⟨rfl, rfl⟩

theorem trim_eq_rdropWhile (t : Text) :
    trim t = List.rdropWhile isWhiteSpace (t.dropWhile isWhiteSpace) := rfl

theorem trim_trim (t : Text) : trim (trim t) = trim t := by
  have hfront : (trim t).dropWhile isWhiteSpace = trim t := by
    refine List.dropWhile_eq_self_iff.2 fun hl => ?_
    have hbegins : trim t <+: t.dropWhile isWhiteSpace := List.rdropWhile_prefix _ _
    rw [hbegins.getElem hl]
    exact List.dropWhile_eq_self_iff.1 (List.dropWhile_idempotent isWhiteSpace t) _
  rw [trim_eq_rdropWhile (trim t), hfront, trim_eq_rdropWhile, List.rdropWhile_idempotent]

theorem trim_map {f : Char → Char} (hf : ∀ c, isWhiteSpace (f c) = isWhiteSpace c) (t : Text) :
    trim (t.map f) = (trim t).map f := by
  have hcomp : isWhiteSpace ∘ f = isWhiteSpace := funext hf
  simp only [trim, List.dropWhile_map, ← List.map_reverse, hcomp]

end Unicode

namespace Registry

/-- **A normal form is its own normal form.** -/
theorem normalize_normalize (id : String) : normalize (normalize id) = normalize id := by
  have hlower : Char.toLower ∘ Char.toLower = Char.toLower :=
    funext fun c => (Unicode.toLower_toLower_and_isWhiteSpace c).1
  rw [normalize, normalize, String.toList_ofList,
    Unicode.trim_map (fun c => (Unicode.toLower_toLower_and_isWhiteSpace c).2), Unicode.trim_trim,
    List.map_map, hlower]

/-! ### Bindings -/

variable {r : Registry}

theorem lookup_filter_ne {α : Type} (entries : List (String × α)) {id key : String} (h : key ≠ id) :
    (entries.filter (·.1 ≠ id)).lookup key = entries.lookup key := by
  induction entries with
  | nil => rfl
  | cons e entries ih =>
    obtain ⟨name, a⟩ := e
    by_cases hname : name = id
    · have hkey : (key == name) = false := by simpa [hname] using h
      rw [List.filter_cons_of_neg (by simpa using hname), List.lookup_cons, hkey, ih]
    · rw [List.filter_cons_of_pos (by simpa using hname), List.lookup_cons, List.lookup_cons, ih]

/-- A binding is found under all spellings of its identifier, and touches no other. -/
theorem slot?_bind (id : String) (slot : Nat) (r : Registry) (key : String) :
    (r.bind (normalize id) slot).slot? key =
      if normalize id = normalize key then some slot else r.slot? key := by
  unfold slot? bind
  split
  · next h => simp [h]
  · next h =>
    have hkey : (normalize key == normalize id) = false := by simpa using fun he => h he.symm
    rw [List.lookup_cons, hkey]
    exact lookup_filter_ne _ fun he => h he.symm

/-- Registering binds all of its identifiers to the new slot, in whatever spelling and however
often they are named, and touches no other. -/
theorem slot?_register (set : RuleSet) (ids : List String) (r : Registry) (key : String) :
    (r.register set ids).slot? key =
      if ∃ id ∈ ids, normalize id = normalize key then some r.ruleSets.length else r.slot? key := by
  have hfold : ∀ (slot : Nat) (r' : Registry),
      (ids.foldl (fun r' id => r'.bind (normalize id) slot) r').slot? key =
        if ∃ id ∈ ids, normalize id = normalize key then some slot else r'.slot? key := by
    intro slot
    induction ids with
    | nil => simp
    | cons id ids ih =>
      intro r'
      rw [List.foldl_cons, ih, slot?_bind]
      by_cases h : normalize id = normalize key <;> simp [h]
  exact hfold r.ruleSets.length _

/-- That the identifiers of the bindings are normal forms, each of them bound once. -/
structure Tidy (r : Registry) : Prop where
  /-- An identifier is bound once. -/
  nodup : (r.bindings.map (·.1)).Nodup
  /-- An identifier is a normal form. -/
  normal : ∀ b ∈ r.bindings, normalize b.1 = b.1

theorem Tidy.bind (h : r.Tidy) (id : String) (slot : Nat) : (r.bind (normalize id) slot).Tidy where
  nodup := by
    refine List.nodup_cons.2 ⟨fun hmem => ?_, ?_⟩
    · obtain ⟨b, hb, heq⟩ := List.mem_map.1 hmem
      have hne := (List.mem_filter.1 hb).2
      simp [heq] at hne
    · exact h.nodup.sublist (List.filter_sublist.map _)
  normal := by
    intro b hb
    rcases List.mem_cons.1 hb with rfl | hb
    · exact normalize_normalize id
    · exact h.normal b (List.mem_filter.1 hb).1

theorem Tidy.register (h : r.Tidy) (set : RuleSet) (ids : List String) :
    (r.register set ids).Tidy := by
  have hfold : ∀ (slot : Nat) (r' : Registry), r'.Tidy →
      (ids.foldl (fun r' id => r'.bind (normalize id) slot) r').Tidy := by
    intro slot
    induction ids with
    | nil => exact fun _ h => h
    | cons id ids ih => exact fun r' h => ih _ (h.bind id slot)
  exact hfold r.ruleSets.length _ ⟨h.nodup, h.normal⟩

/-- What has a slot is what the list of the identifiers has. -/
theorem Tidy.mem_identifiers (h : r.Tidy) {id : String} :
    id ∈ r.identifiers ↔ ∃ key slot, normalize key = id ∧ r.slot? key = some slot := by
  rw [identifiers, List.mem_mergeSort]
  constructor
  · intro hid
    obtain ⟨b, hb, rfl⟩ := List.mem_map.1 hid
    have hfound : (r.bindings.lookup b.1).isSome := by
      rw [List.lookup_eq_findSome?, List.findSome?_isSome_iff]
      exact ⟨b, hb, by simp⟩
    obtain ⟨slot, hslot⟩ := Option.isSome_iff_exists.1 hfound
    refine ⟨b.1, slot, h.normal b hb, ?_⟩
    rw [slot?, h.normal b hb, hslot]
  · rintro ⟨key, slot, rfl, hslot⟩
    obtain ⟨before, behind, heq, -⟩ := List.lookup_eq_some_iff.1 hslot
    exact List.mem_map.2 ⟨(normalize key, slot), by simp [heq], rfl⟩

/-- **The list of the identifiers ascends**, byte by byte. -/
theorem Tidy.identifiers_ascend (h : r.Tidy) :
    r.identifiers.Pairwise fun a b => bytes a < bytes b := by
  have hsorted : r.identifiers.Pairwise fun a b => decide (a ≤ b) = true := by
    refine List.pairwise_mergeSort (fun a b c hab hbc => ?_) (fun a b => ?_) _
    · exact decide_eq_true (String.le_trans (of_decide_eq_true hab) (of_decide_eq_true hbc))
    · simpa using String.le_total a b
  have hnodup : r.identifiers.Nodup := (List.mergeSort_perm _ _).nodup_iff.2 h.nodup
  refine (hsorted.and hnodup).imp fun {a b} hab => bytes_lt_bytes ?_
  exact Std.lt_of_le_of_ne (of_decide_eq_true hab.1) hab.2

/-! ### Operations and logs -/

/-- What a registry may be told. -/
inductive Operation where
  /-- A rule set gets a slot, and identifiers are bound to it. -/
  | register (set : RuleSet) (ids : List String)
  /-- An identifier is bound to the slot of another one. -/
  | addAlias (id target : String)

/-- What comes of an operation, and the registry after it. An alias that fails changes nothing. -/
def perform (r : Registry) : Operation → Except Error Unit × Registry
  | .register set ids => (.ok (), r.register set ids)
  | .addAlias id target =>
    match r.addAlias id target with
    | .ok r' => (.ok (), r')
    | .error e => (.error e, r)

/-- The registry after the operations of a log. -/
def run (r : Registry) (log : List Operation) : Registry :=
  log.foldl (fun r op => (r.perform op).2) r

/-- The rule sets that a log registers, in order. -/
def registered (log : List Operation) : List RuleSet :=
  log.filterMap fun
    | .register set _ => some set
    | .addAlias _ _ => none

/-- The slot that an operation behind a log binds an identifier to: the new one if the identifier
is registered, in whatever spelling, and the one that the target has just before if the
identifier is an alias. An operation that fails binds nothing. -/
def Operation.slotFor? (before : List Operation) (id : String) : Operation → Option Nat
  | .register _ ids =>
    if ∃ id' ∈ ids, normalize id' = normalize id then some (registered before).length else none
  | .addAlias id' target =>
    if normalize id' = normalize id then (empty.run before).slot? target else none

/-- That of the operations of a log that bind an identifier the last one binds it to a slot. -/
def LastBinds (log : List Operation) (id : String) (slot : Nat) : Prop :=
  ∃ before op behind, log = before ++ op :: behind ∧ op.slotFor? before id = some slot ∧
    ∀ between op' rest, behind = between ++ op' :: rest →
      op'.slotFor? (before ++ op :: between) id = none

theorem run_append (r : Registry) (log more : List Operation) :
    r.run (log ++ more) = (r.run log).run more := List.foldl_append

theorem run_append_singleton (r : Registry) (log : List Operation) (op : Operation) :
    r.run (log ++ [op]) = ((r.run log).perform op).2 := run_append r log [op]

theorem registered_append (log more : List Operation) :
    registered (log ++ more) = registered log ++ registered more := List.filterMap_append

/-- An alias of something without a slot fails, and no other alias does. -/
theorem perform_addAlias (r : Registry) (id target : String) :
    r.perform (.addAlias id target) =
      match r.slot? target with
      | some slot => (.ok (), r.bind (normalize id) slot)
      | none => (.error (.unknownLanguage target), r) := by
  simp only [perform, Registry.addAlias]
  cases r.slot? target <;> rfl

/-! ### Steps -/

theorem ruleSets_perform (r : Registry) (op : Operation) :
    (r.perform op).2.ruleSets = r.ruleSets ++ registered [op] := by
  cases op with
  | register set ids => exact ruleSets_register set ids r
  | addAlias id target =>
    rw [perform_addAlias]
    cases r.slot? target with
    | none => exact (List.append_nil _).symm
    | some slot => exact (List.append_nil _).symm

theorem Tidy.perform (h : r.Tidy) (op : Operation) : (r.perform op).2.Tidy := by
  cases op with
  | register set ids => exact h.register set ids
  | addAlias id target =>
    rw [perform_addAlias]
    cases r.slot? target with
    | none => exact h
    | some slot => exact h.bind id slot

/-- **The rule sets are those that were registered**, in order. -/
theorem ruleSets_run (r : Registry) (log : List Operation) :
    (r.run log).ruleSets = r.ruleSets ++ registered log := by
  induction log using List.reverseRecOn with
  | nil => exact (List.append_nil _).symm
  | append_singleton log op ih =>
    rw [run_append_singleton, ruleSets_perform, ih, registered_append, List.append_assoc]

theorem tidy_run (log : List Operation) : (empty.run log).Tidy := by
  induction log using List.reverseRecOn with
  | nil => exact ⟨List.nodup_nil, fun _ hb => absurd hb List.not_mem_nil⟩
  | append_singleton log op ih =>
    rw [run_append_singleton]
    exact ih.perform op

/-- **What an operation does to the slot of an identifier**: it binds the identifier, or leaves it
where it is. -/
theorem slot?_perform (log : List Operation) (op : Operation) (id : String) :
    (empty.run (log ++ [op])).slot? id =
      (op.slotFor? log id).or ((empty.run log).slot? id) := by
  rw [run_append_singleton]
  cases op with
  | register set ids =>
    have hslots : (empty.run log).ruleSets = registered log := ruleSets_run empty log
    rw [perform, slot?_register, hslots, Operation.slotFor?]
    split <;> rfl
  | addAlias id' target =>
    rw [perform_addAlias, Operation.slotFor?]
    cases (empty.run log).slot? target with
    | none => simp
    | some slot =>
      simp only [slot?_bind]
      split <;> rfl

theorem not_lastBinds_nil (id : String) (slot : Nat) : ¬LastBinds [] id slot := by
  rintro ⟨before, op, behind, hlog, -⟩
  exact absurd hlog.symm (by simp)

/-- **The last word counts**: the last operation decides, or the log before it does. -/
theorem lastBinds_append_singleton {log : List Operation} {op : Operation} {id : String}
    {slot : Nat} :
    LastBinds (log ++ [op]) id slot ↔
      op.slotFor? log id = some slot ∨ op.slotFor? log id = none ∧ LastBinds log id slot := by
  constructor
  · rintro ⟨before, op₁, behind, hlog, hbinds, hlater⟩
    rcases concat_eq_append_cons_iff.1 hlog with ⟨rfl, rfl, rfl⟩ | ⟨between, rfl, rfl⟩
    · exact .inl hbinds
    · refine .inr ⟨hlater between op [] rfl, before, op₁, between, rfl, hbinds, ?_⟩
      rintro between' op' rest rfl
      exact hlater between' op' (rest ++ [op]) (by simp)
  · rintro (hbinds | ⟨hnone, before, op₁, behind, rfl, hbinds, hlater⟩)
    · exact ⟨log, op, [], rfl, hbinds, fun between op' rest h => absurd h (by simp)⟩
    · refine ⟨before, op₁, behind ++ [op], by simp, hbinds, fun between op' rest h => ?_⟩
      rcases concat_eq_append_cons_iff.1 h with ⟨rfl, rfl, rfl⟩ | ⟨rest, rfl, rfl⟩
      · exact hnone
      · exact hlater between op' rest rfl

/-- **An identifier has the slot that the log binds it to last.** -/
theorem slot?_run {log : List Operation} {id : String} {slot : Nat} :
    (empty.run log).slot? id = some slot ↔ LastBinds log id slot := by
  induction log using List.reverseRecOn with
  | nil => exact iff_of_false nofun (not_lastBinds_nil id slot)
  | append_singleton log op ih =>
    rw [slot?_perform, Option.or_eq_some_iff, lastBinds_append_singleton, ih]

/-- **What is bound is bound to a rule set.** -/
theorem LastBinds.lt_length {log : List Operation} {id : String} {slot : Nat}
    (h : LastBinds log id slot) : slot < (registered log).length := by
  induction log using List.reverseRecOn generalizing id with
  | nil => exact absurd h (not_lastBinds_nil id slot)
  | append_singleton log op ih =>
    rw [registered_append, List.length_append]
    rcases lastBinds_append_singleton.1 h with hbinds | ⟨-, h⟩
    · cases op with
      | register set ids =>
        rw [Operation.slotFor?] at hbinds
        split at hbinds
        · cases hbinds
          exact Nat.lt_succ_self _
        · cases hbinds
      | addAlias id' target =>
        rw [Operation.slotFor?] at hbinds
        split at hbinds
        · exact Nat.lt_add_right _ (ih (slot?_run.1 hbinds))
        · cases hbinds
    · exact Nat.lt_add_right _ (ih h)

/-- An identifier with a slot has a rule set, since slots are never given up. -/
theorem exists_resolve?_run {log : List Operation} {id : String} {slot : Nat}
    (h : (empty.run log).slot? id = some slot) :
    ∃ set, (empty.run log).resolve? id = some (slot, set) := by
  have hlt : slot < (empty.run log).ruleSets.length := by
    rw [ruleSets_run]
    exact (slot?_run.1 h).lt_length
  exact ⟨_, resolve?_eq_some_iff.2 ⟨h, List.getElem?_eq_getElem hlt⟩⟩

/-! ### Main statement -/

/-- That a registry is what its log says. -/
structure Refines (r : Registry) (log : List Operation) : Prop where
  /-- The rule set that is registered as number `k` has slot `k`, whatever comes later. -/
  ruleSets_stay : ∀ more, (r.run more).ruleSets = registered log ++ registered more
  /-- An identifier resolves to the slot that the log binds it to last, and to the rule set that
  was registered there. -/
  resolve_iff : ∀ id slot set, r.resolve? id = some (slot, set) ↔
    LastBinds log id slot ∧ (registered log)[slot]? = some set
  /-- An identifier does not resolve only if the log does not bind it. -/
  unresolved_iff : ∀ id, r.resolve? id = none ↔ ∀ slot, ¬LastBinds log id slot
  /-- An alias fails if and only if the log does not bind its target; then the error tells the
  target as it was given, and the registry is the same. -/
  addAlias_fails_iff : ∀ id target e r', r.perform (.addAlias id target) = (.error e, r') ↔
    e = .unknownLanguage target ∧ r' = r ∧ ∀ slot, ¬LastBinds log target slot
  /-- The list of the identifiers ascends byte by byte. -/
  identifiers_ascend : r.identifiers.Pairwise fun a b => bytes a < bytes b
  /-- The list of the identifiers has the normal forms of what the log binds, and no more. -/
  mem_identifiers_iff : ∀ id, id ∈ r.identifiers ↔
    ∃ id' slot, normalize id' = id ∧ LastBinds log id' slot

theorem refines_run (log : List Operation) : Refines (empty.run log) log := by
  have hsets : (empty.run log).ruleSets = registered log := ruleSets_run empty log
  have hnone : ∀ id, (empty.run log).slot? id = none ↔ ∀ slot, ¬LastBinds log id slot := by
    intro id
    rw [Option.eq_none_iff_forall_ne_some]
    exact forall_congr' fun slot => not_congr slot?_run
  constructor
  case ruleSets_stay =>
    intro more
    rw [ruleSets_run, hsets]
  case resolve_iff =>
    intro id slot set
    rw [resolve?_eq_some_iff, slot?_run, hsets]
  case unresolved_iff =>
    intro id
    rw [← hnone]
    cases hslot : (empty.run log).slot? id with
    | none => simp [resolve?, hslot]
    | some slot =>
      obtain ⟨set, hset⟩ := exists_resolve?_run hslot
      simp [hset]
  case addAlias_fails_iff =>
    intro id target e r'
    rw [← hnone, perform_addAlias]
    cases (empty.run log).slot? target with
    | none => simp [eq_comm]
    | some slot => simp
  case identifiers_ascend => exact (tidy_run log).identifiers_ascend
  case mem_identifiers_iff =>
    intro id
    rw [(tidy_run log).mem_identifiers]
    simp only [slot?_run]

/-- The log of the registry with the languages for scripts, documents and styles. -/
def builtinLog : List Operation := [
  .register Language.script ["js", "javascript", "jsx", "mjs", "cjs", "ts", "tsx", "typescript"],
  .register Language.document ["html", "htm", "xhtml", "xml", "svg"],
  .register Language.style ["css", "scss", "less"]]

theorem run_builtinLog : empty.run builtinLog = builtin := rfl

/-- **A registry is what its log says**, whether it begins without languages or with those that
need no configuration, which it has registered before all others. -/
theorem refines_log (log : List Operation) :
    Refines (empty.run log) log ∧ Refines (builtin.run log) (builtinLog ++ log) := by
  refine ⟨refines_run log, ?_⟩
  rw [← run_builtinLog, ← run_append]
  exact refines_run (builtinLog ++ log)

end Registry

end CodeMarkup
