import CodeMarkup.Proofs.Regex.Ways

/-!
# The best match, by trying

Which of the ways through an expression is the best one is told by the usual search:
try the first way, and where it fails go back and try the next one
(`CodeMarkup.Regex.Marked.search`). The search is handed what follows the expression,
as a function of the place, so it is a recursion on the expression, and a repetition
goes round until it fails or the text ends.

This is the search that a reader of a pattern has in mind, and **for a plain expression
the one-pass search with marks finds the same**
(`CodeMarkup.Regex.Marked.matchAt?_eq_search`). Plain means that there are no stations
and that every round of a repetition takes something
(`CodeMarkup.Regex.Marked.plain`); the expressions of the languages are of this kind.

Two things carry the proof. What a mark holds is what the search finds from there on
(`CodeMarkup.Regex.Marked.Right`). And a round that takes something ends at a later
place, so what follows it is asked for shorter texts only
(`CodeMarkup.Regex.Marked.search_congr`): this is why the one-pass search may try a
further round with nothing behind it.
-/

namespace CodeMarkup.Regex

/-- What follows an expression: the best run from each place on, if there is one. -/
abbrev Onward := Option Char → Text → Option Run

/-- To have arrived, at any place. -/
def Onward.arrive : Onward := fun _ _ => some .nil

/-- Another round or else `k`, or the other way round. -/
def Onward.again (greedy : Bool) (round k : Onward) : Onward := fun prev t =>
  if greedy then (round prev t).or (k prev t) else (k prev t).or (round prev t)

/-- At least one round and at most `n`, and then `k`. -/
def Onward.rounds (body : Onward → Onward) (greedy : Bool) (k : Onward) : Nat → Onward
  | 0 => fun _ _ => none
  | n + 1 => body (again greedy (rounds body greedy k n) k)

/-- A run with a text before it takes the text as well. -/
theorem Run.taken_foldr_push (u : Text) (r : Run) : (u.foldr Run.push r).taken = u ++ r.taken := by
  induction u with
  | nil => rfl
  | cons c u ih => rw [List.foldr_cons, Run.taken_push, ih, List.cons_append]

namespace Marked

/-! ### The search -/

/-- The best run through an expression, whatever its marks, and on with `k`. -/
def search : Marked → Onward → Onward
  | empty, k => k
  | look a, k => fun prev t => if a.holds ⟨prev, t.head?⟩ then k prev t else none
  | one s _, k => fun _ t =>
    match t with
    | [] => none
    | c :: t => if s.contains c then (k (some c) t).map (Run.push c) else none
  | cat a b, k => a.search (b.search k)
  | alt a b, k => fun prev t => (a.search k prev t).or (b.search k prev t)
  | group i a, k => fun prev t =>
    (a.search (fun prev t => (k prev t).map (Run.openGroup i)) prev t).map (Run.closeGroup i)
  | enter _ a, k => a.search k
  | join _ a, k => a.search k
  | plus greedy a, k => fun prev t => Onward.rounds a.search greedy k (t.length + 1) prev t

/-- Whether every way through the expression takes something. -/
def consumes : Marked → Bool
  | empty => false
  | look _ => false
  | one _ _ => true
  | cat a b => a.consumes || b.consumes
  | alt a b => a.consumes && b.consumes
  | group _ a => a.consumes
  | enter _ a => a.consumes
  | join _ a => a.consumes
  | plus _ a => a.consumes

/-- Whether there are no stations, and every round of a repetition takes something. -/
def plain : Marked → Bool
  | cat a b => a.plain && b.plain
  | alt a b => a.plain && b.plain
  | group _ a => a.plain
  | enter _ _ => false
  | join _ _ => false
  | plus _ a => a.plain && a.consumes
  | _ => true

/-- **What follows is asked behind the expression only**: at no longer text, and at a
shorter one if the expression takes something. -/
theorem search_congr (m : Marked) {k k' : Onward} {prev : Option Char} {t : Text}
    (h : ∀ prev u, u.length ≤ t.length → (m.consumes → u.length < t.length) →
      k prev u = k' prev u) : m.search k prev t = m.search k' prev t := by
  induction m generalizing k k' prev t with
  | empty => exact h prev t le_rfl (by simp [consumes])
  | look a => simp only [search, h prev t le_rfl (by simp [consumes])]
  | one s mark =>
    cases t with
    | nil => rfl
    | cons c t => simp only [search, h (some c) t (by simp) (by simp)]
  | cat a b iha ihb =>
    refine iha fun prev u hu hua => ihb fun prev v hv hvb => h prev v (hv.trans hu) fun hc => ?_
    rcases Bool.or_eq_true_iff.1 hc with hc | hc
    · exact lt_of_le_of_lt hv (hua hc)
    · exact lt_of_lt_of_le (hvb hc) hu
  | alt a b iha ihb =>
    have ha : a.search k prev t = a.search k' prev t := iha fun prev u hu hua =>
      h prev u hu fun hc => hua (Bool.and_eq_true_iff.1 hc).1
    have hb : b.search k prev t = b.search k' prev t := ihb fun prev u hu hub =>
      h prev u hu fun hc => hub (Bool.and_eq_true_iff.1 hc).2
    simp only [search, ha, hb]
  | group i a ih =>
    refine congrArg (Option.map _) (ih fun prev u hu hua => ?_)
    rw [h prev u hu hua]
  | enter l a ih => exact ih h
  | join l a ih => exact ih h
  | plus greedy a ih =>
    have hn : ∀ n prev t, (∀ prev u, u.length ≤ t.length → (a.consumes → u.length < t.length) →
        k prev u = k' prev u) →
          Onward.rounds a.search greedy k n prev t = Onward.rounds a.search greedy k' n prev t := by
      intro n
      induction n with
      | zero => exact fun _ _ _ => rfl
      | succ n ihn =>
        intro prev t h
        refine ih fun prev u hu hua => ?_
        have hround := ihn prev u fun prev v hv hva =>
          h prev v (hv.trans hu) fun hc => lt_of_lt_of_le (hva hc) hu
        simp only [Onward.again, hround, h prev u hu hua]
    exact hn _ prev t h

/-- If rounds take something, there cannot be more of them than characters. -/
theorem rounds_eq {a : Marked} (ha : a.consumes) (greedy : Bool) (k : Onward) {n n' : Nat}
    {prev : Option Char} {t : Text} (hn : t.length < n) (hn' : t.length < n') :
    Onward.rounds a.search greedy k n prev t = Onward.rounds a.search greedy k n' prev t := by
  induction n generalizing n' prev t with
  | zero => omega
  | succ n ih =>
    cases n' with
    | zero => omega
    | succ n' =>
      refine search_congr a fun prev u _ hu => ?_
      have hlt := hu ha
      have hround : Onward.rounds a.search greedy k n prev u =
          Onward.rounds a.search greedy k n' prev u := ih (by omega) (by omega)
      simp only [Onward.again, hround]

/-- **A repetition is a round, and then another round or the end.** -/
theorem search_plus {a : Marked} (ha : a.consumes) (greedy : Bool) (k : Onward)
    (prev : Option Char) (t : Text) :
    (plus greedy a).search k prev t =
      a.search (Onward.again greedy ((plus greedy a).search k) k) prev t := by
  refine search_congr a fun prev u _ hu => ?_
  have hround : Onward.rounds a.search greedy k t.length prev u =
      Onward.rounds a.search greedy k (u.length + 1) prev u :=
    rounds_eq ha greedy k (hu ha) (Nat.lt_succ_self _)
  simp only [Onward.again, search, hround]

/-- What an eager repetition of a set is as a marked expression. -/
def many (s : CharSet) : Marked := alt (plus true (one s none)) empty

/-- **An eager repetition of a set takes all it can**, if what follows it takes what is left. -/
theorem search_many (s : CharSet) {k : Onward} {f : Text → Run}
    (hk : ∀ prev t, k prev t = some (f t)) (prev : Option Char) (t : Text) :
    (many s).search k prev t =
      some ((t.takeWhile s.contains).foldr Run.push (f (t.dropWhile s.contains))) := by
  induction t generalizing prev with
  | nil =>
    have hround : (plus true (one s none)).search k prev [] = none := rfl
    change ((plus true (one s none)).search k prev []).or (k prev []) = _
    rw [hround, hk]
    rfl
  | cons c t ih =>
    change ((plus true (one s none)).search k prev (c :: t)).or (k prev (c :: t)) = _
    rw [search_plus rfl, search]
    by_cases hc : s.contains c
    · -- A round, and then the repetition again.
      have hagain : Onward.again true ((plus true (one s none)).search k) k (some c) t =
          some ((t.takeWhile s.contains).foldr Run.push (f (t.dropWhile s.contains))) := ih (some c)
      simp [hc, hagain]
    · simp [hc, hk]

/-- Behind all the characters of a set stands none of them. -/
theorem not_of_eq_takeWhile {p : Char → Bool} {u v : Text} {c : Char}
    (h : u = (u ++ c :: v).takeWhile p) : p c = false := by
  have hall : ∀ d ∈ u, p d = true := by
    intro d hd
    rw [h] at hd
    exact List.all_eq_true.1 List.all_takeWhile d hd
  rw [List.takeWhile_append_of_pos hall] at h
  cases hc : p c with
  | false => rfl
  | true => simp [hc] at h

/-! ### Marks do not matter to the search -/

@[simp] theorem search_remark (p : Place) (m : Marked) (rest : Attempt) :
    (m.remark p rest).search = m.search := by
  induction m generalizing rest with
  | empty | look | one => rfl
  | cat a b iha ihb => funext k; simp only [remark, search, iha, ihb]
  | alt a b iha ihb => funext k; simp only [remark, search, iha, ihb]
  | group i a ih => funext k; simp only [remark, search, ih]
  | enter l a ih => funext k; simp only [remark, search, ih]
  | join l a ih => funext k; simp only [remark, search, ih]
  | plus greedy a ih => funext k; simp only [remark, search, ih]

@[simp] theorem consumes_remark (p : Place) (m : Marked) (rest : Attempt) :
    (m.remark p rest).consumes = m.consumes := by
  induction m generalizing rest with
  | empty | look | one => rfl
  | cat a b iha ihb => simp [remark, consumes, iha, ihb]
  | alt a b iha ihb => simp [remark, consumes, iha, ihb]
  | group i a ih => simp [remark, consumes, ih]
  | enter l a ih => simp [remark, consumes, ih]
  | join l a ih => simp [remark, consumes, ih]
  | plus greedy a ih => simp [remark, consumes, ih]

@[simp] theorem plain_remark (p : Place) (m : Marked) (rest : Attempt) :
    (m.remark p rest).plain = m.plain := by
  induction m generalizing rest with
  | empty | look | one | enter | join => rfl
  | cat a b iha ihb => simp [remark, plain, iha, ihb]
  | alt a b iha ihb => simp [remark, plain, iha, ihb]
  | group i a ih => simp [remark, plain, ih]
  | plus greedy a ih => simp [remark, plain, ih]

/-! ### The invariant of the marks -/

/-- That each mark is what the search finds from the place behind its set on, where `k`
follows the expression. -/
def Right (k : Onward) (prev : Option Char) (t : Text) : Marked → Prop
  | one _ mark => mark = k prev t
  | cat a b => a.Right (b.search k) prev t ∧ b.Right k prev t
  | alt a b => a.Right k prev t ∧ b.Right k prev t
  | group i a => a.Right (fun prev t => (k prev t).map (Run.openGroup i)) prev t
  | enter _ a => a.Right k prev t
  | join _ a => a.Right k prev t
  | plus greedy a => a.Right (Onward.again greedy ((plus greedy a).search k) k) prev t
  | _ => True

theorem Right.congr {m : Marked} {k k' : Onward} {prev : Option Char} {t : Text}
    (hm : m.Right k prev t) (h : ∀ prev u, u.length ≤ t.length → k prev u = k' prev u) :
    m.Right k' prev t := by
  induction m generalizing k k' with
  | empty | look => trivial
  | one s mark => exact hm.trans (h prev t le_rfl)
  | cat a b iha ihb =>
    exact ⟨iha hm.1 fun prev u hu => search_congr b fun prev v hv _ => h prev v (hv.trans hu),
      ihb hm.2 h⟩
  | alt a b iha ihb => exact ⟨iha hm.1 h, ihb hm.2 h⟩
  | group i a ih =>
    refine ih (k := fun prev t => (k prev t).map (Run.openGroup i)) hm fun prev u hu => ?_
    rw [h prev u hu]
  | enter l a ih => exact ih hm h
  | join l a ih => exact ih hm h
  | plus greedy a ih =>
    refine ih (k := Onward.again greedy ((plus greedy a).search k) k) hm fun prev u hu => ?_
    have hp : (plus greedy a).search k prev u = (plus greedy a).search k' prev u :=
      search_congr (plus greedy a) fun prev v hv _ => h prev v (hv.trans hu)
    simp only [Onward.again, hp, h prev u hu]

variable {k : Onward} {prev : Option Char} {t : Text} {rest : Attempt}

theorem run?_or {first second : Attempt} {x y : Option Run}
    (hx : ∀ passed, (first passed).run? = x) (hy : ∀ passed, (second passed).run? = y)
    (passed : List Nat) : ((first.or second) passed).run? = x.or y := by
  rw [← hx passed, Attempt.or]
  cases first passed with
  | found r => rfl
  | failed passed' => simpa using hy passed'

theorem run?_again (greedy : Bool) {round : Attempt} {kround : Onward}
    (hround : ∀ passed, (round passed).run? = kround prev t)
    (hrest : ∀ passed, (rest passed).run? = k prev t) (passed : List Nat) :
    (again greedy round rest passed).run? = Onward.again greedy kround k prev t := by
  unfold again Onward.again
  split
  · exact run?_or hround hrest passed
  · exact run?_or hrest hround passed

/-- Another round with nothing behind it finds what the repetition finds: what follows the
round is asked at later places only, where the marks tell it. -/
theorem run?_round {a : Marked} {greedy : Bool} (ha : a.consumes)
    (hm : ∀ c t', t = c :: t' →
      a.Right (Onward.again greedy ((plus greedy a).search k) k) (some c) t')
    (hbest : ∀ k' : Onward, (∀ c t', t = c :: t' → a.Right k' (some c) t') → k' prev t = none →
      ∀ passed, (a.best ⟨prev, t.head?⟩ .fail passed).run? = a.search k' prev t)
    (passed : List Nat) :
    (a.best ⟨prev, t.head?⟩ .fail passed).run? = (plus greedy a).search k prev t := by
  -- At this place nothing follows, and at the later ones what always does.
  let later : Onward := fun prev u =>
    if u.length < t.length then Onward.again greedy ((plus greedy a).search k) k prev u else none
  rw [search_plus ha]
  refine (hbest later (fun c t' h => ?_) (if_neg (lt_irrefl _)) passed).trans
    (search_congr a fun prev u _ hu => if_pos (hu ha))
  refine (hm c t' h).congr fun prev u hu => (if_pos ?_).symm
  rw [h, List.length_cons]
  omega

/-- **Trying the ways at one place** finds what the search finds, if the marks for the
place behind the next character are right. -/
theorem run?_best (m : Marked) (hp : m.plain)
    (hm : ∀ c t', t = c :: t' → m.Right k (some c) t')
    (hrest : ∀ passed, (rest passed).run? = k prev t) (passed : List Nat) :
    (m.best ⟨prev, t.head?⟩ rest passed).run? = m.search k prev t := by
  induction m generalizing k rest passed with
  | empty => exact hrest passed
  | look a =>
    simp only [best, search]
    split
    · exact hrest passed
    · rfl
  | one s mark =>
    cases t with
    | nil => rfl
    | cons c t =>
      obtain rfl : mark = k (some c) t := hm c t rfl
      simp only [best, search, List.head?_cons]
      cases k (some c) t with
      | none => simp [Attempt.fail]
      | some r =>
        simp only [Option.map_some]
        split
        · rfl
        · rfl
  | cat a b iha ihb =>
    obtain ⟨hpa, hpb⟩ := Bool.and_eq_true_iff.1 hp
    exact iha hpa (fun c t' h => (hm c t' h).1)
      (ihb hpb (fun c t' h => (hm c t' h).2) hrest) passed
  | alt a b iha ihb =>
    obtain ⟨hpa, hpb⟩ := Bool.and_eq_true_iff.1 hp
    exact run?_or (iha hpa (fun c t' h => (hm c t' h).1) hrest)
      (ihb hpb (fun c t' h => (hm c t' h).2) hrest) passed
  | group i a ih =>
    have hend : ∀ passed, (rest.map (Run.openGroup i) passed).run? =
        (k prev t).map (Run.openGroup i) := fun passed => by
      rw [Attempt.map, Outcome.run?_map, hrest]
    have h := ih (k := fun prev t => (k prev t).map (Run.openGroup i)) hp hm hend passed
    simp only [best, search, Attempt.map, Outcome.run?_map]
    exact congrArg (Option.map _) h
  | enter | join => cases hp
  | plus greedy a ih =>
    obtain ⟨hpa, hca⟩ := Bool.and_eq_true_iff.1 hp
    have hround := run?_round hca hm fun K' hm' hK' => ih (k := K') hpa hm' fun _ => hK'.symm
    rw [search_plus hca]
    exact ih hpa hm (run?_again greedy hround hrest) passed

/-- **Marking a place keeps the invariant**, one place to the left. -/
theorem right_remark (m : Marked) (hp : m.plain)
    (hm : ∀ c t', t = c :: t' → m.Right k (some c) t')
    (hrest : ∀ passed, (rest passed).run? = k prev t) :
    (m.remark ⟨prev, t.head?⟩ rest).Right k prev t := by
  induction m generalizing k rest with
  | empty | look => trivial
  | one s mark => exact hrest []
  | cat a b iha ihb =>
    obtain ⟨hpa, hpb⟩ := Bool.and_eq_true_iff.1 hp
    have hb : ∀ c t', t = c :: t' → b.Right k (some c) t' := fun c t' h => (hm c t' h).2
    refine ⟨?_, ihb hpb hb hrest⟩
    rw [search_remark]
    exact iha hpa (fun c t' h => (hm c t' h).1) (run?_best b hpb hb hrest)
  | alt a b iha ihb =>
    obtain ⟨hpa, hpb⟩ := Bool.and_eq_true_iff.1 hp
    exact ⟨iha hpa (fun c t' h => (hm c t' h).1) hrest,
      ihb hpb (fun c t' h => (hm c t' h).2) hrest⟩
  | group i a ih =>
    refine ih (k := fun prev t => (k prev t).map (Run.openGroup i)) hp hm fun passed => ?_
    rw [Attempt.map, Outcome.run?_map, hrest]
  | enter | join => cases hp
  | plus greedy a ih =>
    obtain ⟨hpa, hca⟩ := Bool.and_eq_true_iff.1 hp
    have hround : ∀ passed, (a.best ⟨prev, t.head?⟩ .fail passed).run? =
        (plus greedy a).search k prev t :=
      run?_round hca hm fun k' hm' hk' => run?_best a hpa hm' fun _ => hk'.symm
    simp only [remark, Right, search_remark, search]
    refine (ih hpa hm (run?_again greedy hround hrest)).congr fun prev u hu => ?_
    simp only [Onward.again, search]

/-! ### Passing over a text -/

theorem right_sweep {m : Marked} (hp : m.plain) (prev : Option Char) (t : Text) :
    (m.sweep prev t).2.Right .arrive prev t ∧ (m.sweep prev t).2.search = m.search ∧
      (m.sweep prev t).2.plain := by
  induction t generalizing prev with
  | nil =>
    exact ⟨right_remark m hp (fun _ _ h => by cases h) fun _ => rfl, search_remark .., by
      simpa [sweep] using hp⟩
  | cons c t ih =>
    obtain ⟨hr, hs, hp'⟩ := ih (some c)
    refine ⟨right_remark (t := c :: t) _ hp' ?_ fun _ => rfl, (search_remark ..).trans hs, ?_⟩
    · rintro _ _ ⟨⟩
      exact hr
    · simpa [sweep] using hp'

/-- **The one-pass search finds the best match.** -/
theorem matchAt?_eq_search {m : Marked} (hp : m.plain) (prev : Option Char) (c : Char) (t : Text) :
    m.matchAt? prev (c :: t) = m.search .arrive prev (c :: t) := by
  obtain ⟨hr, hs, hp'⟩ := right_sweep hp (some c) t
  rw [← hs]
  refine run?_best (t := c :: t) (m.sweep (some c) t).2 hp' ?_ (fun _ => rfl) []
  rintro _ _ ⟨⟩
  exact hr

end Marked

end CodeMarkup.Regex
