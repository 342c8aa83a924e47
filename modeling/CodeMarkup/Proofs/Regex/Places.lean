import CodeMarkup.Proofs.Regex.Cuts

/-!
# The places of matches and groups

A match is given with the text that has been searched and its place there
(`CodeMarkup.Regex.Match`). **What is said of places is true of the text**: where a match is
found (`CodeMarkup.Regex.Finds`) the text has what the match takes
(`CodeMarkup.Regex.Finds.exists_append`), and at the place of a group it has what the group
takes, inside of the match (`CodeMarkup.Regex.Finds.groupAt?_eq_some`).

The place of a group is told from behind, by what has been taken before its end was met, since
runs are put together from their ends. So the invariant speaks of what is taken behind the groups
(`CodeMarkup.Regex.Run.Placed`): a pending group begins what is taken, and a group that is
complete stands somewhere in it. Each step of a way keeps this
(`CodeMarkup.Regex.Run.Placed.before`), whatever the expression is.
-/

namespace CodeMarkup.Regex

/-! ### Groups in a run -/

/-- That the groups of a run stand in what it takes. -/
structure Run.Placed (r : Run) : Prop where
  /-- What is taken begins with a group whose start has not been met. -/
  pending : ∀ g ∈ r.pending, r.taken = g.text ++ g.behind
  /-- A group that is complete stands in what is taken. -/
  groups : ∀ g ∈ r.groups, g.text ++ g.behind <:+ r.taken

theorem Run.placed_nil : Run.nil.Placed := ⟨by simp [Run.nil], by simp [Run.nil]⟩

namespace Run.Placed

variable {r : Run}

theorem push (h : r.Placed) (c : Char) : (r.push c).Placed where
  pending := by
    intro g hg
    obtain ⟨g', hg', rfl⟩ := List.mem_map.1 hg
    exact congrArg (c :: ·) (h.pending g' hg')
  groups g hg := (h.groups g hg).trans (List.suffix_cons c r.taken)

theorem openGroup (h : r.Placed) (i : Nat) : (r.openGroup i).Placed := by
  unfold Run.openGroup
  split
  · exact h
  · exact ⟨List.forall_mem_cons.2 ⟨rfl, h.pending⟩, h.groups⟩

theorem closeGroup (h : r.Placed) (i : Nat) : (r.closeGroup i).Placed := by
  unfold Run.closeGroup
  split
  · next g hg =>
    have htaken : r.taken = g.text ++ g.behind := h.pending g (List.mem_of_find?_eq_some hg)
    exact ⟨fun g hg => h.pending g (List.mem_of_mem_filter hg),
      List.forall_mem_cons.2 ⟨⟨[], htaken.symm⟩, h.groups⟩⟩
  · exact h

/-- **A step keeps the groups in their places.** -/
theorem before (h : r.Placed) (s : Step) : (s.before r).Placed := by
  cases s with
  | take c => exact h.push c
  | look => exact h
  | opens i => exact h.closeGroup i
  | closes i => exact h.openGroup i

end Run.Placed

/-- **The groups of a way stand in what is taken on it.** -/
theorem Way.placed_run (w : Way) : w.run.Placed := by
  induction w with
  | nil => exact Run.placed_nil
  | cons s w ih => exact ih.before s

/-! ### Matches in a text -/

/-- That a match is one of those that an expression is cut at in the text of the match. -/
def Finds (re : Regex) (m : Match) : Prop :=
  (m.start, .hit m.run) ∈ Segment.placed 0 (re.segments m.text)

namespace Finds

variable {re : Regex} {m : Match}

theorem hit_mem (h : re.Finds m) : .hit m.run ∈ re.segments m.text := Segment.mem_of_mem_placed h

/-- **A match stands where it says.** -/
theorem exists_append (h : re.Finds m) :
    ∃ before behind, m.text = before ++ m.run.taken ++ behind ∧ m.start = before.length := by
  obtain ⟨before, behind, hss, hstart⟩ := Segment.mem_placed_iff.1 h
  refine ⟨Segment.covered before, Segment.covered behind, ?_, by rw [hstart, Nat.zero_add]⟩
  rw [← covered_segments re m.text, hss, Segment.covered_append, Segment.covered_cons,
    List.append_assoc]
  rfl

theorem placed (h : re.Finds m) : m.run.Placed := by
  obtain ⟨-, prev, t, hfound⟩ := (cuts_segments re m.text).exists_matchAt?_of_mem h.hit_mem
  obtain ⟨w, -, -, hw⟩ := Marked.reads_matchAt? hfound
  rw [← hw]
  exact Way.placed_run w

/-- **A group stands where it says**, inside of its match. -/
theorem groupAt?_eq_some (h : re.Finds m) {i k : Nat} {x : Text}
    (hg : m.groupAt? i = some (k, x)) :
    ∃ before behind, m.text = before ++ x ++ behind ∧ k = before.length ∧ m.start ≤ k ∧
      k + x.length ≤ m.start + m.run.taken.length := by
  obtain ⟨g, hcapture, heq⟩ := Option.map_eq_some_iff.1 hg
  obtain ⟨hk, rfl⟩ := Prod.mk.inj heq
  obtain ⟨u, hu⟩ := h.placed.groups g (List.mem_of_find?_eq_some hcapture)
  obtain ⟨before, behind, htext, hstart⟩ := h.exists_append
  have hlength : m.run.taken.length = u.length + (g.text ++ g.behind).length := by
    rw [← hu, List.length_append]
  have hplace : k = m.start + u.length := by omega
  rw [List.length_append] at hlength
  refine ⟨before ++ u, g.behind ++ behind, ?_, ?_, by omega, by omega⟩
  · rw [htext, ← hu]
    simp
  · rw [hplace, hstart, List.length_append]

end Finds

end CodeMarkup.Regex
