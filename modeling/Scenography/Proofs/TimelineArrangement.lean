import Scenography.Proofs.TimelineOrder

namespace Scenography

open Timeline

variable {π : Type}

namespace Cue

variable {c d : Cue}

def Apart (c d : Cue) : Prop :=
  c.kind = d.kind → ¬(c.value - d.value).abs < tolerance

instance : Decidable (c.Apart d) :=
  inferInstanceAs (Decidable (_ → _))

theorem Apart.symm (h : c.Apart d) : d.Apart c := by
  intro hk hlt
  rw [Number.abs_sub_comm] at hlt
  exact h hk.symm hlt

theorem Before.asymm (hc : c.value.isFinite = true) (hd : d.value.isFinite = true) (h : c.Before d) :
    ¬d.Before c := by
  rw [Before, Number.lt_iff_rank hc hd, Number.beq_iff_rank hc hd] at h
  rw [Before, Number.lt_iff_rank hd hc, Number.beq_iff_rank hd hc]
  rintro (hv | ⟨hv, hk⟩)
  · rcases h with h | ⟨h, -⟩
    · exact lt_asymm h hv
    · exact hv.ne' h
  · rcases h with h | ⟨-, h⟩
    · exact h.ne' hv
    · omega

end Cue

namespace Timeline.Ordered

variable {t u : Timeline π}

theorem nodes_eq_of_perm (ht : t.Ordered) (hu : u.Ordered) (h : t.nodes.Perm u.nodes) : t.nodes = u.nodes := by
  apply h.eq_of_pairwise _ ht.ascending hu.ascending
  intro m n hm hn hmn hnm
  exact (hmn.asymm (ht.finite m hm) (hu.finite n hn) hnm).elim

theorem exists_add? (h : t.Ordered) {n : Node π} (hn : n.cue.value.isFinite = true)
    (hapart : ∀ m ∈ t.nodes, m.cue.Apart n.cue) :
    ∃ t', t.add? n = some t' ∧ t'.Ordered ∧ t'.id = t.id ∧ t'.nodes.Perm (n :: t.nodes) := by
  cases hadd : t.add? n with
  | none =>
    obtain ⟨m, hm, hk, hlt⟩ := add?_eq_none_iff.1 hadd
    exact (hapart m hm hk hlt).elim
  | some t' =>
    obtain ⟨-, hid, front, back, hsplit, hnodes⟩ := (h.takes hn).taken t' hadd
    refine ⟨t', rfl, h.add? hn hadd, hid, ?_⟩
    rw [hsplit, hnodes]
    exact List.perm_middle

theorem exists_foldlM_add? (h : t.Ordered) {l : List (Node π)} (hl : ∀ n ∈ l, n.cue.value.isFinite = true)
    (hapart : (t.nodes ++ l).Pairwise fun m n => m.cue.Apart n.cue) :
    ∃ t', l.foldlM Timeline.add? t = some t' ∧ t'.Ordered ∧ t'.id = t.id ∧ t'.nodes.Perm (t.nodes ++ l) := by
  induction l generalizing t with
  | nil => exact ⟨t, rfl, h, rfl, by simp⟩
  | cons n l ih =>
    have hnear : ∀ m ∈ t.nodes, m.cue.Apart n.cue := fun m hm =>
      (List.pairwise_append.1 hapart).2.2 m hm n List.mem_cons_self
    obtain ⟨u, hadd, hu, hid, hnodes⟩ := h.exists_add? (hl n List.mem_cons_self) hnear
    have hall : (u.nodes ++ l).Perm (t.nodes ++ n :: l) :=
      (hnodes.append_right l).trans List.perm_middle.symm
    have hrest : ∀ m ∈ l, m.cue.value.isFinite = true := fun m hm => hl m (List.mem_cons_of_mem _ hm)
    obtain ⟨t', hfold, ht', hid', hnodes'⟩ := ih hu hrest (hapart.perm hall.symm Cue.Apart.symm)
    refine ⟨t', ?_, ht', hid'.trans hid, hnodes'.trans hall⟩
    rw [List.foldlM_cons, hadd]
    exact hfold

end Timeline.Ordered

/-- Whatever order nodes come in that do not clash with each other, each is taken, and they stand in the same order,
by their values and then by their kinds. -/
theorem arrangement_unique (id : String) {l : List (Node π)} (hfinite : ∀ n ∈ l, n.cue.value.isFinite = true)
    (hapart : l.Pairwise fun m n => m.cue.Apart n.cue) :
    ∃ nodes : List (Node π), nodes.Perm l ∧ nodes.Pairwise (fun m n => m.cue.Before n.cue) ∧
      ∀ l' : List (Node π), l'.Perm l → l'.foldlM Timeline.add? (.empty id) = some ⟨id, nodes⟩ := by
  have harrange (l' : List (Node π)) (h : l'.Perm l) : ∃ t : Timeline π,
      l'.foldlM Timeline.add? (.empty id) = some t ∧ t.Ordered ∧ t.id = id ∧ t.nodes.Perm l := by
    have hfinite' : ∀ n ∈ l', n.cue.value.isFinite = true := fun n hn => hfinite n (h.mem_iff.1 hn)
    have hapart' : l'.Pairwise fun m n => m.cue.Apart n.cue := hapart.perm h.symm Cue.Apart.symm
    obtain ⟨t, hfold, ht, hid, hnodes⟩ := (Ordered.empty id).exists_foldlM_add? hfinite' hapart'
    exact ⟨t, hfold, ht, hid, hnodes.trans h⟩
  obtain ⟨t, -, ht, -, hnodes⟩ := harrange l (.refl l)
  refine ⟨t.nodes, hnodes, ht.ascending, fun l' h => ?_⟩
  obtain ⟨⟨_, nodes⟩, hfold, hu, rfl, hnodes'⟩ := harrange l' h
  rw [hfold, ht.nodes_eq_of_perm hu (hnodes.trans hnodes'.symm)]

def Sample.nodes : List (Node Speed) :=
  [Cue.node ⟨2.5, .point, .none⟩ ⟨1.0⟩, Cue.node ⟨0.0, .distance, .straight⟩ ⟨2.0⟩,
    Cue.node ⟨2.5, .time, .none⟩ ⟨3.0⟩, Cue.node ⟨-0.0, .collision, .alongLane⟩ ⟨4.0⟩]

theorem sample_arrangement :
    ∃ nodes : List (Node Speed), nodes.Perm Sample.nodes ∧ nodes.Pairwise (fun m n => m.cue.Before n.cue) ∧
      ∀ l' : List (Node Speed), l'.Perm Sample.nodes → l'.foldlM Timeline.add? (.empty "1") = some ⟨"1", nodes⟩ :=
  arrangement_unique "1" (by decide) (by decide)

end Scenography
