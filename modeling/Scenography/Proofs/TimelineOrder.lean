import Scenography.Proofs.DoubleOrder
import Scenography.Proofs.Timelines

namespace Scenography

variable {π : Type}

namespace Cue

variable {c d : Cue}

def Before (c d : Cue) : Prop :=
  c.value < d.value ∨ (c.value == d.value) = true ∧ c.kind.rank < d.kind.rank

theorem clashes_iff : c.clashes d = true ↔ c.kind = d.kind ∧ (c.value - d.value).abs < tolerance := by
  simp [clashes]

theorem clashes_comm (c d : Cue) : c.clashes d = d.clashes c := by
  unfold clashes
  rw [Number.abs_sub_comm, decide_eq_decide.2 (eq_comm (a := c.kind))]

theorem kind_eq_of_rank_eq {k l : CueKind} (h : k.rank = l.rank) : k = l := by
  cases k <;> cases l <;> first | rfl | cases h

section Finite

variable (hc : c.value.isFinite = true) (hd : d.value.isFinite = true)

include hc hd

theorem clashes_of_beq (hv : (c.value == d.value) = true) (hk : c.kind = d.kind) : c.clashes d = true := by
  rw [clashes_iff, Number.abs_sub_of_beq hc hd hv]
  exact ⟨hk, by decide⟩

theorem before_of_notAfter (h : c.notAfter d = true) (hapart : c.clashes d = false) : c.Before d := by
  simp only [notAfter, Bool.or_eq_true, Bool.and_eq_true, decide_eq_true_eq] at h
  rcases h with h | ⟨hv, hk⟩
  · exact .inl h
  · by_cases hlt : c.value < d.value
    · exact .inl hlt
    · rw [Number.le_iff_rank hc hd] at hv
      rw [Number.lt_iff_rank hc hd, not_lt] at hlt
      have heq := (Number.beq_iff_rank hc hd).2 (le_antisymm hv hlt)
      have hne : c.kind.rank ≠ d.kind.rank := fun hr => by
        simp [clashes_of_beq hc hd heq (kind_eq_of_rank_eq hr)] at hapart
      exact .inr ⟨heq, by omega⟩

theorem before_of_not_notAfter (h : c.notAfter d = false) : d.Before c := by
  have hnot : ¬c.value < d.value ∧ ¬(c.value ≤ d.value ∧ c.kind.rank ≤ d.kind.rank) := by
    simpa [notAfter] using h
  obtain ⟨hlt, hle⟩ := hnot
  rw [Number.lt_iff_rank hc hd, not_lt] at hlt
  rw [Number.le_iff_rank hc hd] at hle
  rcases lt_or_eq_of_le hlt with hlt | heq
  · exact .inl ((Number.lt_iff_rank hd hc).2 hlt)
  · have hk : ¬c.kind.rank ≤ d.kind.rank := fun hk => hle ⟨heq.ge, hk⟩
    exact .inr ⟨(Number.beq_iff_rank hd hc).2 heq, by omega⟩

theorem notAfter_of_before {b : Cue} (hb : b.value.isFinite = true) (hbc : b.Before c) (h : c.notAfter d = true) :
    b.notAfter d = true := by
  simp only [notAfter, Bool.or_eq_true, Bool.and_eq_true, decide_eq_true_eq, Number.lt_iff_rank hc hd,
    Number.le_iff_rank hc hd, Number.lt_iff_rank hb hd, Number.le_iff_rank hb hd] at h ⊢
  rw [Before, Number.lt_iff_rank hb hc, Number.beq_iff_rank hb hc] at hbc
  rcases hbc with hv | ⟨hv, hk⟩
  · rcases h with h | h
    · exact .inl (hv.trans h)
    · exact .inl (hv.trans_le h.1)
  · rw [hv]
    rcases h with h | h
    · exact .inl h
    · exact .inr ⟨h.1, by omega⟩

end Finite

end Cue

namespace Timeline

/-- Nodes ascend by value and then by kind, and nodes of one kind are a tolerance apart. -/
structure Ordered (t : Timeline π) : Prop where
  finite : ∀ m ∈ t.nodes, m.cue.value.isFinite = true
  ascending : t.nodes.Pairwise fun m n => m.cue.Before n.cue
  apart : t.nodes.Pairwise fun m n => m.cue.kind = n.cue.kind → ¬(m.cue.value - n.cue.value).abs < Cue.tolerance

structure Takes (t : Timeline π) (n : Node π) : Prop where
  refuses_iff : t.add? n = none ↔
    ∃ m ∈ t.nodes, m.cue.kind = n.cue.kind ∧ (m.cue.value - n.cue.value).abs < Cue.tolerance
  refused : t.add? n = none → t.addAll [n] = t
  taken : ∀ t', t.add? n = some t' → t.addAll [n] = t' ∧ t'.id = t.id ∧
    ∃ front back, t.nodes = front ++ back ∧ t'.nodes = front ++ n :: back

theorem add?_eq_none_iff {t : Timeline π} {n : Node π} :
    t.add? n = none ↔
      ∃ m ∈ t.nodes, m.cue.kind = n.cue.kind ∧ (m.cue.value - n.cue.value).abs < Cue.tolerance := by
  unfold add?
  simp only [ite_eq_left_iff, reduceCtorEq, imp_false, not_not, List.any_eq_true, Cue.clashes_iff]

theorem add?_eq_some {t t' : Timeline π} {n : Node π} (h : t.add? n = some t') :
    t' = { t with nodes := place n t.nodes } ∧ ∀ m ∈ t.nodes, m.cue.clashes n.cue = false := by
  unfold add? at h
  split at h
  · cases h
  next hany =>
    refine ⟨(Option.some.inj h).symm, fun m hm => ?_⟩
    rw [Bool.not_eq_true, List.any_eq_false] at hany
    simpa using hany m hm

theorem exists_front {α : Type} {R : α → α → Prop} {p : α → Bool} {l : List α} (hl : l.Pairwise R)
    (hp : ∀ a ∈ l, ∀ b ∈ l, R a b → p b = true → p a = true) :
    ∃ front back, l = front ++ back ∧ (∀ a ∈ front, p a = true) ∧ ∀ b ∈ back, p b = false := by
  induction l with
  | nil => exact ⟨[], [], rfl, by simp, by simp⟩
  | cons a l ih =>
    obtain ⟨ha, hl⟩ := List.pairwise_cons.1 hl
    cases hpa : p a with
    | false =>
      refine ⟨[], a :: l, rfl, by simp, fun b hb => ?_⟩
      rcases List.mem_cons.1 hb with rfl | hb
      · exact hpa
      · by_contra hpb
        have := hp a (by simp) b (by simp [hb]) (ha b hb) (by simpa using hpb)
        simp [hpa] at this
    | true =>
      obtain ⟨front, back, rfl, hfront, hback⟩ :=
        ih hl fun b hb c hc => hp b (List.mem_cons_of_mem _ hb) c (List.mem_cons_of_mem _ hc)
      refine ⟨a :: front, back, rfl, fun b hb => ?_, hback⟩
      rcases List.mem_cons.1 hb with rfl | hb
      · exact hpa
      · exact hfront b hb

namespace Ordered

variable {t t' : Timeline π} {n : Node π}

theorem empty (id : String) : (Timeline.empty id : Timeline π).Ordered :=
  ⟨by simp [Timeline.empty], .nil, .nil⟩

/-- The place found parts the nodes that come before the new one from those that come after it. -/
theorem exists_place (h : t.Ordered) (hn : n.cue.value.isFinite = true)
    (hapart : ∀ m ∈ t.nodes, m.cue.clashes n.cue = false) :
    ∃ front back, t.nodes = front ++ back ∧ place n t.nodes = front ++ n :: back ∧
      (∀ m ∈ front, m.cue.Before n.cue) ∧ ∀ m ∈ back, n.cue.Before m.cue := by
  obtain ⟨front, back, hsplit, hfront, hback⟩ :=
    exists_front (p := fun m => m.cue.notAfter n.cue) h.ascending fun a ha b hb hab =>
      Cue.notAfter_of_before (h.finite b hb) hn (h.finite a ha) hab
  refine ⟨front, back, hsplit, by rw [hsplit, place_append hfront hback], fun m hm => ?_, fun m hm => ?_⟩
  · have hm' : m ∈ t.nodes := hsplit ▸ List.mem_append_left _ hm
    exact Cue.before_of_notAfter (h.finite m hm') hn (hfront m hm) (hapart m hm')
  · have hm' : m ∈ t.nodes := hsplit ▸ List.mem_append_right _ hm
    exact Cue.before_of_not_notAfter (h.finite m hm') hn (hback m hm)

theorem takes (h : t.Ordered) (hn : n.cue.value.isFinite = true) : t.Takes n where
  refuses_iff := add?_eq_none_iff
  refused := fun hnone => by rw [addAll_singleton, hnone, Option.getD_none]
  taken := by
    intro t' hsome
    obtain ⟨rfl, hapart⟩ := add?_eq_some hsome
    obtain ⟨front, back, hsplit, hplace, -, -⟩ := h.exists_place hn hapart
    exact ⟨by rw [addAll_singleton, hsome, Option.getD_some], rfl, front, back, hsplit, hplace⟩

theorem add? (h : t.Ordered) (hn : n.cue.value.isFinite = true) (hsome : t.add? n = some t') : t'.Ordered := by
  obtain ⟨rfl, hapart⟩ := add?_eq_some hsome
  obtain ⟨front, back, hsplit, hplace, hfront, hback⟩ := h.exists_place hn hapart
  obtain ⟨hfinite, hascending, hdistant⟩ := h
  rw [hsplit] at hfinite hascending hdistant hapart
  rw [List.pairwise_append] at hascending hdistant
  obtain ⟨hascendFront, hascendBack, hascend⟩ := hascending
  obtain ⟨hdistantFront, hdistantBack, hdistant⟩ := hdistant
  have hnear (m : Node π) (hm : m ∈ front ++ back) :
      (m.cue.kind = n.cue.kind → ¬(m.cue.value - n.cue.value).abs < Cue.tolerance) ∧
        (n.cue.kind = m.cue.kind → ¬(n.cue.value - m.cue.value).abs < Cue.tolerance) := by
    have hclash := hapart m hm
    have hclash' := Cue.clashes_comm m.cue n.cue ▸ hclash
    rw [← Bool.not_eq_true, Cue.clashes_iff, not_and] at hclash hclash'
    exact ⟨hclash, hclash'⟩
  constructor
  case finite =>
    rw [hplace]
    intro m hm
    rcases List.mem_append.1 hm with hm | hm
    · exact hfinite m (List.mem_append_left _ hm)
    · rcases List.mem_cons.1 hm with rfl | hm
      · exact hn
      · exact hfinite m (List.mem_append_right _ hm)
  case ascending =>
    rw [hplace, List.pairwise_append, List.pairwise_cons]
    refine ⟨hascendFront, ⟨hback, hascendBack⟩, fun a ha b hb => ?_⟩
    rcases List.mem_cons.1 hb with rfl | hb
    · exact hfront a ha
    · exact hascend a ha b hb
  case apart =>
    rw [hplace, List.pairwise_append, List.pairwise_cons]
    refine ⟨hdistantFront, ⟨fun m hm => (hnear m (List.mem_append_right _ hm)).2, hdistantBack⟩, fun a ha b hb => ?_⟩
    rcases List.mem_cons.1 hb with rfl | hb
    · exact (hnear a (List.mem_append_left _ ha)).1
    · exact hdistant a ha b hb

theorem addAll (h : t.Ordered) {l : List (Node π)} (hl : ∀ n ∈ l, n.cue.value.isFinite = true) :
    (t.addAll l).Ordered := by
  induction l generalizing t with
  | nil => exact h
  | cons n l ih =>
    have hrest : ∀ m ∈ l, m.cue.value.isFinite = true := fun m hm => hl m (List.mem_cons_of_mem _ hm)
    have hfirst : (t.addAll [n]).Ordered := by
      rw [addAll_singleton]
      cases hadd : t.add? n with
      | none => exact h
      | some t' => exact h.add? (hl n (by simp)) hadd
    have happend := addAll_append t [n] l
    rw [List.singleton_append] at happend
    rw [happend]
    exact ih hfirst hrest

end Ordered

end Timeline

end Scenography
