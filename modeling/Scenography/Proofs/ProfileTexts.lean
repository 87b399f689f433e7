import Scenography.Proofs.Numbering
import Scenography.Proofs.NumberTexts
import Scenography.Proofs.Quantities
import Scenography.Proofs.Splitting

namespace Scenography

open Timeline

deriving instance BEq for Ramp, Merge, Speed, Walk, Cue, Node

def Numeric {α : Type} [Measured α] (a : α) : Prop :=
  ∀ x, .double x ∈ Measured.quantities a → x.isNaN = false

section Separators

def separators : List Char :=
  [',', ';', ' ']

variable {c : Char} {s s' t t' : String}

theorem not_isNumeral (hc : c ∈ separators) : ¬(Number.isNumeral c = true ∨ c ∈ ['i', 'n', 'f', 'N', 'a']) := by
  simp only [separators, List.mem_cons, List.not_mem_nil, or_false] at hc
  rcases hc with rfl | rfl | rfl <;> simp [Number.isNumeral, Char.isDigit]

theorem comma_eq : "," = String.singleton ',' := rfl

theorem blank_eq : " " = String.singleton ' ' := rfl

theorem notMem_append_comma (hc : c ≠ ',') (hs : c ∉ s.toList) (ht : c ∉ t.toList) : c ∉ (s ++ "," ++ t).toList := by
  rw [comma_eq]
  exact Text.notMem_append_sep hc hs ht

theorem notMem_append_blank (hc : c ≠ ' ') (hs : c ∉ s.toList) (ht : c ∉ t.toList) : c ∉ (s ++ " " ++ t).toList := by
  rw [blank_eq]
  exact Text.notMem_append_sep hc hs ht

theorem comma_mem_separators : ',' ∈ separators := by
  simp [separators]

theorem semicolon_mem_separators : ';' ∈ separators := by
  simp [separators]

theorem blank_mem_separators : ' ' ∈ separators := by
  simp [separators]

theorem eq_of_append_comma (hs : ',' ∉ s.toList) (hs' : ',' ∉ s'.toList) (h : s ++ "," ++ t = s' ++ "," ++ t') :
    s = s' ∧ t = t' := by
  rw [comma_eq] at h
  exact Text.eq_of_append_sep hs hs' h

theorem eq_of_append_blank (hs : ' ' ∉ s.toList) (hs' : ' ' ∉ s'.toList) (h : s ++ " " ++ t = s' ++ " " ++ t') :
    s = s' ∧ t = t' := by
  rw [blank_eq] at h
  exact Text.eq_of_append_sep hs hs' h

theorem notMem_tidy (hc : c ∈ separators) (x : Float) : c ∉ (Number.tidy x).toList :=
  fun h => not_isNumeral hc (Number.mem_tidy h)

theorem notMem_toString (hc : c ∈ separators) (n : Nat) : c ∉ (toString n).toList :=
  fun h => not_isNumeral hc (.inl (Number.isNumeral_of_mem_toString h))

theorem notMem_toString_int (hc : c ∈ separators) (n : Int) : c ∉ (toString n).toList :=
  fun h => not_isNumeral hc (.inl (Number.isNumeral_of_mem_toString_int h))

theorem StopKind.notMem_label (hc : c ∈ separators) (k : StopKind) : c ∉ k.label.toList := by
  simp only [separators, List.mem_cons, List.not_mem_nil, or_false] at hc
  rcases hc with rfl | rfl | rfl <;> cases k <;> simp [StopKind.label]

theorem DistanceMode.notMem_label (hc : c ∈ separators) (d : DistanceMode) : c ∉ d.label.toList := by
  simp only [separators, List.mem_cons, List.not_mem_nil, or_false] at hc
  rcases hc with rfl | rfl | rfl <;> cases d <;> simp [DistanceMode.label]

theorem DistanceMode.label_injective {d e : DistanceMode} (h : d.label = e.label) : d = e := by
  cases d <;> cases e <;> first | rfl | exact absurd h (by decide)

end Separators

section Payloads

theorem numeric_pair {x y : Float} (h : Numeric [x, y]) : x.isNaN = false ∧ y.isNaN = false :=
  ⟨h x (by simp [Measured.quantities]), h y (by simp [Measured.quantities])⟩

/-- Texts of payloads have no separators of nodes in them, and tell payloads apart. -/
class Payload.Lawful (π : Type) [Payload π] [Measured π] [BEq π] : Prop where
  notMem_text : ∀ c ∈ separators, c ≠ ',' → ∀ p : π, c ∉ (text p).toList
  injective : ∀ p q : π, Numeric p → Numeric q → text p = text q → (p == q) = true

variable {x x' y y' : Float}

theorem beq_of_append_comma (hx : x.isNaN = false) (hx' : x'.isNaN = false) (hy : y.isNaN = false)
    (hy' : y'.isNaN = false) (h : Number.tidy x ++ "," ++ Number.tidy y = Number.tidy x' ++ "," ++ Number.tidy y') :
    (x == x') = true ∧ (y == y') = true := by
  obtain ⟨hfirst, hsecond⟩ :=
    eq_of_append_comma (notMem_tidy comma_mem_separators _) (notMem_tidy comma_mem_separators _) h
  exact ⟨Number.tidy_injective hx hx' hfirst, Number.tidy_injective hy hy' hsecond⟩

instance : Payload.Lawful Ramp where
  notMem_text c hc hcomma r :=
    notMem_append_comma hcomma (notMem_append_comma hcomma (notMem_tidy hc _) (r.stopKind.notMem_label hc))
      (notMem_tidy hc _)
  injective := by
    rintro ⟨a, k, v⟩ ⟨a', k', v'⟩ hr hs h
    have htexts : Number.tidy a ++ "," ++ (k.label ++ "," ++ Number.tidy v) =
        Number.tidy a' ++ "," ++ (k'.label ++ "," ++ Number.tidy v') := by
      simpa only [Payload.text, String.append_assoc] using h
    obtain ⟨hrate, htexts⟩ :=
      eq_of_append_comma (notMem_tidy comma_mem_separators _) (notMem_tidy comma_mem_separators _) htexts
    obtain ⟨hkind, hvalue⟩ :=
      eq_of_append_comma (k.notMem_label comma_mem_separators) (k'.notMem_label comma_mem_separators) htexts
    have hk : k = k' := by
      cases k <;> cases k' <;> first | rfl | exact absurd hkind (by decide)
    obtain ⟨ha, hv⟩ := numeric_pair (x := a) (y := v) hr
    obtain ⟨ha', hv'⟩ := numeric_pair (x := a') (y := v') hs
    change (a == a' && (k == k' && v == v')) = true
    rw [Number.tidy_injective ha ha' hrate, Number.tidy_injective hv hv' hvalue, hk, beq_self_eq_true]
    rfl

instance : Payload.Lawful Merge where
  notMem_text c hc hcomma m :=
    notMem_append_comma hcomma (notMem_append_comma hcomma (notMem_toString_int hc _) (notMem_tidy hc _))
      (notMem_tidy hc _)
  injective := by
    rintro ⟨d, u, v⟩ ⟨d', u', v'⟩ hm hn h
    have htexts : toString d.toInt ++ "," ++ (Number.tidy u ++ "," ++ Number.tidy v) =
        toString d'.toInt ++ "," ++ (Number.tidy u' ++ "," ++ Number.tidy v') := by
      simpa only [Payload.text, String.append_assoc] using h
    obtain ⟨hdirection, htexts⟩ :=
      eq_of_append_comma (notMem_toString_int comma_mem_separators _) (notMem_toString_int comma_mem_separators _) htexts
    have hd : d = d' := Int64.toInt_inj.1 (Int.repr_injective hdirection)
    obtain ⟨hu, hv⟩ := numeric_pair (x := u) (y := v) hm
    obtain ⟨hu', hv'⟩ := numeric_pair (x := u') (y := v') hn
    obtain ⟨hduration, hoffset⟩ := beq_of_append_comma hu hu' hv hv' htexts
    change (d == d' && (u == u' && v == v')) = true
    rw [hduration, hoffset, hd, beq_self_eq_true]
    rfl

instance : Payload.Lawful Speed where
  notMem_text _ hc _ s := notMem_tidy hc s.speed
  injective _ _ hs ht h := Number.tidy_injective (hs _ (List.mem_singleton.2 rfl)) (ht _ (List.mem_singleton.2 rfl)) h

instance : Payload.Lawful Walk where
  notMem_text c hc hcomma w := notMem_append_comma hcomma (notMem_tidy hc _) (notMem_tidy hc _)
  injective := by
    rintro ⟨v, d⟩ ⟨v', d'⟩ hw hw' h
    obtain ⟨hv, hd⟩ := numeric_pair (x := v) (y := d) hw
    obtain ⟨hv', hd'⟩ := numeric_pair (x := v') (y := d') hw'
    obtain ⟨hdirection, hspeed⟩ := beq_of_append_comma hd hd' hv hv' h
    change (v == v' && d == d') = true
    rw [hdirection, hspeed]
    rfl

end Payloads

section Nodes

variable {π : Type} {m n : Node π}

structure Cue.Regular (c : Cue) : Prop where
  finite : c.value.isFinite = true
  mode : c.mode = .none ↔ c.kind = .time ∨ c.kind = .point

structure Node.Regular (n : Node π) : Prop where
  cue : n.cue.Regular
  once : n.count = 1

theorem Node.beq_iff [BEq π] : (m == n) = true ↔ (m.cue.value == n.cue.value) = true ∧ m.cue.kind = n.cue.kind ∧
    m.cue.mode = n.cue.mode ∧ m.count = n.count ∧ (m.payload == n.payload) = true := by
  change ((m.cue.value == n.cue.value && (m.cue.kind == n.cue.kind && m.cue.mode == n.cue.mode)) &&
    (m.count == n.count && m.payload == n.payload)) = true ↔ _
  simp only [Bool.and_eq_true, beq_iff_eq, and_assoc]

theorem notMem_cueWord? {k : CueKind} {word : String} (h : cueWord? k = some word) {c : Char} (hc : c ∈ separators) :
    c ∉ word.toList := by
  simp only [separators, List.mem_cons, List.not_mem_nil, or_false] at hc
  cases k <;> simp only [cueWord?, reduceCtorEq, Option.some.injEq] at h <;> rw [← h, String.toList_ofList] <;>
    rcases hc with rfl | rfl | rfl <;> simp

theorem kind_eq_of_cueWord? {k l : CueKind} {word : String} (hk : cueWord? k = some word) (hl : cueWord? l = some word)
    (h : k = .time ∨ k = .point ↔ l = .time ∨ l = .point) : k = l := by
  rw [← hl] at hk
  cases k <;> cases l <;> first | rfl | exact absurd hk (by decide) | simp at h

theorem isNaN_of_isFinite {x : Float} (h : x.isFinite = true) : x.isNaN = false := by
  have hmodel : x.toModel.unpack.isFinite = true := h
  change x.toModel.unpack.isNaN = false
  cases hu : x.toModel.unpack with
  | notANumber => rw [hu] at hmodel; cases hmodel
  | infinity s => rfl
  | zero s => rfl
  | finite s m e hm => rfl

variable [Payload π] {s : String}

theorem timeText?_eq_some (h : timeText? n = some s) :
    n.cue.kind = .time ∧ Number.tidy n.cue.value ++ "," ++ Payload.text n.payload = s := by
  unfold timeText? at h
  split at h
  next hk => exact ⟨hk, Option.some.inj h⟩
  next => cases h

theorem eventText?_eq_some (h : eventText? n = some s) :
    ∃ word, cueWord? n.cue.kind = some word ∧ word ++ " " ++ (n.cue.mode.label ++ " " ++
      (Number.tidy n.cue.value ++ "," ++ (Payload.text n.payload ++ " " ++ toString n.count))) = s := by
  obtain ⟨word, hword, hs⟩ := Option.map_eq_some_iff.1 h
  exact ⟨word, hword, by simpa only [String.append_assoc] using hs⟩

theorem mem_timeTexts [Measured π] [BEq π] [Payload.Lawful π] {l : List (Node π)} :
    ∀ s ∈ l.filterMap timeText?, s ≠ "" ∧ ';' ∉ s.toList := by
  intro s hs
  obtain ⟨n, -, hn⟩ := List.mem_filterMap.1 hs
  obtain ⟨-, rfl⟩ := timeText?_eq_some hn
  refine ⟨comma_eq ▸ Text.append_sep_ne_empty _ _, ?_⟩
  refine notMem_append_comma (by decide) (notMem_tidy semicolon_mem_separators _) ?_
  exact Payload.Lawful.notMem_text _ semicolon_mem_separators (by decide) _

theorem mem_eventTexts [Measured π] [BEq π] [Payload.Lawful π] {l : List (Node π)} :
    ∀ s ∈ l.filterMap eventText?, s ≠ "" ∧ ';' ∉ s.toList := by
  intro s hs
  obtain ⟨n, -, hn⟩ := List.mem_filterMap.1 hs
  obtain ⟨word, hword, rfl⟩ := eventText?_eq_some hn
  refine ⟨blank_eq ▸ Text.append_sep_ne_empty _ _, ?_⟩
  refine notMem_append_blank (by decide) (notMem_cueWord? hword semicolon_mem_separators) ?_
  refine notMem_append_blank (by decide) (n.cue.mode.notMem_label semicolon_mem_separators) ?_
  refine notMem_append_comma (by decide) (notMem_tidy semicolon_mem_separators _) ?_
  exact notMem_append_blank (by decide) (Payload.Lawful.notMem_text _ semicolon_mem_separators (by decide) _)
    (notMem_toString semicolon_mem_separators _)

theorem isSome_timeText? (n : Node π) : (timeText? n).isSome = !(eventText? n).isSome := by
  unfold timeText? eventText?
  cases n.cue.kind <;> rfl

variable [Measured π] [BEq π] [Payload.Lawful π]

namespace Node.Regular

variable (hm : m.Regular) (hn : n.Regular) (hp : Numeric m.payload) (hq : Numeric n.payload)

include hm hn hp hq

theorem beq_of_texts (hvalue : Number.tidy m.cue.value = Number.tidy n.cue.value) (hkind : m.cue.kind = n.cue.kind)
    (hmode : m.cue.mode = n.cue.mode) (hcount : m.count = n.count)
    (hpayload : Payload.text m.payload = Payload.text n.payload) : (m == n) = true := by
  have hvalues := Number.tidy_injective (isNaN_of_isFinite hm.cue.finite) (isNaN_of_isFinite hn.cue.finite) hvalue
  exact Node.beq_iff.2 ⟨hvalues, hkind, hmode, hcount, Payload.Lawful.injective _ _ hp hq hpayload⟩

theorem beq_of_timeText? (h : timeText? m = some s) (h' : timeText? n = some s) : (m == n) = true := by
  obtain ⟨hk, rfl⟩ := timeText?_eq_some h
  obtain ⟨hk', htexts⟩ := timeText?_eq_some h'
  obtain ⟨hvalue, hpayload⟩ :=
    eq_of_append_comma (notMem_tidy comma_mem_separators _) (notMem_tidy comma_mem_separators _) htexts
  -- The text leaves out the mode and the count: times have no mode, and every node counts once.
  have hmode : m.cue.mode = n.cue.mode := by rw [hm.cue.mode.2 (.inl hk), hn.cue.mode.2 (.inl hk')]
  exact beq_of_texts hm hn hp hq hvalue.symm (hk.trans hk'.symm) hmode (hm.once.trans hn.once.symm) hpayload.symm

theorem beq_of_eventText? (h : eventText? m = some s) (h' : eventText? n = some s) : (m == n) = true := by
  obtain ⟨word, hword, rfl⟩ := eventText?_eq_some h
  obtain ⟨word', hword', htexts⟩ := eventText?_eq_some h'
  obtain ⟨rfl, hcue⟩ := eq_of_append_blank (notMem_cueWord? hword' blank_mem_separators)
    (notMem_cueWord? hword blank_mem_separators) htexts
  obtain ⟨hlabel, hnumbers⟩ := eq_of_append_blank (n.cue.mode.notMem_label blank_mem_separators)
    (m.cue.mode.notMem_label blank_mem_separators) hcue
  obtain ⟨hvalue, hrest⟩ :=
    eq_of_append_comma (notMem_tidy comma_mem_separators _) (notMem_tidy comma_mem_separators _) hnumbers
  have hblank (p : π) : ' ' ∉ (Payload.text p).toList :=
    Payload.Lawful.notMem_text ' ' blank_mem_separators (by decide) p
  obtain ⟨hpayload, hcount⟩ := eq_of_append_blank (hblank _) (hblank _) hrest
  have hmode : m.cue.mode = n.cue.mode := DistanceMode.label_injective hlabel.symm
  -- One word stands for two kinds, of which one has a mode.
  have hkind : m.cue.kind = n.cue.kind :=
    kind_eq_of_cueWord? hword hword' (hm.cue.mode.symm.trans (hmode ▸ hn.cue.mode))
  exact beq_of_texts hm hn hp hq hvalue.symm hkind hmode (toString_injective hcount).symm hpayload.symm

end Node.Regular

end Nodes

end Scenography
