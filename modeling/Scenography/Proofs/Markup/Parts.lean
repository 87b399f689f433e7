import Mathlib.Data.List.Chain
import Mathlib.Data.List.TakeWhile
import Scenography.Markup.Document
/-!
A part of a text is the same whatever follows it, but a text takes in the text that follows.
-/

namespace Scenography

theorem Text.after?_append (word rest : List Char) : after? word (word ++ rest) = some rest := by
  induction word with
  | nil => rfl
  | cons w ws ih => rw [List.cons_append, after?, if_pos rfl, ih]

theorem Text.after?_eq_none_iff {word cs : List Char} : after? word cs = none ↔ ¬word <+: cs := by
  constructor
  · rintro h ⟨rest, rfl⟩
    cases (after?_append word rest).symm.trans h
  · intro h
    rw [Option.eq_none_iff_forall_ne_some]
    exact fun rest hrest => h ⟨rest, append_of_after? hrest⟩

namespace Markup

open Text (after? after?_append after?_eq_none_iff)

theorem until?_append {word body rest : Chars} (hword : word ≠ []) (h : until? word (body ++ word ++ rest) = some (body, rest))
    (rest' : Chars) : until? word (body ++ word ++ rest') = some (body, rest') := by
  induction body with
  | nil =>
    obtain ⟨w, ws, rfl⟩ := List.exists_cons_of_ne_nil hword
    have hafter := after?_append (w :: ws) rest'
    rw [List.cons_append] at hafter
    rw [List.nil_append, List.cons_append, until?, hafter]
  | cons c body ih =>
    rw [List.cons_append, List.cons_append, until?] at h ⊢
    split at h
    next => cases h
    next hnone =>
      obtain ⟨p, hrest, heq⟩ := Option.map_eq_some_iff.1 h
      have hp : p = (body, rest) := by simpa [Prod.ext_iff] using heq
      rw [hp] at hrest
      have hnone' : after? word (c :: (body ++ word ++ rest')) = none := by
        rw [after?_eq_none_iff] at hnone ⊢
        -- the word is no longer than what stands before the rest
        intro hprefix
        have hshort : word <+: c :: body ++ word :=
          List.prefix_of_prefix_length_le hprefix ⟨rest', rfl⟩ (by simp; omega)
        exact hnone (hshort.trans ⟨rest, rfl⟩)
      rw [hnone', ih hrest]
      rfl

theorem tagEnd?_append {quote : Option Char} {body rest : Chars}
    (h : tagEnd? quote (body ++ '>' :: rest) = some (body, rest)) (rest' : Chars) :
    tagEnd? quote (body ++ '>' :: rest') = some (body, rest') := by
  induction body generalizing quote with
  | nil =>
    cases quote with
    | none => rfl
    | some q =>
      unfold tagEnd? at h
      obtain ⟨p, -, heq⟩ := Option.map_eq_some_iff.1 h
      cases heq
  | cons c body ih =>
    rw [List.cons_append] at h ⊢
    unfold tagEnd? at h ⊢
    cases quote with
    | some q =>
      obtain ⟨p, hrest, heq⟩ := Option.map_eq_some_iff.1 h
      have hp : p = (body, rest) := by simpa [Prod.ext_iff] using heq
      dsimp only
      rw [ih (hp ▸ hrest)]
      rfl
    | none =>
      dsimp only at h ⊢
      split at h
      next => cases h
      next hc =>
        obtain ⟨p, hrest, heq⟩ := Option.map_eq_some_iff.1 h
        have hp : p = (body, rest) := by simpa [Prod.ext_iff] using heq
        rw [if_neg hc, ih (hp ▸ hrest)]
        rfl

namespace Enclosure

theorem find?_lead_append (e : Enclosure) (rest : Chars) : find? (e.lead ++ rest) = some (e, rest) := by
  cases e <;> simp [find?, lead, after?]

theorem find?_eq_none {c : Char} (h : c ≠ '!' ∧ c ≠ '?' ∧ c ≠ '/') (rest : Chars) : find? ('<' :: c :: rest) = none := by
  simp [find?, lead, after?, h.1.symm, h.2.1.symm, h.2.2.symm]

theorem find?_eq_none_of_ne {c : Char} (h : c ≠ '<') (rest : Chars) : find? (c :: rest) = none := by
  simp [find?, lead, after?, h.symm]

theorem tail_ne_nil (e : Enclosure) : e.tail ≠ [] := by
  cases e <;> simp [tail]

end Enclosure

namespace Part

def isText : Part → Bool
  | text _ => true
  | _ => false

def Proper : Part → Prop
  | enclosed e body => ∀ rest, until? e.tail (body ++ e.tail ++ rest) = some (body, rest)
  | opening body => (∀ rest, tagEnd? none (body ++ '>' :: rest) = some (body, rest)) ∧
    ∀ c ∈ body.head?, c ≠ '!' ∧ c ≠ '?' ∧ c ≠ '/'
  | text body => body ≠ [] ∧ ∀ c ∈ body, c ≠ '<'

theorem Proper.raw_ne_nil {p : Part} (h : p.Proper) : p.raw ≠ [] := by
  cases p with
  | enclosed e body => simp [raw, e.tail_ne_nil]
  | opening body => simp [raw]
  | text body => exact h.1

theorem proper_of_first? {cs rest : Chars} {p : Part} (hcs : cs ≠ []) (h : first? cs = some (p, rest)) : p.Proper := by
  have hraw := raw_append_of_first? h
  unfold first? at h
  split at h
  next e after he =>
    obtain ⟨⟨body, rest⟩, hbody, heq⟩ := Option.map_eq_some_iff.1 h
    cases heq
    rw [← append_of_until? hbody] at hbody
    exact until?_append e.tail_ne_nil hbody
  next hnone =>
    split at h
    next after =>
      split at h
      next => cases h
      next hbang =>
        obtain ⟨⟨body, rest⟩, hbody, heq⟩ := Option.map_eq_some_iff.1 h
        cases heq
        refine ⟨tagEnd?_append (append_of_tagEnd? hbody ▸ hbody), fun c hc => ?_⟩
        obtain ⟨body, rfl⟩ : ∃ more, body = c :: more := by
          cases body with
          | nil => cases hc
          | cons d more => exact ⟨more, by rw [Option.some.inj hc]⟩
        have hafter := append_of_tagEnd? hbody
        rw [← hafter] at hbang hnone
        refine ⟨fun hc => hbang (hc ▸ rfl), ?_, ?_⟩
        · rintro rfl
          cases (Enclosure.find?_lead_append .instruction _).symm.trans hnone
        · rintro rfl
          cases (Enclosure.find?_lead_append .closing _).symm.trans hnone
    next hopen =>
      cases h
      refine ⟨?_, fun c hc => by simpa using List.mem_takeWhile_imp hc⟩
      cases cs with
      | nil => exact (hcs rfl).elim
      | cons c cs =>
        have hc : c ≠ '<' := fun hc => hopen cs (hc ▸ rfl)
        simp [hc]

theorem proper_of_all? {fuel : Nat} {cs : Chars} {parts : List Part} (h : all? fuel cs = some parts) :
    ∀ p ∈ parts, p.Proper := by
  induction fuel generalizing cs parts with
  | zero => cases h
  | succ fuel ih =>
    cases cs with
    | nil =>
      cases h
      simp
    | cons c cs =>
      obtain ⟨⟨p, rest⟩, hfirst, h⟩ := Option.bind_eq_some_iff.1 h
      obtain ⟨ps, hps, rfl⟩ := Option.map_eq_some_iff.1 h
      exact List.forall_mem_cons.2 ⟨proper_of_first? (List.cons_ne_nil c cs) hfirst, ih hps⟩

theorem first?_raw_append {p : Part} (h : p.Proper) (htext : p.isText = false) (rest : Chars) :
    first? (p.raw ++ rest) = some (p, rest) := by
  cases p with
  | text body => cases htext
  | enclosed e body =>
    unfold first?
    rw [raw, List.append_assoc, List.append_assoc, Enclosure.find?_lead_append, ← List.append_assoc]
    dsimp only
    rw [h rest]
    rfl
  | opening body =>
    obtain ⟨hend, hhead⟩ := h
    have hnone : Enclosure.find? ('<' :: (body ++ '>' :: rest)) = none := by
      cases body with
      | nil => exact Enclosure.find?_eq_none (by decide) rest
      | cons c body => exact Enclosure.find?_eq_none (hhead c rfl) _
    have hbang : (body ++ '>' :: rest).head? ≠ some '!' := by
      cases body with
      | nil => simp
      | cons c body => simpa using (hhead c rfl).1
    have hraw : (opening body).raw ++ rest = '<' :: (body ++ '>' :: rest) := by simp [raw]
    unfold first?
    rw [hraw, hnone]
    dsimp only
    split
    next after heq =>
      rw [← (List.cons.inj heq).2, if_neg hbang, hend]
      rfl
    next hopen => exact (hopen _ rfl).elim

theorem first?_text {body rest : Chars} (h : (text body).Proper) (hrest : ∀ c ∈ rest.head?, c = '<') :
    first? (body ++ rest) = some (text body, rest) := by
  obtain ⟨hne, hbody⟩ := h
  obtain ⟨c, cs, rfl⟩ := List.exists_cons_of_ne_nil hne
  have hc := hbody c List.mem_cons_self
  have htake : ((c :: cs) ++ rest).takeWhile (· ≠ '<') = c :: cs := by
    rw [List.takeWhile_append_of_pos fun d hd => by simpa using hbody d hd]
    cases rest with
    | nil => simp
    | cons d rest => simp [hrest d rfl]
  have hdrop : ((c :: cs) ++ rest).dropWhile (· ≠ '<') = rest := by
    rw [List.dropWhile_append_of_pos fun d hd => by simpa using hbody d hd]
    cases rest with
    | nil => simp
    | cons d rest => simp [hrest d rfl]
  unfold first?
  rw [List.cons_append, Enclosure.find?_eq_none_of_ne hc]
  dsimp only
  split
  next heq => exact (hc (List.cons.inj heq).1).elim
  next => rw [← List.cons_append, htake, hdrop]

def merged : List Part → List Part
  | [] => []
  | text body :: ps =>
    match merged ps with
    | text more :: qs => text (body ++ more) :: qs
    | qs => text body :: qs
  | p :: ps => p :: merged ps

theorem merged_cons {p : Part} (h : p.isText = false) (ps : List Part) : merged (p :: ps) = p :: merged ps := by
  cases p with
  | text body => cases h
  | enclosed e body => rfl
  | opening body => rfl

theorem exists_of_isText {p : Part} (h : p.isText = true) : ∃ body, p = text body := by
  cases p with
  | text body => exact ⟨body, rfl⟩
  | enclosed e body => cases h
  | opening body => cases h

/-- A part stays as it is before merged parts, or it is a text and goes on with the text that comes next. -/
theorem merged_induction {motive : List Part → Prop} (nil : motive [])
    (keep : ∀ p ps, merged (p :: ps) = p :: merged ps → (∀ q ∈ (merged ps).head?, p.isText = false ∨ q.isText = false) →
      motive ps → motive (p :: ps))
    (join : ∀ body more ps qs, merged ps = text more :: qs → merged (text body :: ps) = text (body ++ more) :: qs →
      motive ps → motive (text body :: ps)) (ps : List Part) : motive ps := by
  induction ps with
  | nil => exact nil
  | cons p ps ih =>
    cases htext : p.isText with
    | false => exact keep p ps (merged_cons htext ps) (fun _ _ => .inl htext) ih
    | true =>
      obtain ⟨body, rfl⟩ := exists_of_isText htext
      cases hps : merged ps with
      | nil => exact keep _ ps (by rw [merged, hps]) (by simp [hps]) ih
      | cons q qs =>
        cases q with
        | text more => exact join body more ps qs hps (by rw [merged, hps]) ih
        | enclosed e more => exact keep _ ps (by rw [merged, hps]) (by simp [hps, isText]) ih
        | opening more => exact keep _ ps (by rw [merged, hps]) (by simp [hps, isText]) ih

theorem flatMap_raw_merged (ps : List Part) : (merged ps).flatMap raw = ps.flatMap raw := by
  induction ps using merged_induction with
  | nil => rfl
  | keep p ps hmerged _ ih => rw [hmerged, List.flatMap_cons, List.flatMap_cons, ih]
  | join body more ps qs hqs hmerged ih =>
    rw [hqs] at ih
    rw [hmerged, List.flatMap_cons, List.flatMap_cons, ← ih, List.flatMap_cons]
    exact List.append_assoc _ _ _

theorem forall_mem_merged {P : Part → Prop} (happend : ∀ a b, P (text a) → P (text b) → P (text (a ++ b)))
    {ps : List Part} (h : ∀ p ∈ ps, P p) : ∀ p ∈ merged ps, P p := by
  induction ps using merged_induction with
  | nil => exact h
  | keep p ps hmerged _ ih =>
    obtain ⟨hp, hps⟩ := List.forall_mem_cons.1 h
    rw [hmerged]
    exact List.forall_mem_cons.2 ⟨hp, ih hps⟩
  | join body more ps qs hqs hmerged ih =>
    obtain ⟨hp, hps⟩ := List.forall_mem_cons.1 h
    obtain ⟨hmore, hrest⟩ := List.forall_mem_cons.1 (hqs ▸ ih hps)
    rw [hmerged]
    exact List.forall_mem_cons.2 ⟨happend body more hp hmore, hrest⟩

theorem proper_of_merged {ps : List Part} (h : ∀ p ∈ ps, p.Proper) : ∀ p ∈ merged ps, p.Proper := by
  refine forall_mem_merged (fun a b ha hb => ⟨by simp [ha.1], fun c hc => ?_⟩) h
  exact (List.mem_append.1 hc).elim (ha.2 c) (hb.2 c)

def Apart (ps : List Part) : Prop :=
  ps.IsChain fun p q => p.isText = false ∨ q.isText = false

theorem apart_merged (ps : List Part) : Apart (merged ps) := by
  induction ps using merged_induction with
  | nil => exact .nil
  | keep p ps hmerged happart ih =>
    rw [hmerged]
    exact List.IsChain.cons ih happart
  | join body more ps qs hqs hmerged ih =>
    rw [hqs] at ih
    rw [hmerged]
    exact List.isChain_cons.2 (List.isChain_cons.1 ih)

theorem head?_flatMap_raw {ps : List Part} (h : ∀ p ∈ ps.head?, p.isText = false) :
    ∀ c ∈ (ps.flatMap raw).head?, c = '<' := by
  cases ps with
  | nil => simp
  | cons p ps =>
    have hp := h p rfl
    cases p with
    | text body => cases hp
    | enclosed e body => cases e <;> simp [raw, Enclosure.lead]
    | opening body => simp [raw]

theorem all?_flatMap_raw {ps : List Part} (hproper : ∀ p ∈ ps, p.Proper) (hapart : Apart ps) {fuel : Nat}
    (hfuel : (ps.flatMap raw).length < fuel) : all? fuel (ps.flatMap raw) = some ps := by
  induction ps generalizing fuel with
  | nil =>
    obtain ⟨fuel, rfl⟩ := Nat.exists_eq_succ_of_ne_zero (Nat.ne_zero_of_lt hfuel)
    rfl
  | cons p ps ih =>
    obtain ⟨fuel, rfl⟩ := Nat.exists_eq_succ_of_ne_zero (Nat.ne_zero_of_lt hfuel)
    obtain ⟨hp, hps⟩ := List.forall_mem_cons.1 hproper
    obtain ⟨hnext, hrest⟩ := List.isChain_cons.1 hapart
    have hlength : 0 < p.raw.length := List.length_pos_of_ne_nil hp.raw_ne_nil
    rw [List.flatMap_cons, List.length_append] at hfuel
    have hall := ih hps hrest (by omega : (ps.flatMap raw).length < fuel)
    have hfirst : first? (p.raw ++ ps.flatMap raw) = some (p, ps.flatMap raw) := by
      cases htext : p.isText with
      | false => exact first?_raw_append hp htext _
      | true =>
        obtain ⟨body, rfl⟩ := exists_of_isText htext
        exact first?_text hp (head?_flatMap_raw fun q hq => (hnext q hq).resolve_left (by simp [isText]))
    obtain ⟨c, cs, hcs⟩ := List.exists_cons_of_ne_nil (List.append_ne_nil_of_left_ne_nil hp.raw_ne_nil (ps.flatMap raw))
    rw [List.flatMap_cons, hcs]
    rw [hcs] at hfirst
    exact Option.bind_eq_some_iff.2 ⟨_, hfirst, Option.map_eq_some_iff.2 ⟨ps, hall, rfl⟩⟩

theorem all?_of_proper {ps : List Part} (h : ∀ p ∈ ps, p.Proper) :
    all? ((ps.flatMap raw).length + 1) (ps.flatMap raw) = some (merged ps) := by
  rw [← flatMap_raw_merged]
  exact all?_flatMap_raw (proper_of_merged h) (apart_merged ps) (Nat.lt_succ_self _)

theorem declared_of_proper {p : Part} (h : p.Proper) {rest : Chars} (hword : "<?xml ".toList <+: p.raw ++ rest) :
    "<?xml ".toList <+: p.raw := by
  rcases List.prefix_or_prefix_of_prefix hword (List.prefix_append p.raw rest) with hlong | hshort
  · exact hlong
  · -- a shorter part would end within the mark, and neither a bracket nor a text does
    exfalso
    cases p with
    | enclosed e body =>
      have hend : '>' ∈ (enclosed e body).raw := by cases e <;> simp [raw, Enclosure.tail]
      exact absurd (hshort.subset hend) (by decide)
    | opening body => exact absurd (hshort.subset (by simp [raw] : '>' ∈ (opening body).raw)) (by decide)
    | text body =>
      obtain ⟨c, cs, rfl⟩ := List.exists_cons_of_ne_nil h.1
      obtain ⟨rest, hrest⟩ := hshort
      exact h.2 c List.mem_cons_self (List.cons.inj hrest).1

end Part

theorem append_of_unmark {cs mark rest : Chars} (h : unmark cs = (mark, rest)) : mark ++ rest = cs := by
  cases cs with
  | nil =>
    cases h
    rfl
  | cons c cs =>
    rw [unmark] at h
    split at h <;> cases h <;> rfl

theorem append_of_undeclare? {cs declaration rest : Chars} (h : undeclare? cs = some (declaration, rest)) :
    declaration ++ rest = cs := by
  unfold undeclare? at h
  split at h
  next =>
    cases h
    rfl
  next after hafter =>
    obtain ⟨⟨body, rest⟩, hbody, h⟩ := Option.bind_eq_some_iff.1 h
    dsimp only at h
    split at h
    next =>
      cases h
      rw [← Text.append_of_after? hafter, ← append_of_tagEnd? hbody]
      simp only [List.append_assoc, List.singleton_append]
    next => cases h

theorem unmark_append {mark rest rest' : Chars} (h : unmark (mark ++ rest) = (mark, rest)) (hhead : rest'.head? = rest.head?) :
    unmark (mark ++ rest') = (mark, rest') := by
  cases mark with
  | cons m mark =>
    rw [List.cons_append, unmark] at h ⊢
    split at h
    next hm =>
      obtain ⟨h, -⟩ := Prod.mk.inj h
      rw [if_pos hm, ← (List.cons.inj h).2]
      rfl
    next => cases h
  | nil =>
    cases rest' with
    | nil => rfl
    | cons c rest' =>
      cases rest with
      | nil => cases hhead
      | cons d rest =>
        obtain rfl := Option.some.inj hhead
        rw [List.nil_append, unmark] at h ⊢
        split at h
        next => cases h
        next hc => rw [if_neg hc]

theorem undeclare?_append {declaration rest rest' : Chars}
    (h : undeclare? (declaration ++ rest) = some (declaration, rest))
    (hword : ¬"<?xml ".toList <+: rest → ¬"<?xml ".toList <+: rest') :
    undeclare? (declaration ++ rest') = some (declaration, rest') := by
  unfold undeclare? at h
  split at h
  next hnone =>
    obtain ⟨rfl, -⟩ := Prod.mk.inj (Option.some.inj h)
    rw [List.nil_append] at hnone ⊢
    rw [undeclare?, after?_eq_none_iff.2 (hword (after?_eq_none_iff.1 hnone))]
  next after hafter =>
    obtain ⟨⟨body, rest₁⟩, hbody, h⟩ := Option.bind_eq_some_iff.1 h
    dsimp only at h
    split at h
    next hdeclaration =>
      obtain ⟨rfl, rfl⟩ := Prod.mk.inj (Option.some.inj h)
      rw [← append_of_tagEnd? hbody] at hbody
      rw [undeclare?, List.append_assoc, List.append_assoc, after?_append]
      dsimp only
      rw [List.singleton_append, tagEnd?_append hbody, Option.bind_eq_bind, Option.bind_some, if_pos hdeclaration]
    next => cases h

theorem of_divide? {cs lead : Chars} {ps : List Part} (h : divide? cs = some (lead, ps)) :
    (∀ p ∈ ps, p.Proper) ∧ ∃ mark declaration, lead = mark ++ declaration ∧
      unmark (mark ++ (declaration ++ ps.flatMap Part.raw)) = (mark, declaration ++ ps.flatMap Part.raw) ∧
      undeclare? (declaration ++ ps.flatMap Part.raw) = some (declaration, ps.flatMap Part.raw) := by
  unfold divide? at h
  split at h
  next mark _ hmark =>
  obtain ⟨⟨declaration, rest⟩, hrest, h⟩ := Option.bind_eq_some_iff.1 h
  obtain ⟨ps₁, hps, h⟩ := Option.bind_eq_some_iff.1 h
  cases h
  refine ⟨Part.proper_of_all? hps, mark, declaration, rfl, ?_⟩
  rw [Part.flatMap_raw_of_all? hps, append_of_undeclare? hrest, append_of_unmark hmark]
  exact ⟨hmark, hrest⟩

theorem divide?_change {cs lead : Chars} {ps ps' : List Part} (h : divide? cs = some (lead, ps))
    (hhead : ps'.head? = ps.head?) (hproper : ∀ p ∈ ps', p.Proper) :
    divide? (lead ++ ps'.flatMap Part.raw) = some (lead, Part.merged ps') := by
  obtain ⟨-, mark, declaration, rfl, hmark, hdeclaration⟩ := of_divide? h
  have hfirst : (ps'.flatMap Part.raw).head? = (ps.flatMap Part.raw).head? ∧
      (¬"<?xml ".toList <+: ps.flatMap Part.raw → ¬"<?xml ".toList <+: ps'.flatMap Part.raw) := by
    cases ps' with
    | nil =>
      obtain rfl : ps = [] := List.head?_eq_none_iff.1 hhead.symm
      exact ⟨rfl, id⟩
    | cons p qs' =>
      obtain ⟨qs, rfl⟩ := List.head?_eq_some_iff.1 hhead.symm
      have hp := hproper p List.mem_cons_self
      obtain ⟨c, cs, hc⟩ := List.exists_cons_of_ne_nil hp.raw_ne_nil
      refine ⟨by simp [hc], fun hnot hword => hnot ?_⟩
      exact (Part.declared_of_proper hp hword).trans (List.prefix_append _ _)
  have hunmarked : unmark (mark ++ (declaration ++ ps'.flatMap Part.raw)) =
      (mark, declaration ++ ps'.flatMap Part.raw) := by
    refine unmark_append hmark ?_
    cases declaration with
    | nil => exact hfirst.1
    | cons d declaration => rfl
  rw [divide?, List.append_assoc, hunmarked]
  dsimp only
  rw [undeclare?_append hdeclaration hfirst.2, Option.bind_eq_bind, Option.bind_some, Part.all?_of_proper hproper]
  rfl

end Markup

end Scenography
