import Scenography.Proofs.Markup.Asides
import Scenography.Proofs.Markup.Runs

namespace Scenography.Markup

section Lexemes

def Lexed (ps : List Part) (ls : List Lexeme) : Prop :=
  List.Forall₂ (fun p l => p.token? = some l.token) ps ls

theorem lexed_of_lexemes? {place : Place} {ps : List Part} {ls : List Lexeme} (h : lexemes? place ps = some ls) :
    Lexed ps ls := by
  induction ps generalizing place ls with
  | nil =>
    cases h
    exact .nil
  | cons p ps ih =>
    obtain ⟨token, htoken, h⟩ := Option.bind_eq_some_iff.1 h
    obtain ⟨ls, hls, rfl⟩ := Option.map_eq_some_iff.1 h
    exact .cons htoken (ih hls)

theorem exists_lexemes? {ps : List Part} (h : ∀ p ∈ ps, p.token?.isSome = true) (place : Place) :
    ∃ ls, lexemes? place ps = some ls := by
  induction ps generalizing place with
  | nil => exact ⟨[], rfl⟩
  | cons p ps ih =>
    obtain ⟨hp, hps⟩ := List.forall_mem_cons.1 h
    obtain ⟨token, htoken⟩ := Option.isSome_iff_exists.1 hp
    obtain ⟨ls, hls⟩ := ih hps (place.past p.raw)
    exact ⟨⟨token, place, place.past p.raw⟩ :: ls, Option.bind_eq_some_iff.2 ⟨token, htoken, Option.map_eq_some_iff.2 ⟨ls, hls, rfl⟩⟩⟩

theorem Lexed.isSome {ps : List Part} {ls : List Lexeme} (h : Lexed ps ls) : ∀ p ∈ ps, p.token?.isSome = true := by
  induction h with
  | nil => simp
  | cons hp _ ih => exact List.forall_mem_cons.2 ⟨by rw [hp]; rfl, ih⟩

end Lexemes

section Merging

open Scenography.Markup.Part

theorem isSome_of_merged {ps : List Part} (h : ∀ p ∈ ps, p.token?.isSome = true) (hjoin : textsJoin ps = true) :
    ∀ p ∈ merged ps, p.token?.isSome = true := by
  induction ps using merged_induction with
  | nil => exact h
  | keep p ps hmerged _ ih =>
    obtain ⟨hp, hps⟩ := List.forall_mem_cons.1 h
    rw [hmerged]
    exact List.forall_mem_cons.2 ⟨hp, ih hps (Bool.and_eq_true_iff.1 hjoin).2⟩
  | join body more ps qs hqs hmerged ih =>
    obtain ⟨hfirst, hmore⟩ := Bool.and_eq_true_iff.1 hjoin
    have hrest := ih (List.forall_mem_cons.1 h).2 hmore
    rw [hqs] at hfirst hrest
    rw [hmerged]
    exact List.forall_mem_cons.2 ⟨(Bool.and_eq_true_iff.1 hfirst).1, (List.forall_mem_cons.1 hrest).2⟩

theorem token_of_text {body : Chars} {t : Token} (h : (text body).token? = some t) : t = .text body := by
  rw [token?, text?] at h
  split at h
  next => exact (Option.some.inj h).symm
  next => cases h

theorem token?_text_of_isSome {body : Chars} (h : (text body).token?.isSome = true) :
    (text body).token? = some (.text body) := by
  obtain ⟨t, ht⟩ := Option.isSome_iff_exists.1 h
  exact token_of_text ht ▸ ht

theorem Frame.addText_addText (f : Frame) (cs ds : Chars) (span span' : Span) :
    (f.addText cs span).addText ds span' = f.addText (cs ++ ds) span := by
  unfold addText
  cases f.pending with
  | none => rfl
  | some p => simp [List.append_assoc]

theorem Partway.text?_append {a b : Chars} (h : Part.join a b = true) (p : Partway) (span span' : Span) :
    (p.text? span a).bind (·.text? span' b) = p.text? span (a ++ b) := by
  obtain ⟨stack, root⟩ := p
  obtain ⟨-, hvalue⟩ := Bool.and_eq_true_iff.1 h
  have hvalue := of_decide_eq_true hvalue
  cases stack with
  | nil =>
    simp only [text?, List.all_append]
    cases a.all isSpace <;> rfl
  | cons f fs =>
    simp only [text?, hvalue]
    cases textValue? a with
    | none => rfl
    | some cs =>
      cases textValue? b with
      | none => rfl
      | some ds => simp [Frame.addText_addText]

theorem exists_apart {ps : List Part} {ls : List Lexeme} (h : ∀ p ∈ ps, p.token?.isSome = true)
    (hjoin : textsJoin ps = true) (hls : Lexed (merged ps) ls) :
    ∃ ls', Lexed ps ls' ∧ ∀ p, addAll? p ls' = addAll? p ls := by
  induction ps using merged_induction generalizing ls with
  | nil =>
    cases hls
    exact ⟨[], .nil, fun _ => rfl⟩
  | keep p ps hmerged _ ih =>
    rw [hmerged] at hls
    obtain ⟨l, ls, hl, hrest, rfl⟩ := List.forall₂_cons_left_iff.1 hls
    obtain ⟨ls', hls', hall⟩ := ih (List.forall_mem_cons.1 h).2 (Bool.and_eq_true_iff.1 hjoin).2 hrest
    exact ⟨l :: ls', .cons hl hls', fun q => congrArg (q.add? l).bind (funext hall)⟩
  | join body more ps qs hqs hmerged ih =>
    obtain ⟨hp, hps⟩ := List.forall_mem_cons.1 h
    obtain ⟨hfirst, hmore⟩ := Bool.and_eq_true_iff.1 hjoin
    rw [hmerged] at hls
    obtain ⟨⟨token, span⟩, ls, hl, hrest, rfl⟩ := List.forall₂_cons_left_iff.1 hls
    cases token_of_text hl
    have hbody := token?_text_of_isSome hp
    have hnext := token?_text_of_isSome (isSome_of_merged hps hmore (text more) (hqs ▸ List.mem_cons_self))
    -- the second text may stand anywhere, only the first one's place is kept
    obtain ⟨ls', hls', hall⟩ := ih hps hmore (hqs ▸ .cons hnext hrest : Lexed (merged ps) (⟨.text more, span⟩ :: ls))
    refine ⟨⟨.text body, span⟩ :: ls', .cons hbody hls', fun q => ?_⟩
    rw [hqs] at hfirst
    calc (q.text? span body).bind (addAll? · ls')
      _ = (q.text? span body).bind fun r => (r.text? span more).bind (addAll? · ls) :=
        congrArg _ (funext hall)
      _ = ((q.text? span body).bind (·.text? span more)).bind (addAll? · ls) := (Option.bind_assoc _ _ _).symm
      _ = (q.text? span (body ++ more)).bind (addAll? · ls) := by rw [Partway.text?_append hfirst]

end Merging

namespace Frame

def content (f : Frame) : List Node :=
  f.flush.children.reverse

variable {f g : Frame}

theorem content_of_none (h : f.pending = none) : f.content = f.children.reverse := by
  rw [content, flush, h]

theorem content_of_some {cs : Chars} {span : Span} (h : f.pending = some (cs, span)) :
    f.content = f.children.reverse ++ [.text (String.ofList cs) span] := by
  rw [content, flush, h, List.reverse_cons]

def heading (f : Frame) : QName × KeyMap String String × Scope :=
  (f.name, f.attributes, f.scope)

theorem heading_flush : f.flush.heading = f.heading := by
  unfold flush
  cases f.pending <;> rfl

theorem heading_addText (cs : Chars) (span : Span) : (f.addText cs span).heading = f.heading := by
  unfold addText
  cases f.pending <;> rfl

theorem content_flush : f.flush.content = f.content := by
  unfold content flush
  cases h : f.pending with
  | none => simp [h]
  | some p => rfl

theorem content_addElement (e : Element) : (f.addElement e).content = f.content ++ [.element e] := by
  have hpending : (f.addElement e).pending = none := by
    unfold addElement flush
    cases h : f.pending with
    | none => exact h
    | some p => rfl
  rw [content_of_none hpending, addElement, List.reverse_cons]
  rfl

theorem content_addText (f : Frame) (cs : Chars) (span : Span) :
    (f.content = f.children.reverse ∧
      (f.addText cs span).content = f.children.reverse ++ [.text (String.ofList cs) span]) ∨
    ∃ before first, f.content = f.children.reverse ++ [.text (String.ofList before) first] ∧
      (f.addText cs span).content = f.children.reverse ++ [.text (String.ofList (before ++ cs)) first] := by
  unfold addText
  cases h : f.pending with
  | none => exact .inl ⟨content_of_none h, content_of_some rfl⟩
  | some p => exact .inr ⟨p.1, p.2, content_of_some h, content_of_some rfl⟩

theorem elementsOf_addText (cs : Chars) (span : Span) : elementsOf (f.addText cs span).content = elementsOf f.content := by
  rcases content_addText f cs span with ⟨hf, hf'⟩ | ⟨before, first, hf, hf'⟩ <;>
    simp [hf, hf', elementsOf_append, elementsOf]

theorem exists_runs_addText (f : Frame) (cs : Chars) (span : Span) : ∃ init last,
    (runs f.content).map String.join = init ++ [last] ∧
      (runs (f.addText cs span).content).map String.join = init ++ [last ++ String.ofList cs] := by
  obtain ⟨init, last, hruns, htext⟩ := exists_runs_append_text f.children.reverse
  rcases content_addText f cs span with ⟨hf, hf'⟩ | ⟨before, first, hf, hf'⟩
  · refine ⟨init.map String.join, String.join last, ?_, ?_⟩
    · rw [hf, hruns, List.map_append, List.map_singleton]
    · rw [hf', htext, List.map_append, List.map_singleton, String.join_append]
      simp
  · refine ⟨init.map String.join, String.join (last ++ [String.ofList before]), ?_, ?_⟩
    · rw [hf, htext, List.map_append, List.map_singleton]
    · rw [hf', htext, List.map_append, List.map_singleton, String.join_append, String.join_append]
      simp [String.append_assoc]

def Whole (f : Frame) : Prop :=
  ∃ init, runs f.children.reverse = init ++ [[]] ∧ ∀ run ∈ init, run.length ≤ 1

theorem Whole.content (h : f.Whole) : ∀ run ∈ runs f.content, run.length ≤ 1 := by
  obtain ⟨init, hruns, hinit⟩ := h
  cases hpending : f.pending with
  | none =>
    rw [content_of_none hpending, hruns]
    simpa [or_imp, forall_and] using hinit
  | some p =>
    obtain ⟨init', last, hruns', htext⟩ := exists_runs_append_text f.children.reverse
    obtain ⟨rfl, hlast⟩ := List.append_inj' (hruns'.symm.trans hruns) rfl
    obtain rfl := List.singleton_inj.1 hlast
    rw [content_of_some hpending, htext]
    simpa [or_imp, forall_and] using hinit

theorem Whole.addText (h : f.Whole) (cs : Chars) (span : Span) : (f.addText cs span).Whole := by
  unfold Whole Frame.addText at *
  cases f.pending <;> exact h

theorem Whole.addElement (h : f.Whole) (e : Element) : (f.addElement e).Whole := by
  refine ⟨runs f.content, ?_, h.content⟩
  rw [Frame.addElement, List.reverse_cons]
  exact runs_append_element _ e

structure ReadsAs (f g : Frame) : Prop where
  heading : g.heading = f.heading
  elements : List.Forall₂ Element.ReadsAs (elementsOf f.content) (elementsOf g.content)
  runs : (runs f.content).map String.join = (Markup.runs g.content).map String.join
  whole : g.Whole

namespace ReadsAs

variable {stop stop' : Place} {span span' : Span}

theorem name_eq (h : f.ReadsAs g) : g.name = f.name :=
  congrArg Prod.fst h.heading

theorem scope_eq (h : f.ReadsAs g) : g.scope = f.scope :=
  congrArg (·.2.2) h.heading

theorem flush (h : f.ReadsAs g) : f.flush.ReadsAs g where
  heading := h.heading.trans heading_flush.symm
  elements := (content_flush (f := f)).symm ▸ h.elements
  runs := (content_flush (f := f)).symm ▸ h.runs
  whole := h.whole

theorem addText (h : f.ReadsAs g) (cs : Chars) : (f.addText cs span).ReadsAs (g.addText cs span') where
  heading := by rw [heading_addText, heading_addText, h.heading]
  elements := by
    rw [elementsOf_addText, elementsOf_addText]
    exact h.elements
  runs := by
    obtain ⟨init, last, hf, hf'⟩ := exists_runs_addText f cs span
    obtain ⟨init', last', hg, hg'⟩ := exists_runs_addText g cs span'
    obtain ⟨rfl, hlast⟩ := List.append_inj' (hf.symm.trans (h.runs.trans hg)) rfl
    rw [hf', hg', List.singleton_inj.1 hlast]
  whole := h.whole.addText cs span'

theorem addElement {e e' : Element} (h : f.ReadsAs g) (he : e.ReadsAs e') : (f.addElement e).ReadsAs (g.addElement e') where
  heading := (heading_flush (f := g)).trans (h.heading.trans heading_flush.symm)
  elements := by
    rw [content_addElement, content_addElement, elementsOf_append, elementsOf_append]
    exact List.rel_append h.elements (.cons he .nil)
  runs := by
    rw [content_addElement, content_addElement, runs_append_element, runs_append_element, List.map_append,
      List.map_append, h.runs]
  whole := h.whole.addElement e'

theorem finish (h : f.ReadsAs g) : (f.finish stop).ReadsAs (g.finish stop') := by
  obtain ⟨hname, hattributes, -⟩ : g.name = f.name ∧ g.attributes = f.attributes ∧ g.scope = f.scope := by
    simpa [Frame.heading, Prod.ext_iff] using h.heading
  rw [Frame.finish, Frame.finish, hname, hattributes]
  exact Element.readsAs_mk h.elements h.runs h.whole.content

theorem of_opening {outer : Scope} {start start' : Place} {name : QName} {raw : List (QName × Chars)}
    (h : ofOpening? outer start name raw = some f) :
    ∃ g, ofOpening? outer start' name raw = some g ∧ f.ReadsAs g := by
  obtain ⟨sorted, hsorted, h⟩ := Option.bind_eq_some_iff.1 h
  obtain ⟨attributes, hattributes, h⟩ := Option.bind_eq_some_iff.1 h
  split at h
  next hlabel =>
    cases h
    refine ⟨⟨name, attributes, sorted.declared ++ outer, start', [], none⟩, ?_, rfl, .nil, rfl, [], rfl, by simp⟩
    exact Option.bind_eq_some_iff.2 ⟨sorted, hsorted, Option.bind_eq_some_iff.2 ⟨attributes, hattributes, if_pos hlabel⟩⟩
  next => cases h

end ReadsAs

end Frame

namespace Partway

/-- The second one has read what the first one has, without cuts in its texts. -/
inductive ReadsAs : Partway → Partway → Prop
  | outside {root root' : Option Element} (hroot : Option.Rel Element.ReadsAs root root') : ReadsAs ⟨[], root⟩ ⟨[], root'⟩
  | inside {f g : Frame} {fs gs : List Frame} {root root' : Option Element} (hframe : f.ReadsAs g)
    (hrest : ReadsAs ⟨fs, root⟩ ⟨gs, root'⟩) : ReadsAs ⟨f :: fs, root⟩ ⟨g :: gs, root'⟩

namespace ReadsAs

variable {p q p' : Partway} {span span' : Span}

theorem scope_eq (h : p.ReadsAs q) : q.scope = p.scope := by
  cases h with
  | outside hroot => rfl
  | inside hframe hrest => exact hframe.scope_eq

theorem addElement {e e' : Element} (h : p.ReadsAs q) (he : e.ReadsAs e') : (p.addElement e).ReadsAs (q.addElement e') := by
  cases h with
  | outside hroot => exact .outside (.some he)
  | inside hframe hrest => exact .inside (hframe.addElement he) hrest

theorem open? {name : QName} {raw : List (QName × Chars)} {closed : Bool} (h : p.ReadsAs q)
    (hopen : p.open? span name raw closed = some p') :
    ∃ q', q.open? span' name raw closed = some q' ∧ p'.ReadsAs q' := by
  have hended : (q.stack.isEmpty && q.root.isSome) = (p.stack.isEmpty && p.root.isSome) := by
    cases h with
    | outside hroot => cases hroot <;> rfl
    | inside hframe hrest => rfl
  unfold Partway.open? at hopen ⊢
  rw [hended, h.scope_eq]
  split at hopen
  next => cases hopen
  next hnot =>
    obtain ⟨f, hf, hopen⟩ := Option.bind_eq_some_iff.1 hopen
    obtain ⟨g, hg, hfg⟩ : ∃ g, Frame.ofOpening? p.scope span'.start name raw = some g ∧ f.ReadsAs g :=
      Frame.ReadsAs.of_opening hf
    rw [if_neg hnot, hg, Option.bind_eq_bind, Option.bind_some]
    cases closed with
    | true =>
      cases hopen
      exact ⟨_, rfl, h.addElement hfg.finish⟩
    | false =>
      cases hopen
      exact ⟨_, rfl, .inside hfg h⟩

theorem close? {name : QName} (h : p.ReadsAs q) (hclose : p.close? span name = some p') :
    ∃ q', q.close? span' name = some q' ∧ p'.ReadsAs q' := by
  cases h with
  | outside hroot => cases hclose
  | inside hframe hrest =>
    unfold Partway.close? at hclose ⊢
    dsimp only at hclose ⊢
    rw [hframe.name_eq]
    split at hclose
    next hname =>
      cases hclose
      exact ⟨_, if_pos hname, hrest.addElement hframe.finish⟩
    next => cases hclose

theorem text? {raw : Chars} (h : p.ReadsAs q) (htext : p.text? span raw = some p') :
    ∃ q', q.text? span' raw = some q' ∧ p'.ReadsAs q' := by
  unfold Partway.text? at htext ⊢
  cases h with
  | outside hroot =>
    dsimp only at htext ⊢
    split at htext
    next hspace =>
      cases htext
      exact ⟨_, if_pos hspace, .outside hroot⟩
    next => cases htext
  | inside hframe hrest =>
    obtain ⟨cs, hcs, htext⟩ := Option.map_eq_some_iff.1 htext
    cases htext
    exact ⟨_, Option.map_eq_some_iff.2 ⟨cs, hcs, rfl⟩, .inside (hframe.addText cs) hrest⟩

theorem cdata? {raw : Chars} (h : p.ReadsAs q) (hcdata : p.cdata? span raw = some p') :
    ∃ q', q.cdata? span' raw = some q' ∧ p'.ReadsAs q' := by
  cases h with
  | outside hroot => cases hcdata
  | inside hframe hrest =>
    cases hcdata
    exact ⟨_, rfl, .inside (hframe.addText _) hrest⟩

theorem aside (h : p.ReadsAs q) : p.aside.ReadsAs q := by
  cases h with
  | outside hroot => exact .outside hroot
  | inside hframe hrest => exact .inside hframe.flush hrest

theorem add? {l l' : Lexeme} (h : p.ReadsAs q) (hadd : p.add? l = some p') (htoken : l'.token = l.token)
    (haside : l.token.isAside = false) : ∃ q', q.add? l' = some q' ∧ p'.ReadsAs q' := by
  unfold Partway.add? at hadd ⊢
  rw [htoken]
  cases htag : l.token with
  | opening name attributes closed =>
    rw [htag] at hadd
    exact h.open? hadd
  | closing name =>
    rw [htag] at hadd
    exact h.close? hadd
  | text raw =>
    rw [htag] at hadd
    exact h.text? hadd
  | cdata raw =>
    rw [htag] at hadd
    exact h.cdata? hadd
  | comment =>
    rw [htag] at haside
    cases haside
  | instruction =>
    rw [htag] at haside
    cases haside

end ReadsAs

theorem add?_aside {p : Partway} {l : Lexeme} (h : l.token.isAside = true) : p.add? l = some p.aside := by
  unfold add?
  cases htag : l.token with
  | comment => rfl
  | instruction => rfl
  | opening | closing | text | cdata =>
    rw [htag] at h
    cases h

theorem length_addElement (p : Partway) (e : Element) : (p.addElement e).stack.length = p.stack.length := by
  unfold addElement
  split
  next h => rw [h]
  next h => rw [h, List.length_cons, List.length_cons]

theorem length_add? {p p' : Partway} {l : Lexeme} (h : p.add? l = some p') :
    p'.stack.length = l.token.depth p.stack.length := by
  obtain ⟨stack, root⟩ := p
  unfold add? at h
  cases htag : l.token with
  | opening name attributes closed =>
    rw [htag] at h
    unfold open? at h
    dsimp only at h
    split at h
    next => cases h
    next =>
      obtain ⟨f, -, h⟩ := Option.bind_eq_some_iff.1 h
      cases closed <;> cases h
      · rfl
      · exact length_addElement _ _
  | closing name =>
    rw [htag] at h
    cases stack with
    | nil => cases h
    | cons f fs =>
      dsimp only [close?] at h
      split at h
      next =>
        cases h
        exact length_addElement _ _
      next => cases h
  | text raw =>
    rw [htag] at h
    cases stack with
    | nil =>
      dsimp only [text?] at h
      split at h <;> cases h
      rfl
    | cons f fs =>
      obtain ⟨cs, -, rfl⟩ := Option.map_eq_some_iff.1 h
      rfl
  | cdata raw =>
    rw [htag] at h
    cases stack <;> cases h
    rfl
  | comment | instruction =>
    rw [htag] at h
    cases h
    cases stack <;> rfl

theorem ReadsAs.addAll? {ps : List Part} {ls ls' : List Lexeme} {p q p' : Partway} (h : p.ReadsAs q) (hls : Lexed ps ls)
    (hls' : Lexed (Part.withoutAsides p.stack.length ps) ls') (hall : Markup.addAll? p ls = some p') :
    ∃ q', Markup.addAll? q ls' = some q' ∧ p'.ReadsAs q' := by
  induction ps generalizing p q ls ls' with
  | nil =>
    cases hls
    cases hls'
    cases hall
    exact ⟨q, rfl, h⟩
  | cons part ps ih =>
    obtain ⟨l, ls, hl, hrest, rfl⟩ := List.forall₂_cons_left_iff.1 hls
    obtain ⟨p₁, hadd, hall⟩ := Option.bind_eq_some_iff.1 hall
    have hdepth : part.depth p.stack.length = p₁.stack.length := by
      rw [Part.depth, hl, length_add? hadd]
      rfl
    have haside : part.isAside = l.token.isAside := by
      rw [Part.isAside, hl]
      rfl
    rw [Part.withoutAsides, hdepth, haside] at hls'
    split at hls'
    next hinside =>
      -- cut text is the same text
      rw [add?_aside (Bool.and_eq_true_iff.1 hinside).2] at hadd
      cases hadd
      exact ih h.aside hrest hls' hall
    next hkept =>
      obtain ⟨l', ls', hl', hrest', rfl⟩ := List.forall₂_cons_left_iff.1 hls'
      have htoken : l'.token = l.token := Option.some.inj (hl'.symm.trans hl)
      obtain ⟨q₁, hq₁, hpq⟩ : ∃ q₁, q.add? l' = some q₁ ∧ p₁.ReadsAs q₁ := by
        cases htag : l.token.isAside with
        | false => exact h.add? hadd htoken htag
        | true =>
          -- nothing is open, and there is no text to cut
          rw [add?_aside htag] at hadd
          cases hadd
          cases h with
          | outside hroot => exact ⟨_, add?_aside (htoken ▸ htag), .outside hroot⟩
          | inside hframe hrest => simp [htag] at hkept
      obtain ⟨q', hq', hreads⟩ := ih hpq hrest hrest' hall
      exact ⟨q', Option.bind_eq_some_iff.2 ⟨q₁, hq₁, hq'⟩, hreads⟩

end Partway

theorem root?_eq_some_iff {ls : List Lexeme} {root : Element} :
    root? ls = some root ↔ ∃ p, addAll? {} ls = some p ∧ p.stack = [] ∧ p.root = some root := by
  rw [root?, Option.bind_eq_bind, Option.bind_eq_some_iff]
  refine exists_congr fun p => and_congr_right fun _ => ?_
  rw [Option.ite_none_right_eq_some, List.isEmpty_iff]

theorem document?_withoutAsides {cs : Chars} {root : Element} (hpart : asidesPart cs = true)
    (h : document? cs = some root) : ∃ root', document? (withoutAsides cs) = some root' ∧ root.ReadsAs root' := by
  obtain ⟨⟨lead, parts⟩, hdivide, h⟩ := Option.bind_eq_some_iff.1 h
  obtain ⟨ls, hls, h⟩ := Option.bind_eq_some_iff.1 h
  obtain ⟨p, hp, hstack, hroot⟩ := root?_eq_some_iff.1 h
  have hlexed := lexed_of_lexemes? hls
  let kept := Part.withoutAsides 0 parts
  have hjoin : Part.textsJoin kept = true := by simpa [asidesPart, hdivide] using hpart
  have hkept : ∀ p ∈ kept, p ∈ parts := (Part.withoutAsides_sublist 0 parts).subset
  have htokens : ∀ p ∈ kept, p.token?.isSome = true := fun p hp => hlexed.isSome p (hkept p hp)
  obtain ⟨ls₃, hls₃⟩ := exists_lexemes? (isSome_of_merged htokens hjoin) (Place.past ⟨1, 1⟩ lead)
  obtain ⟨ls₂, hls₂, hall⟩ := exists_apart htokens hjoin (lexed_of_lexemes? hls₃)
  obtain ⟨q, hq, hreads⟩ := (Partway.ReadsAs.outside .none).addAll? hlexed hls₂ hp
  obtain ⟨root', hend, hroot', hread⟩ : ∃ root', q.stack = [] ∧ q.root = some root' ∧ root.ReadsAs root' := by
    cases hreads with
    | outside hroots => exact (exists_of_optionRel hroots hroot).imp fun _ h => ⟨rfl, h⟩
    | inside hframe hrest => cases hstack
  refine ⟨root', ?_, hread⟩
  refine Option.bind_eq_some_iff.2 ⟨_, divide?_withoutAsides hdivide, Option.bind_eq_some_iff.2 ⟨ls₃, hls₃, ?_⟩⟩
  exact root?_eq_some_iff.2 ⟨q, hall {} ▸ hq, hend, hroot'⟩

end Scenography.Markup
