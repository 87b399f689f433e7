import Scenography.Proofs.Markup.Parts

namespace Scenography.Markup

def Token.isAside : Token → Bool
  | comment => true
  | instruction => true
  | _ => false

def Token.depth (depth : Nat) : Token → Nat
  | opening _ _ false => depth + 1
  | closing _ => depth - 1
  | _ => depth

namespace Part

def isAside (p : Part) : Bool :=
  p.token?.any Token.isAside

def depth (depth : Nat) (p : Part) : Nat :=
  p.token?.elim depth (Token.depth depth)

def withoutAsides : (depth : Nat) → List Part → List Part
  | _, [] => []
  | depth, p :: ps =>
    let rest := withoutAsides (p.depth depth) ps
    if 0 < depth && p.isAside then rest else p :: rest

theorem withoutAsides_sublist (depth : Nat) (ps : List Part) : (withoutAsides depth ps).Sublist ps := by
  induction ps generalizing depth with
  | nil => exact .slnil
  | cons p ps ih =>
    rw [withoutAsides]
    split
    next => exact (ih _).cons p
    next => exact (ih _).cons_cons p

def join (a b : Chars) : Bool :=
  (text? (a ++ b)).isSome &&
    textValue? (a ++ b) = (textValue? a).bind fun cs => (textValue? b).map (cs ++ ·)

def joinsNext : Part → Option Part → Bool
  | text body, some (text more) => join body more
  | _, _ => true

def textsJoin : List Part → Bool
  | [] => true
  | p :: ps => joinsNext p (merged ps).head? && textsJoin ps

end Part

def withoutAsides (cs : Chars) : Chars :=
  match divide? cs with
  | none => cs
  | some (lead, parts) => lead ++ (Part.withoutAsides 0 parts).flatMap Part.raw

/-- A comment or an instruction inside the root element does no more than part the text around it. -/
def asidesPart (cs : Chars) : Bool :=
  (divide? cs).all fun p => Part.textsJoin (Part.withoutAsides 0 p.2)

theorem divide?_withoutAsides {cs lead : Chars} {parts : List Part} (h : divide? cs = some (lead, parts)) :
    divide? (withoutAsides cs) = some (lead, Part.merged (Part.withoutAsides 0 parts)) := by
  rw [withoutAsides, h]
  have hkept := (Part.withoutAsides_sublist 0 parts).subset
  exact divide?_change h (by cases parts <;> rfl) fun p hp => (of_divide? h).1 p (hkept hp)

section Plain

def isPlain (c : Char) : Bool :=
  isAllowed c && c ≠ '\r' && c ≠ '&' && c ≠ ']'

theorem isPlain_iff {c : Char} : isPlain c = true ↔ isAllowed c = true ∧ c ≠ '\r' ∧ c ≠ '&' ∧ c ≠ ']' := by
  simp [isPlain, and_assoc]

variable {a b : Chars}

theorem pieces?_of_plain (h : ∀ c ∈ a, isPlain c = true) {fuel : Nat} (hfuel : a.length < fuel) :
    pieces? fuel a = some (a.map .plain) := by
  induction a generalizing fuel with
  | nil =>
    obtain ⟨fuel, rfl⟩ := Nat.exists_eq_succ_of_ne_zero (Nat.ne_zero_of_lt hfuel)
    rfl
  | cons c cs ih =>
    obtain ⟨fuel, rfl⟩ := Nat.exists_eq_succ_of_ne_zero (Nat.ne_zero_of_lt hfuel)
    obtain ⟨hc, hcs⟩ := List.forall_mem_cons.1 h
    rw [pieces?, ih hcs (Nat.lt_of_succ_lt_succ hfuel)]
    · rfl
    · exact fun hamp => (isPlain_iff.1 hc).2.2.1 hamp

theorem settle_of_plain (h : ∀ c ∈ a, isPlain c = true) : settle false false (a.map .plain) = a := by
  induction a with
  | nil => rfl
  | cons c cs ih =>
    obtain ⟨hc, hcs⟩ := List.forall_mem_cons.1 h
    rw [List.map_cons, settle]
    simp [(isPlain_iff.1 hc).2.1, ih hcs]

theorem textValue?_of_plain (h : ∀ c ∈ a, isPlain c = true) : textValue? a = some a := by
  rw [textValue?, pieces?_of_plain h (Nat.lt_succ_self _), Option.map_some, settle_of_plain h]

theorem text?_of_plain (h : ∀ c ∈ a, isPlain c = true) : text? a = some (.text a) := by
  have hallowed : a.all isAllowed = true := List.all_eq_true.2 fun c hc => (isPlain_iff.1 (h c hc)).1
  have hend : contains [']', ']', '>'] a = false := by
    rw [contains, Option.isSome_eq_false_iff, Option.isNone_iff_eq_none, Option.eq_none_iff_forall_ne_some]
    rintro ⟨body, rest⟩ hbody
    have hbracket : ']' ∈ a := append_of_until? hbody ▸ by simp
    exact (isPlain_iff.1 (h ']' hbracket)).2.2.2 rfl
  rw [text?, hallowed, hend]
  rfl

namespace Part

theorem join_of_plain (ha : ∀ c ∈ a, isPlain c = true) (hb : ∀ c ∈ b, isPlain c = true) : join a b = true := by
  have hab : ∀ c ∈ a ++ b, isPlain c = true := List.forall_mem_append.2 ⟨ha, hb⟩
  rw [join, text?_of_plain hab, textValue?_of_plain hab, textValue?_of_plain ha, textValue?_of_plain hb]
  simp

def IsPlain : Part → Prop
  | text body => ∀ c ∈ body, isPlain c = true
  | _ => True

theorem textsJoin_of_plain {ps : List Part} (h : ∀ p ∈ ps, p.IsPlain) : textsJoin ps = true := by
  induction ps with
  | nil => rfl
  | cons p ps ih =>
    obtain ⟨hp, hps⟩ := List.forall_mem_cons.1 h
    rw [textsJoin, ih hps, Bool.and_true]
    unfold joinsNext
    split
    next body more hmore =>
      have hmerged : ∀ q ∈ merged ps, q.IsPlain :=
        forall_mem_merged (fun _ _ hb hm => List.forall_mem_append.2 ⟨hb, hm⟩) hps
      exact join_of_plain hp (hmerged _ (List.mem_of_head? hmore))
    next => rfl

end Part

/-- Where texts are plain, comments and instructions only part them. -/
theorem asidesPart_of_plain {cs lead : Chars} {parts : List Part} (h : divide? cs = some (lead, parts))
    (hplain : ∀ p ∈ parts, p.IsPlain) : asidesPart cs = true := by
  rw [asidesPart, h]
  exact Part.textsJoin_of_plain fun p hp => hplain p ((Part.withoutAsides_sublist 0 parts).subset hp)

end Plain

end Scenography.Markup
