import Scenography.Text.Split
import Scenography.Markup.Character
import Scenography.Markup.Element
/-!
The text of a document cut into parts, and the token each part is.
-/

namespace Scenography.Markup

open Text (after? append_of_after?)

abbrev Chars := List Char

structure QName where
  label : String
  name : String
deriving DecidableEq, Repr, Inhabited

inductive Token
  | opening (name : QName) (attributes : List (QName × Chars)) (closed : Bool)
  | closing (name : QName)
  | text (raw : Chars)
  | cdata (raw : Chars)
  | comment
  | instruction
deriving Inhabited

structure Lexeme where
  token : Token
  span : Span
deriving Inhabited

def Place.step (p : Place) (c : Char) : Place :=
  if c = '\n' then ⟨p.row + 1, 1⟩ else ⟨p.row, p.column + 1⟩

def Place.past (p : Place) (cs : Chars) : Place :=
  cs.foldl Place.step p

def skip (cs : Chars) : Chars :=
  cs.dropWhile isSpace

def until? (word : Chars) : Chars → Option (Chars × Chars)
  | [] => none
  | c :: cs =>
    match after? word (c :: cs) with
    | some rest => some ([], rest)
    | none => (until? word cs).map fun p => (c :: p.1, p.2)

theorem append_of_until? {word cs body rest : Chars} (h : until? word cs = some (body, rest)) :
    body ++ word ++ rest = cs := by
  induction cs generalizing body with
  | nil => simp [until?] at h
  | cons c cs ih =>
    unfold until? at h
    split at h
    next r hr =>
      obtain ⟨rfl, rfl⟩ := Prod.mk.inj (Option.some.inj h)
      exact append_of_after? hr
    next =>
      obtain ⟨⟨b, r⟩, hbr, hp⟩ := Option.map_eq_some_iff.1 h
      obtain ⟨rfl, rfl⟩ := Prod.mk.inj hp
      rw [List.cons_append, List.cons_append, ih hbr]

def contains (word cs : Chars) : Bool :=
  (until? word cs).isSome

/-- What stands before the `>` that ends a tag, and the rest after it; one in quotes ends none. -/
def tagEnd? (quote : Option Char) : Chars → Option (Chars × Chars)
  | [] => none
  | c :: cs =>
    match quote with
    | some q => (tagEnd? (if c = q then none else quote) cs).map fun p => (c :: p.1, p.2)
    | none =>
      if c = '>' then some ([], cs)
      else (tagEnd? (if c = '"' ∨ c = '\'' then some c else none) cs).map fun p => (c :: p.1, p.2)

theorem append_of_tagEnd? {quote : Option Char} {cs body rest : Chars}
    (h : tagEnd? quote cs = some (body, rest)) : body ++ '>' :: rest = cs := by
  induction cs generalizing quote body with
  | nil => simp [tagEnd?] at h
  | cons c cs ih =>
    unfold tagEnd? at h
    split at h
    next =>
      obtain ⟨⟨b, r⟩, hbr, hp⟩ := Option.map_eq_some_iff.1 h
      obtain ⟨rfl, rfl⟩ := Prod.mk.inj hp
      rw [List.cons_append, ih hbr]
    next =>
      split at h
      next hc =>
        obtain ⟨rfl, rfl⟩ := Prod.mk.inj (Option.some.inj h)
        rw [hc, List.nil_append]
      next =>
        obtain ⟨⟨b, r⟩, hbr, hp⟩ := Option.map_eq_some_iff.1 h
        obtain ⟨rfl, rfl⟩ := Prod.mk.inj hp
        rw [List.cons_append, ih hbr]

inductive Enclosure
  | comment | cdata | instruction | closing
deriving DecidableEq

namespace Enclosure

def lead : Enclosure → Chars
  | comment => ['<', '!', '-', '-']
  | cdata => ['<', '!', '[', 'C', 'D', 'A', 'T', 'A', '[']
  | instruction => ['<', '?']
  | closing => ['<', '/']

def tail : Enclosure → Chars
  | comment => ['-', '-', '>']
  | cdata => [']', ']', '>']
  | instruction => ['?', '>']
  | closing => ['>']

def find? (cs : Chars) : Option (Enclosure × Chars) :=
  [comment, cdata, instruction, closing].findSome? fun e => (after? e.lead cs).map (e, ·)

theorem append_of_find? {cs rest : Chars} {e : Enclosure} (h : find? cs = some (e, rest)) :
    e.lead ++ rest = cs := by
  obtain ⟨d, _, hd⟩ := List.exists_of_findSome?_eq_some h
  obtain ⟨r, hr, hp⟩ := Option.map_eq_some_iff.1 hd
  obtain ⟨rfl, rfl⟩ := Prod.mk.inj hp
  exact append_of_after? hr

end Enclosure

inductive Part
  | enclosed (e : Enclosure) (body : Chars)
  | opening (body : Chars)
  | text (body : Chars)
deriving DecidableEq

namespace Part

def raw : Part → Chars
  | enclosed e body => e.lead ++ body ++ e.tail
  | opening body => '<' :: body ++ ['>']
  | text body => body

/-- The first part of a text. Other declarations than CDATA are none. -/
def first? (cs : Chars) : Option (Part × Chars) :=
  match Enclosure.find? cs with
  | some (e, rest) => (until? e.tail rest).map fun p => (enclosed e p.1, p.2)
  | none =>
    match cs with
    | '<' :: rest =>
      if rest.head? = some '!' then none else (tagEnd? none rest).map fun p => (opening p.1, p.2)
    | _ => some (text (cs.takeWhile (· ≠ '<')), cs.dropWhile (· ≠ '<'))

theorem raw_append_of_first? {cs rest : Chars} {part : Part} (h : first? cs = some (part, rest)) :
    part.raw ++ rest = cs := by
  unfold first? at h
  split at h
  next e r he =>
    obtain ⟨⟨b, q⟩, hbq, hp⟩ := Option.map_eq_some_iff.1 h
    obtain ⟨rfl, rfl⟩ := Prod.mk.inj hp
    rw [← Enclosure.append_of_find? he, ← append_of_until? hbq]
    simp only [raw, List.append_assoc]
  next =>
    split at h
    next r =>
      split at h
      next => simp at h
      next =>
        obtain ⟨⟨b, q⟩, hbq, hp⟩ := Option.map_eq_some_iff.1 h
        obtain ⟨rfl, rfl⟩ := Prod.mk.inj hp
        rw [← append_of_tagEnd? hbq]
        simp [raw]
    next =>
      obtain ⟨rfl, rfl⟩ := Prod.mk.inj (Option.some.inj h)
      exact List.takeWhile_append_dropWhile

def all? : (fuel : Nat) → Chars → Option (List Part)
  | 0, _ => none
  | _ + 1, [] => some []
  | fuel + 1, cs => do
    let (part, rest) ← first? cs
    (all? fuel rest).map (part :: ·)

theorem flatMap_raw_of_all? {fuel : Nat} {cs : Chars} {parts : List Part} (h : all? fuel cs = some parts) :
    parts.flatMap raw = cs := by
  induction fuel generalizing cs parts with
  | zero => simp [all?] at h
  | succ fuel ih =>
    cases cs with
    | nil =>
      obtain rfl := Option.some.inj h
      rfl
    | cons c cs =>
      obtain ⟨⟨p, r⟩, hpr, h⟩ := Option.bind_eq_some_iff.1 h
      obtain ⟨ps, hps, rfl⟩ := Option.map_eq_some_iff.1 h
      rw [List.flatMap_cons, ih hps, raw_append_of_first? hpr]

end Part

def startsName : Chars → Bool
  | [] => false
  | c :: _ => isNameStart c

def qname? (cs : Chars) : Option (QName × Chars) :=
  let run := cs.takeWhile isNameChar
  let rest := cs.dropWhile isNameChar
  match Text.splitChars ':' run with
  | [name] => if startsName name then some (⟨"", String.ofList name⟩, rest) else none
  | [label, name] =>
    if (label.isEmpty || startsName label) && startsName name
    then some (⟨String.ofList label, String.ofList name⟩, rest)
    else none
  | _ => none

def equals? (cs : Chars) : Option Chars :=
  (after? ['='] (skip cs)).map skip

def value? : Chars → Option (Chars × Chars)
  | [] => none
  | q :: cs =>
    if q = '"' ∨ q = '\'' then
      let value := cs.takeWhile fun c => c ≠ q && c ≠ '<'
      match cs.dropWhile fun c => c ≠ q && c ≠ '<' with
      | c :: rest => if c = q ∧ value.all isAllowed then some (value, rest) else none
      | [] => none
    else none

def attribute? (cs : Chars) : Option ((QName × Chars) × Chars) := do
  let (name, rest) ← qname? cs
  let (value, rest) ← value? (← equals? rest)
  some ((name, value), rest)

/-- The attributes in an opening tag, each after a space, and whether the tag closes itself. -/
def attributes? : (fuel : Nat) → Chars → Option (List (QName × Chars) × Bool)
  | 0, _ => none
  | fuel + 1, cs =>
    match skip cs with
    | ['/'] => some ([], true)
    | [] => some ([], false)
    | rest =>
      if cs.head?.any isSpace then do
        let (a, rest) ← attribute? rest
        let (more, closed) ← attributes? fuel rest
        some (a :: more, closed)
      else none

def opening? (body : Chars) : Option Token := do
  let (name, rest) ← qname? body
  let (attributes, closed) ← attributes? (rest.length + 1) rest
  some (.opening name attributes closed)

def closing? (body : Chars) : Option Token := do
  let (name, rest) ← qname? body
  if (skip rest).isEmpty then some (.closing name) else none

def comment? (body : Chars) : Option Token :=
  if body.all isAllowed && !contains ['-', '-'] body && body.getLast? ≠ some '-' then some .comment else none

def cdata? (body : Chars) : Option Token :=
  if body.all isAllowed then some (.cdata body) else none

def instruction? (body : Chars) : Option Token :=
  if (after? ['x', 'm', 'l', ' '] body).isNone && startsName body && body.all isAllowed
  then some .instruction
  else none

def text? (body : Chars) : Option Token :=
  if body.all isAllowed && !contains [']', ']', '>'] body then some (.text body) else none

def Part.token? : Part → Option Token
  | enclosed .comment body => comment? body
  | enclosed .cdata body => cdata? body
  | enclosed .instruction body => instruction? body
  | enclosed .closing body => closing? body
  | opening body => opening? body
  | text body => text? body

def lexemes? : Place → List Part → Option (List Lexeme)
  | _, [] => some []
  | place, part :: parts => do
    let token ← part.token?
    let stop := place.past part.raw
    (lexemes? stop parts).map (⟨token, ⟨place, stop⟩⟩ :: ·)

end Scenography.Markup
