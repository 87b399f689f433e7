import Scenography.Markup.Reference
import Scenography.Markup.Token

namespace Scenography.Markup

open Text (after?)

abbrev Scope := List (String × String)

def xmlSpace : String := "http://www.w3.org/XML/1998/namespace"

def xmlnsSpace : String := "http://www.w3.org/2000/xmlns/"

structure Attribute where
  name : QName
  value : String

structure Sorted where
  declared : Scope := []
  attributes : List Attribute := []

/-- Takes up one attribute. The two reserved namespaces keep their labels, and no label is declared
twice on one element. -/
def Sorted.add? (s : Sorted) (name : QName) (value : String) : Option Sorted :=
  if name.label = "xmlns" then
    if value = xmlnsSpace then none
    else if (name.name = "xml") != (value = xmlSpace) then none
    else if s.declared.any (·.1 = name.name) then none
    else if value = xmlSpace then some s
    else some { s with declared := s.declared ++ [(name.name, value)] }
  else if name.name = "xmlns" then
    if value = xmlSpace ∨ value = xmlnsSpace then none else some s
  else some { s with attributes := s.attributes ++ [⟨name, value⟩] }

def sortAttributes? : Sorted → List (QName × Chars) → Option Sorted
  | s, [] => some s
  | s, (name, raw) :: more => do
    let value ← attributeValue? raw
    sortAttributes? (← s.add? name value) more

def space? (scope : Scope) (label : String) : Option (Option String) :=
  if label = "" then some none
  else if label = "xml" then some (some xmlSpace)
  else ((scope.find? (·.1 = label)).map (·.2)).map some

/-- Attributes by local name, the last one of a name winning; no two may agree in name and
namespace. -/
def attributeMap? (scope : Scope) (l : List Attribute) : Option (KeyMap String String) := do
  let named ← l.mapM fun a => (space? scope a.name.label).map fun space => (space, a.name.name)
  if named.Nodup then some (KeyMap.ofList (l.map fun a => (a.name.name, a.value))) else none

/-- An element whose closing tag is still to come; its children are the nearest first. -/
structure Frame where
  name : QName
  attributes : KeyMap String String
  scope : Scope
  start : Place
  children : List Node
  pending : Option (Chars × Span)

namespace Frame

def ofOpening? (outer : Scope) (start : Place) (name : QName) (raw : List (QName × Chars)) :
    Option Frame := do
  let sorted ← sortAttributes? {} raw
  let scope := sorted.declared ++ outer
  let attributes ← attributeMap? scope sorted.attributes
  if name.label ≠ "xmlns" ∧ (name.label = "" ∨ scope.any (·.1 = name.label))
  then some ⟨name, attributes, scope, start, [], none⟩
  else none

def flush (f : Frame) : Frame :=
  match f.pending with
  | none => f
  | some (cs, span) => { f with children := .text (String.ofList cs) span :: f.children, pending := none }

def addText (f : Frame) (cs : Chars) (span : Span) : Frame :=
  match f.pending with
  | none => { f with pending := some (cs, span) }
  | some (before, first) => { f with pending := some (before ++ cs, first) }

def addElement (f : Frame) (e : Element) : Frame :=
  let f := f.flush
  { f with children := .element e :: f.children }

def finish (f : Frame) (stop : Place) : Element :=
  .mk f.name.name f.attributes f.flush.children.reverse ⟨f.start, stop⟩

end Frame

/-- Elements not closed yet, innermost first, and the root once it is closed. -/
structure Partway where
  stack : List Frame := []
  root : Option Element := none

namespace Partway

def addElement (p : Partway) (e : Element) : Partway :=
  match p.stack with
  | [] => { p with root := some e }
  | f :: fs => { p with stack := f.addElement e :: fs }

def scope (p : Partway) : Scope :=
  match p.stack with
  | [] => []
  | f :: _ => f.scope

def open? (p : Partway) (span : Span) (name : QName) (raw : List (QName × Chars)) (closed : Bool) :
    Option Partway := do
  if p.stack.isEmpty && p.root.isSome then none
  else
    let f ← Frame.ofOpening? p.scope span.start name raw
    if closed then some (p.addElement (f.finish span.stop))
    else some { p with stack := f :: p.stack }

def close? (p : Partway) (span : Span) (name : QName) : Option Partway :=
  match p.stack with
  | [] => none
  | f :: fs => if f.name = name then some ({ p with stack := fs }.addElement (f.finish span.stop)) else none

def text? (p : Partway) (span : Span) (raw : Chars) : Option Partway :=
  match p.stack with
  | [] => if raw.all isSpace then some p else none
  | f :: fs => (textValue? raw).map fun cs => { p with stack := f.addText cs span :: fs }

def cdata? (p : Partway) (span : Span) (raw : Chars) : Option Partway :=
  match p.stack with
  | [] => none
  | f :: fs => some { p with stack := f.addText (cdataValue raw) span :: fs }

/-- Comments and instructions part the text around them. -/
def aside (p : Partway) : Partway :=
  match p.stack with
  | [] => p
  | f :: fs => { p with stack := f.flush :: fs }

def add? (p : Partway) (l : Lexeme) : Option Partway :=
  match l.token with
  | .opening name attributes closed => p.open? l.span name attributes closed
  | .closing name => p.close? l.span name
  | .text raw => p.text? l.span raw
  | .cdata raw => p.cdata? l.span raw
  | .comment => some p.aside
  | .instruction => some p.aside

end Partway

def addAll? : Partway → List Lexeme → Option Partway
  | p, [] => some p
  | p, l :: ls => (p.add? l).bind (addAll? · ls)

def root? (tokens : List Lexeme) : Option Element := do
  let p ← addAll? {} tokens
  if p.stack.isEmpty then p.root else none

def declarationGap? (cs : Chars) : Option Chars :=
  match cs with
  | [] => some []
  | c :: _ => if isSpace c then some (skip cs) else if cs = ['?'] then some cs else none

def setting? (name : String) (cs : Chars) : Option Chars :=
  match after? name.toList cs with
  | some _ => (attribute? cs).bind fun p => declarationGap? p.2
  | none => some cs

def declaration? (body : Chars) : Option Chars := do
  let cs := skip body
  let _ ← after? "version".toList cs
  let (_, rest) ← attribute? cs
  let rest ← declarationGap? rest
  let rest ← setting? "encoding" rest
  let rest ← setting? "standalone" rest
  after? ['?'] (skip rest)

def unmark : Chars → Chars × Chars
  | [] => ([], [])
  | c :: cs => if c.toNat = 0xfeff then ([c], cs) else ([], c :: cs)

def undeclare? (cs : Chars) : Option (Chars × Chars) :=
  match after? "<?xml ".toList cs with
  | none => some ([], cs)
  | some after => do
    let (body, rest) ← tagEnd? none after
    if declaration? body = some [] then some ("<?xml ".toList ++ body ++ ['>'], rest) else none

def divide? (cs : Chars) : Option (Chars × List Part) := do
  let (mark, cs) := unmark cs
  let (declaration, rest) ← undeclare? cs
  some (mark ++ declaration, ← Part.all? (rest.length + 1) rest)

/-- The root element of a document, with all its text. A byte order mark counts as a column. -/
def document? (cs : Chars) : Option Element := do
  let (lead, parts) ← divide? cs
  root? (← lexemes? (Place.past ⟨1, 1⟩ lead) parts)

def read? (source : String) : Option Element :=
  (document? source.toList).map Element.pruned

end Scenography.Markup
