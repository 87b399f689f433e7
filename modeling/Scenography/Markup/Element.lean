import Scenography.Text.Blank
import Scenography.KeyMap

namespace Scenography.Markup

structure Place where
  row : Nat
  column : Nat
deriving DecidableEq, Repr, Inhabited

structure Span where
  start : Place
  stop : Place
deriving DecidableEq, Repr, Inhabited

mutual

inductive Element
  | mk (name : String) (attributes : KeyMap String String) (children : List Node) (span : Span)

inductive Node
  | element (e : Element)
  | text (value : String) (span : Span)

end

namespace Element

def name : Element → String
  | mk name _ _ _ => name

def attributes : Element → KeyMap String String
  | mk _ attributes _ _ => attributes

def children : Element → List Node
  | mk _ _ children _ => children

def span : Element → Span
  | mk _ _ _ span => span

instance : Inhabited Element := ⟨mk "" ∅ [] default⟩

def attr? (e : Element) (name : String) : Option String :=
  e.attributes.get? name

def filledAttr? (e : Element) (name : String) : Option String :=
  (e.attr? name).filter fun value => !Text.allBlank value

def elements (e : Element) : List Element :=
  e.children.filterMap fun
    | .element child => some child
    | .text _ _ => none

def child? (e : Element) (name : String) : Option Element :=
  e.elements.find? (·.name = name)

def childrenNamed (e : Element) (name : String) : List Element :=
  e.elements.filter (·.name = name)

def hasChild (e : Element) (name : String) : Bool :=
  (e.child? name).isSome

def descend? (e : Element) : List String → Option Element
  | [] => some e
  | name :: path => (e.child? name).bind (·.descend? path)

def firstElement? (e : Element) : Option Element :=
  e.elements.head?

def text (e : Element) : String :=
  String.join (e.children.filterMap fun
    | .element _ => none
    | .text value _ => some value)

def properties (e : Element) : List (String × String) :=
  match e.child? "Properties" with
  | none => []
  | some list => (list.childrenNamed "Property").filterMap fun p =>
    match p.attr? "name", p.attr? "value" with
    | some name, some value => some (name, value)
    | _, _ => none

def property? (e : Element) (name : String) : Option String :=
  (e.properties.find? (·.1 = name)).map (·.2)

def describe (e : Element) : String :=
  "<" ++ e.name ++ "> at " ++ toString e.span.start.row ++ ":" ++ toString e.span.start.column

end Element

mutual

def Element.pruned : Element → Element
  | .mk name attributes children span => .mk name attributes (prunedAll children) span

def prunedAll : List Node → List Node
  | [] => []
  | .element e :: ns => .element e.pruned :: prunedAll ns
  | .text value span :: ns => if Text.allBlank value then prunedAll ns else .text value span :: prunedAll ns

end

end Scenography.Markup
