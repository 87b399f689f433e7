import Scenography.Journal
import Scenography.Markup.Element
import Scenography.Number.Authored
import Scenography.Scene.Parameter
import Scenography.Text.Split

namespace Scenography

/-- Parameters in the order of their first declaration; none is added once locked. -/
structure Parameters where
  declared : List Parameter := []
  locked : Bool := false
deriving Inhabited

namespace Parameters

def sigil : Char := '$'

def bareName (name : String) : String :=
  Text.dropLead sigil name

def find? (name : String) (l : List Parameter) : Option Parameter :=
  l.find? (·.name = name)

def put (p : Parameter) : List Parameter → List Parameter
  | [] => [p]
  | q :: qs => if q.name = p.name then p :: qs else q :: put p qs

def declare (ps : Parameters) (name : String) (kind : ParameterKind) (value : String) : Parameters :=
  if ps.locked then ps else { ps with declared := put ⟨bareName name, kind, value⟩ ps.declared }

def declareElement (ps : Parameters) (e : Markup.Element) : Parameters :=
  match e.filledAttr? "name" with
  | none => ps
  | some name => ps.declare name (.ofText ((e.attr? "parameterType").getD "string")) ((e.attr? "value").getD "")

def declareAll (ps : Parameters) (e : Markup.Element) : Parameters :=
  (e.childrenNamed "ParameterDeclaration").foldl declareElement ps

def ofDeclarations (e : Option Markup.Element) : Parameters :=
  match e with
  | some e => declareAll {} e
  | none => {}

def lock (ps : Parameters) : Parameters :=
  { ps with locked := true }

def get? (ps : Parameters) (name : String) : Option Parameter :=
  find? (bareName name) ps.declared

def reference? (token : String) : Option String :=
  match token.toList with
  | c :: cs => if c = sigil then some (String.ofList cs) else none
  | [] => none

/-- The value a token names; without a sigil it is its own value. -/
def resolve (ps : Parameters) (token : String) : Except Fault String :=
  match reference? token with
  | none => .ok token
  | some name =>
    match find? name ps.declared with
    | some p => .ok p.value
    | none => .error (.unresolvedParameter token)

def resolveOrKeep (ps : Parameters) (token : String) : String × Option Fault :=
  match ps.resolve token with
  | .ok value => (value, none)
  | .error f => (token, some f)

def size (ps : Parameters) : Nat :=
  ps.declared.length

end Parameters

end Scenography
