namespace Scenography

namespace Json

/-- How the name of a member came: written plainly, written with escapes, or taken in with a record
that was held until its tag was known. -/
inductive Form
  | plain
  | escaped
  | held
deriving DecidableEq

structure Name where
  text : String
  form : Form := .plain
deriving Inhabited

end Json

/-- Objects keep their members in order, repeated names included; a number is an integer if it was
written as one that fits a word. What is well formed but has no value is unusable, and may stand
only where nobody looks: a number past the doubles, half a surrogate pair, nesting that is too deep. -/
inductive Json
  | null
  | bool (b : Bool)
  | int (i : Int)
  | float (x : Float)
  | str (s : String)
  | arr (items : List Json)
  | obj (members : List (Json.Name × Json))
  | unusable
deriving Inhabited

namespace Json

def ofOption {α : Type} (f : α → Json) : Option α → Json
  | some a => f a
  | none => null

def strs (l : List String) : Json :=
  arr (l.map str)

def ofMembers (members : List (String × Json)) : Json :=
  obj (members.map fun m => (⟨m.1, .plain⟩, m.2))

mutual

/-- A value taken in whole, of which every part must be usable. -/
def hold? : Json → Option Json
  | unusable => none
  | arr items => (holdItems? items).map arr
  | obj members => (holdMembers? members).map obj
  | null => some null
  | bool b => some (bool b)
  | int i => some (int i)
  | float x => some (float x)
  | str s => some (str s)

def holdItems? : List Json → Option (List Json)
  | [] => some []
  | j :: js => do some ((← hold? j) :: (← holdItems? js))

def holdMembers? : List (Name × Json) → Option (List (Name × Json))
  | [] => some []
  | (name, j) :: ms => do some ((⟨name.text, .held⟩, ← hold? j) :: (← holdMembers? ms))

end

end Json

end Scenography
