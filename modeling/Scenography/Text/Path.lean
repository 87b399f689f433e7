import Scenography.Text.Split

namespace Scenography.Path

def isAbsolute (path : String) : Bool :=
  path.toList.head? = some '/'

def hasNul (path : String) : Bool :=
  path.toList.contains '\x00'

/-- The names on a path; empty ones and `.` lead nowhere. -/
def parts (path : String) : List String :=
  (Text.split '/' path).filter fun part => part ≠ "" && part ≠ "."

def fileName? (path : String) : Option String :=
  (parts path).getLast?.filter (· ≠ "..")

/-- A name up to its last dot and what follows it. A dot in front begins no extension. -/
def cutExtension (name : String) : String × Option String :=
  match Text.cutChars? '.' name.toList.reverse with
  | some (extension, c :: cs) =>
    (String.ofList (c :: cs).reverse, some (String.ofList extension.reverse))
  | _ => (name, none)

def stem? (path : String) : Option String :=
  (fileName? path).map fun name => (cutExtension name).1

def extension? (path : String) : Option String :=
  (fileName? path).bind fun name => (cutExtension name).2

def join (folder name : String) : String :=
  if folder = "" ∨ folder.toList.getLast? = some '/' then folder ++ name else folder ++ "/" ++ name

def notAfter (p q : String) : Bool :=
  !decide (parts q < parts p)

end Scenography.Path
