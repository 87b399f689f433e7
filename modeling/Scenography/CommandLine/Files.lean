import Scenography.CommandLine.Errand
import Scenography.KeyMap
import Scenography.Text.Path

namespace Scenography

instance : Key (List String) where
  decideLt := fun _ _ => inferInstance
  trans := List.lt_trans
  irrefl := List.lt_irrefl
  total := fun h k => List.le_antisymm (List.not_lt.1 k) (List.not_lt.1 h)

namespace CommandLine

inductive Item
  | folder
  | file (text : String)

/-- Folders and files by the names that lead to them from the root, what was said, and the folder
that paths without a slash in front start from. -/
structure Files where
  items : KeyMap (List String) Item := ∅
  home : List String := []
  said : List String := []

namespace Files

def item? (f : Files) (place : List String) : Option Item :=
  if place.isEmpty then some .folder else f.items.get? place

def isFolder (f : Files) (place : List String) : Bool :=
  match f.item? place with
  | some .folder => true
  | _ => false

def start (f : Files) (path : String) : List String :=
  if Path.isAbsolute path then [] else f.home

def nameLimit : Nat := 255

def pathLimit : Nat := 4096

def look (f : Files) (folder : List String) (name : String) : Except Trouble (Option Item) :=
  if !f.isFolder folder then .error .notFolder
  else if nameLimit < name.utf8ByteSize then .error .tooLong
  else .ok (f.item? (folder ++ [name]))

def follow (f : Files) : List String → List String → Except Trouble (List String)
  | place, [] => .ok place
  | place, name :: names =>
    if name = "" || name = "." || name = ".." then
      if !f.isFolder place then .error .notFolder
      else f.follow (if name = ".." then place.dropLast else place) names
    else do
      match ← f.look place name with
      | some _ => f.follow (place ++ [name]) names
      | none => .error .missing

def reach (f : Files) (path : String) : Except Trouble (List String) :=
  if Path.hasNul path then .error .nul
  else if path = "" then .error .missing
  else f.follow (f.start path) (Text.split '/' path)

def check (path : String) : Except Trouble Unit :=
  if Path.hasNul path then .error .nul
  else if pathLimit ≤ path.utf8ByteSize then .error .tooLong
  else .ok ()

def pathOf (place : List String) : String :=
  "/" ++ Text.join "/" place

def locate (f : Files) (path : String) : Except Trouble Location := do
  let place ← f.reach path
  return ⟨pathOf place, f.isFolder place⟩

def scan (f : Files) (folder : String) : Except Trouble (List String) := do
  let place ← f.reach folder
  return f.items.entries.filterMap fun e =>
    match e.2 with
    | .file _ => if place.isPrefixOf e.1 then some (pathOf e.1) else none
    | .folder => none

def read (f : Files) (path : String) : Except Trouble String := do
  check path
  let place ← f.reach path
  match f.item? place with
  | some (.file text) => return text
  | some .folder => throw .isFolder
  | none => throw .missing

def lastOf (f : Files) (path : String) : List String → Except Trouble (List String × String)
  | [] => .error .missing
  | name :: names => do return (← f.follow (f.start path) names.reverse, name)

def makeFolder (f : Files) (path : String) : Except Trouble Files := do
  check path
  let names := (Text.split '/' path).reverse.dropWhile (· = "")
  if names.isEmpty && path ≠ "" then return f
  else
    let (folder, name) ← f.lastOf path names
    match ← f.look folder name with
    | some (.file _) => throw .exists
    | some .folder => return f
    | none =>
      if name = "." || name = ".." then return f
      else return { f with items := f.items.insert (folder ++ [name]) .folder }

/-- Writes over a file that is there; a folder stays. -/
def write (f : Files) (path text : String) : Except Trouble Files := do
  check path
  let (folder, name) ← f.lastOf path (Text.split '/' path).reverse
  if name = "" || name = "." || name = ".." then throw .isFolder
  else match ← f.look folder name with
    | some .folder => throw .isFolder
    | _ => return { f with items := f.items.insert (folder ++ [name]) (.file text) }

def change (r : Except Trouble Files) : StateM Files (Except Trouble Unit) :=
  fun f => match r with
    | .ok g => (.ok (), g)
    | .error t => (.error t, f)

def handle : (r : Request) → StateM Files r.Answer
  | .locate path => fun f => (f.locate path, f)
  | .scan folder => fun f => (f.scan folder, f)
  | .read path => fun f => (f.read path, f)
  | .makeFolder path => fun f => change (f.makeFolder path) f
  | .write path text => fun f => change (f.write path text) f
  | .say line => fun f => ((), { f with said := f.said ++ [line] })

end Files

end CommandLine

end Scenography
