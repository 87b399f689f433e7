import Scenography.CommandLine.Run

namespace Scenography.CommandLine

/-- The trouble an operating system's error number stands for; some come negated. -/
def troubleOfCode? (code : UInt32) : Option Trouble :=
  match if code < 0x80000000 then code else -code with
  | 2 => some .missing
  | 17 => some .exists
  | 20 => some .notFolder
  | 21 => some .isFolder
  | 36 => some .tooLong
  | _ => none

def troubleOf (e : IO.Error) : Trouble :=
  let known := match e with
    | .noFileOrDirectory _ code _ => troubleOfCode? code
    | .noSuchThing _ code _ => troubleOfCode? code
    | .inappropriateType _ code _ => troubleOfCode? code
    | .alreadyExists _ code _ => troubleOfCode? code
    | .invalidArgument _ code _ => troubleOfCode? code
    | _ => none
  known.getD (.other (toString e))

def guarded {α : Type} (action : IO α) : IO (Except Trouble α) := do
  match ← action.toBaseIO with
  | .ok a => return .ok a
  | .error e => return .error (troubleOf e)

def filesBelow (folder : String) : IO (List String) := do
  let found ← (← IO.FS.realPath folder).walkDir fun path => return (← path.symlinkMetadata).type == .dir
  let files ← found.toList.filterM fun path => return (← path.symlinkMetadata).type == .file
  return files.map (·.toString)

def isFolder (path : String) : IO Bool := do
  try (← IO.FS.realPath path).isDir
  catch _ => return false

def makeFolder (path : String) : IO Unit := do
  try IO.FS.createDir path
  catch e => if ← isFolder path then return else throw e

def guardedAt {α : Type} (path : String) (action : IO α) : IO (Except Trouble α) :=
  if Path.hasNul path then return .error .nul else guarded action

def locateFile (path : String) : IO Location := do
  let real ← try IO.FS.realPath path
    catch e =>
      discard (IO.FS.Handle.mk path .read)
      throw e
  return ⟨real.toString, ← real.isDir⟩

def handleFiles : (r : Request) → IO r.Answer
  | .locate path => guardedAt path (locateFile path)
  | .scan folder => guarded (filesBelow folder)
  | .read path => guardedAt path (IO.FS.readFile path)
  | .makeFolder path => guardedAt path (makeFolder path)
  | .write path text => guardedAt path (IO.FS.writeFile path text)
  | .say line => IO.println line

end Scenography.CommandLine

open Scenography.CommandLine in
def main (args : List String) : IO UInt32 := do
  return (← (Call.read args).run.runIn handleFiles).toUInt32
