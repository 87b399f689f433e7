import Scenography.Text.Path

namespace Scenography.CommandLine

inductive Trouble
  | missing
  | notFolder
  | isFolder
  | exists
  | tooLong
  | nul
  | other (message : String)
deriving DecidableEq

def Trouble.message : Trouble → String
  | missing => "No such file or directory (os error 2)"
  | notFolder => "Not a directory (os error 20)"
  | isFolder => "Is a directory (os error 21)"
  | «exists» => "File exists (os error 17)"
  | tooLong => "File name too long (os error 36)"
  | nul => "file name contained an unexpected NUL byte"
  | other message => message

structure Location where
  path : String
  isFolder : Bool

inductive Request
  | locate (path : String)
  | scan (folder : String)
  | read (path : String)
  | makeFolder (path : String)
  | write (path text : String)
  | say (line : String)

abbrev Request.Answer : Request → Type
  | locate _ => Except Trouble Location
  | scan _ => Except Trouble (List String)
  | read _ => Except Trouble String
  | makeFolder _ => Except Trouble Unit
  | write _ _ => Except Trouble Unit
  | say _ => Unit

inductive Errand (α : Type)
  | done (a : α)
  | request (r : Request) (next : r.Answer → Errand α)

namespace Errand

variable {α β : Type}

def bind : Errand α → (α → Errand β) → Errand β
  | done a, f => f a
  | request r next, f => request r fun answer => (next answer).bind f

instance : Monad Errand where
  pure := done
  bind := bind

theorem bind_done (p : Errand α) : p.bind done = p := by
  induction p with
  | done a => rfl
  | request r next ih => simp only [bind, ih]

theorem bind_bind {γ : Type} (p : Errand α) (f : α → Errand β) (g : β → Errand γ) :
    (p.bind f).bind g = p.bind fun a => (f a).bind g := by
  induction p with
  | done a => rfl
  | request r next ih => simp only [bind, ih]

instance : LawfulMonad Errand :=
  LawfulMonad.mk' Errand bind_done (fun _ _ => rfl) bind_bind

def runIn {m : Type → Type} [Monad m] (handle : (r : Request) → m r.Answer) : Errand α → m α
  | done a => pure a
  | request r next => handle r >>= fun answer => (next answer).runIn handle

def ask (r : Request) : Errand r.Answer :=
  request r done

def say (line : String) : Errand Unit :=
  ask (.say line)

def makeFolder (path : String) (around : Errand (Except Trouble Unit)) : Errand (Except Trouble Unit) := do
  match ← ask (.makeFolder path) with
  | .error .missing =>
    match ← around with
    | .ok () => ask (.makeFolder path)
    | .error t => return .error t
  | answer => return answer

/-- Makes the folder that names lead to from `lead` on, given the last name first. -/
def makeWay (lead : String) : List String → Errand (Except Trouble Unit)
  | [] => return .ok ()
  | name :: names => makeFolder (lead ++ Text.join "/" (name :: names).reverse) (makeWay lead names)

def makeFolders (path : String) : Errand (Except Trouble Unit) :=
  if path = "" then return .ok ()
  else makeFolder path (makeWay (if Path.isAbsolute path then "/" else "") (Path.parts path).dropLast.reverse)

end Errand

end Scenography.CommandLine
