namespace Scenography

inductive Severity
  | info | warning | error
deriving DecidableEq, Repr

structure Notice where
  severity : Severity
  code : String
  message : String
deriving DecidableEq, Repr

inductive Fault
  | unresolvedParameter (token : String)
  | catalogMiss (kind name : String)
  | unknownCommand (text : String)
  | unsupportedTrigger (condition : String)
  | emptyRoute (owner : String)
  | malformedDocument (reason : String)
deriving DecidableEq, Repr

namespace Fault

def code : Fault → String
  | unresolvedParameter _ => "UNRESOLVED_PARAMETER"
  | catalogMiss _ _ => "CATALOG_MISS"
  | unknownCommand _ => "UNKNOWN_COMMAND"
  | unsupportedTrigger _ => "UNSUPPORTED_TRIGGER"
  | emptyRoute _ => "EMPTY_ROUTE"
  | malformedDocument _ => "MALFORMED_DOCUMENT"

def message : Fault → String
  | unresolvedParameter token => "parameter \"" ++ token ++ "\" is not declared"
  | catalogMiss kind name => kind ++ " catalog has no entry named \"" ++ name ++ "\""
  | unknownCommand text => "custom command kind \"" ++ text ++ "\" is not supported"
  | unsupportedTrigger condition => "condition \"" ++ condition ++ "\" has no supported trigger branch"
  | emptyRoute owner => "route for \"" ++ owner ++ "\" has no waypoints"
  | malformedDocument reason => reason

/-- Only a malformed document ends the work on it. -/
def isRecoverable : Fault → Bool
  | malformedDocument _ => false
  | _ => true

def severity : Fault → Severity
  | catalogMiss _ _ => .info
  | malformedDocument _ => .error
  | _ => .warning

def notice (f : Fault) : Notice :=
  ⟨f.severity, f.code, f.message⟩

end Fault

structure Failure where
  code : String
  message : String
deriving DecidableEq, Repr

namespace Failure

def ofFault (f : Fault) : Failure :=
  ⟨f.code, f.message⟩

def text (f : Failure) : String :=
  f.code ++ ": " ++ f.message

end Failure

structure Journal where
  notices : List Notice := []
deriving DecidableEq, Repr, Inhabited

namespace Journal

def push (j : Journal) (severity : Severity) (code message : String) : Journal :=
  ⟨j.notices ++ [⟨severity, code, message⟩]⟩

def warn (j : Journal) (code message : String) : Journal :=
  j.push .warning code message

def record (j : Journal) (f : Fault) : Journal :=
  ⟨j.notices ++ [f.notice]⟩

def size (j : Journal) : Nat :=
  j.notices.length

def countCode (j : Journal) (code : String) : Nat :=
  j.notices.countP (·.code = code)

def hasCode (j : Journal) (code : String) : Bool :=
  j.notices.any (·.code = code)

end Journal

end Scenography
