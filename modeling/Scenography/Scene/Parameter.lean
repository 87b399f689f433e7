import Scenography.Text.Blank

namespace Scenography

inductive ParameterKind
  | string | double | int | boolean
deriving DecidableEq, Repr

namespace ParameterKind

def ofText (raw : String) : ParameterKind :=
  match Text.trim raw with
  | "double" => double
  | "int" => int
  | "integer" => int
  | "unsignedInt" => int
  | "unsignedShort" => int
  | "boolean" => boolean
  | "bool" => boolean
  | _ => string

end ParameterKind

structure Parameter where
  name : String
  kind : ParameterKind
  value : String
deriving DecidableEq, Repr

end Scenography
