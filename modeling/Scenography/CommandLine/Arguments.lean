import Scenography.Text.Split

namespace Scenography.CommandLine

structure Arguments where
  input : String
  out : Option String
  config : Option String
  catalog : Option String

inductive Call
  | help
  | misuse
  | lower (a : Arguments)

structure Options where
  input : Option String := none
  out : Option String := none
  config : Option String := none
  catalog : Option String := none

namespace Options

def set? (o : Options) (name value : String) : Option Options :=
  match name with
  | "--input" => if o.input.isSome then none else some { o with input := some value }
  | "--out" => if o.out.isSome then none else some { o with out := some value }
  | "--config" => if o.config.isSome then none else some { o with config := some value }
  | "--catalog" => if o.catalog.isSome then none else some { o with catalog := some value }
  | _ => none

def call (o : Options) : Call :=
  match o.input with
  | some input => .lower { input, out := o.out, config := o.config, catalog := o.catalog }
  | none => .misuse

end Options

def isValue (arg : String) : Bool :=
  arg = "-" || arg.toList.head? ≠ some '-'

def isShortHelp (arg : String) : Bool :=
  arg.toList.take 2 = ['-', 'h']

/-- The options of `lower`, taken one by one; the first that is wrong decides, or a call for help. -/
def readOptions : Options → List String → Call
  | o, [] => o.call
  | o, arg :: args =>
    if arg = "--" then if args.isEmpty then o.call else .misuse
    else if arg = "--help" || isShortHelp arg then .help
    else match Text.cut? '=' arg, args with
      | some (name, value), args =>
        match o.set? name value with
        | some o => readOptions o args
        | none => .misuse
      | none, value :: args =>
        if isValue value then
          match o.set? arg value with
          | some o => readOptions o args
          | none => .misuse
        else .misuse
      | none, [] => .misuse

def Call.read : List String → Call
  | "lower" :: args => readOptions {} args
  | ["help"] => help
  | ["help", "lower"] => help
  | ["help", "help"] => help
  | arg :: _ => if arg = "--help" || isShortHelp arg then help else misuse
  | [] => misuse

end Scenography.CommandLine
