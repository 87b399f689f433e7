import Scenography.Number.Text
import Scenography.Json.Value

namespace Scenography.Json

def ofFloat (x : Float) : Json :=
  if x.isFinite then float x else null

def hexLow (n : Nat) : List Char :=
  [Nat.digitChar (n / 16), Nat.digitChar (n % 16)]

def escape (c : Char) : List Char :=
  if c = '"' then ['\\', '"']
  else if c = '\\' then ['\\', '\\']
  else if c.toNat < 0x20 then
    match c.toNat with
    | 8 => ['\\', 'b']
    | 9 => ['\\', 't']
    | 10 => ['\\', 'n']
    | 12 => ['\\', 'f']
    | 13 => ['\\', 'r']
    | n => ['\\', 'u', '0', '0'] ++ hexLow n
  else [c]

def quote (s : String) : String :=
  String.ofList ('"' :: s.toList.flatMap escape ++ ['"'])

def floatText (x : Float) : String :=
  match Binary64.ofFloat? x with
  | some b => Number.jsonText b
  | none => "null"

inductive Layout
  | line
  | block
deriving DecidableEq

def Layout.break (l : Layout) (level : Nat) : String :=
  match l with
  | line => ""
  | block => String.ofList ('\n' :: List.replicate (2 * level) ' ')

def Layout.colon : Layout → String
  | line => ":"
  | block => ": "

def enclose (l : Layout) (level : Nat) (opening closing : String) (parts : List String) : String :=
  if parts.isEmpty then opening ++ closing
  else opening ++ l.break (level + 1) ++ String.intercalate ("," ++ l.break (level + 1)) parts ++
    l.break level ++ closing

mutual

def write (l : Layout) (level : Nat) : Json → String
  | null => "null"
  | bool b => if b then "true" else "false"
  | int i => toString i
  | float x => floatText x
  | str s => quote s
  | arr items => enclose l level "[" "]" (writeItems l (level + 1) items)
  | obj members => enclose l level "\x7b" "\x7d" (writeMembers l (level + 1) members)
  | unusable => "null"

def writeItems (l : Layout) (level : Nat) : List Json → List String
  | [] => []
  | j :: js => write l level j :: writeItems l level js

def writeMembers (l : Layout) (level : Nat) : List (Name × Json) → List String
  | [] => []
  | (name, j) :: ms => (quote name.text ++ l.colon ++ write l level j) :: writeMembers l level ms

end

def compact (j : Json) : String :=
  j.write .line 0

def pretty (j : Json) : String :=
  j.write .block 0

end Scenography.Json
