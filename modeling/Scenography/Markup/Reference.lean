import Scenography.Number.Reading
import Scenography.Markup.Character

namespace Scenography.Markup

inductive Piece
  | plain (c : Char)
  | given (c : Char)
deriving DecidableEq

def hexValue (c : Char) : Nat :=
  if c.isDigit then c.toNat - 48 else if 'a' ≤ c then c.toNat - 87 else c.toNat - 55

def isHex (c : Char) : Bool :=
  c.isDigit || ('a' ≤ c && c ≤ 'f') || ('A' ≤ c && c ≤ 'F')

def numbered? (digits : List Char) (base : Nat) : Option Char :=
  let n := digits.foldl (fun n c => n * base + hexValue c) 0
  if digits.isEmpty ∨ UInt32.size ≤ n then none
  else
    let c := if n.isValidChar then Char.ofNat n else '\ufffd'
    if isAllowed c then some c else none

def named? (name : List Char) : Option Char :=
  match String.ofList name with
  | "quot" => some '"'
  | "amp" => some '&'
  | "apos" => some '\''
  | "lt" => some '<'
  | "gt" => some '>'
  | _ => none

def reference? (cs : List Char) : Option (Char × List Char) := do
  let (c, rest) ← match cs with
    | '#' :: 'x' :: cs => (numbered? (cs.takeWhile isHex) 16).map (·, cs.dropWhile isHex)
    | '#' :: cs => (numbered? (cs.takeWhile Char.isDigit) 10).map (·, cs.dropWhile Char.isDigit)
    | cs => (named? (cs.takeWhile isNameChar)).map (·, cs.dropWhile isNameChar)
  match rest with
  | ';' :: rest => some (c, rest)
  | _ => none

def pieces? : (fuel : Nat) → List Char → Option (List Piece)
  | 0, _ => none
  | _ + 1, [] => some []
  | fuel + 1, '&' :: cs => do
    let (c, rest) ← reference? cs
    (pieces? fuel rest).map (.given c :: ·)
  | fuel + 1, c :: cs => (pieces? fuel cs).map (.plain c :: ·)

def heldReturn (held : Bool) : List Char :=
  if held then ['\r'] else []

/-- Line ends as line feeds. A plain carriage return is `held` until the plain character after it
turns it, and a line feed after it goes with it; beside a reference characters stay what they are. -/
def settle (held beside : Bool) : List Piece → List Char
  | [] => heldReturn held
  | .given c :: ps =>
    heldReturn held ++ if c = '\r' then settle true true ps else c :: settle false true ps
  | .plain c :: ps =>
    if beside then
      heldReturn held ++ if c = '\r' then settle true false ps else c :: settle false false ps
    else if c = '\r' ∧ ps = [] then (if held then ['\n', '\n'] else ['\n'])
    else
      let before := if held then ['\n'] else []
      before ++
        if c = '\r' then settle true false ps
        else if held ∧ c = '\n' then settle false false ps
        else c :: settle false false ps

def textValue? (raw : List Char) : Option (List Char) :=
  (pieces? (raw.length + 1) raw).map (settle false false)

def cdataValue (raw : List Char) : List Char :=
  settle false false (raw.map .plain)

/-- Each tab and line end is one space, unless a reference gave it. -/
def spaced : List Piece → List Char
  | [] => []
  | .given c :: ps => c :: spaced ps
  | .plain c :: ps =>
    if c = '\r' ∧ ps.head? = some (.plain '\n') then spaced ps
    else (if c = '\r' ∨ c = '\n' ∨ c = '\t' then ' ' else c) :: spaced ps

def attributeValue? (raw : List Char) : Option String :=
  (pieces? (raw.length + 1) raw).map fun ps => String.ofList (spaced ps)

end Scenography.Markup
