import Scenography.Number.Reading
import Scenography.Json.Value
import Scenography.Text.Split

namespace Scenography.Json

open Number (leadDigits leadSign ofDecimal)
open Text (after?)

abbrev Chars := List Char

def isSpace (c : Char) : Bool :=
  c = ' ' || c = '\n' || c = '\t' || c = '\r'

def skip (cs : Chars) : Chars :=
  cs.dropWhile isSpace

def hexDigit? (c : Char) : Option Nat :=
  if c.isDigit then some (c.toNat - 48)
  else if 'a' ≤ c ∧ c ≤ 'f' then some (c.toNat - 87)
  else if 'A' ≤ c ∧ c ≤ 'F' then some (c.toNat - 55)
  else none

def hex4? : Chars → Option (Nat × Chars)
  | a :: b :: c :: d :: cs => do
    let a ← hexDigit? a
    let b ← hexDigit? b
    let c ← hexDigit? c
    let d ← hexDigit? d
    some (((a * 16 + b) * 16 + c) * 16 + d, cs)
  | _ => none

/-- A character of a string; none for half a surrogate pair, which only an escape can write. -/
structure Glyph where
  char? : Option Char
  isEscape : Bool

def unit? (cs : Chars) : Option (Option Char × Chars) := do
  let (n, rest) ← hex4? cs
  if 0xdc00 ≤ n ∧ n ≤ 0xdfff then some (none, rest)
  else if 0xd800 ≤ n ∧ n ≤ 0xdbff then
    match rest with
    | '\\' :: 'u' :: cs =>
      let (m, past) ← hex4? cs
      if 0xdc00 ≤ m ∧ m ≤ 0xdfff then
        some (some (Char.ofNat (0x10000 + (n - 0xd800) * 0x400 + (m - 0xdc00))), past)
      else some (none, rest)
    | _ => some (none, rest)
  else some (some (Char.ofNat n), rest)

def plainEscape? (c : Char) : Option Char :=
  match c with
  | '"' => some '"'
  | '\\' => some '\\'
  | '/' => some '/'
  | 'b' => some '\x08'
  | 'f' => some '\x0c'
  | 'n' => some '\n'
  | 'r' => some '\r'
  | 't' => some '\t'
  | _ => none

def quoted? : (fuel : Nat) → Chars → Option (List Glyph × Chars)
  | 0, _ => none
  | _ + 1, [] => none
  | _ + 1, '"' :: cs => some ([], cs)
  | fuel + 1, '\\' :: cs =>
    match cs with
    | 'u' :: cs => do
      let (c, rest) ← unit? cs
      let (body, rest) ← quoted? fuel rest
      some (⟨c, true⟩ :: body, rest)
    | c :: cs => do
      let c ← plainEscape? c
      let (body, rest) ← quoted? fuel cs
      some (⟨some c, true⟩ :: body, rest)
    | [] => none
  | fuel + 1, c :: cs =>
    if c.toNat < 0x20 then none
    else do
      let (body, rest) ← quoted? fuel cs
      some (⟨some c, false⟩ :: body, rest)

def text? (glyphs : List Glyph) : Option String :=
  (glyphs.mapM Glyph.char?).map String.ofList

def name? (glyphs : List Glyph) : Option Name :=
  (text? glyphs).map fun text => ⟨text, if glyphs.any (·.isEscape) then .escaped else .plain⟩

def whole? (cs : Chars) : Option (Nat × Chars) :=
  match cs with
  | '0' :: rest =>
    match rest with
    | c :: _ => if c.isDigit then none else some (0, rest)
    | [] => some (0, rest)
  | _ =>
    match leadDigits 0 0 cs with
    | (_, 0, _) => none
    | (n, _, rest) => some (n, rest)

def fraction? (n : Nat) : Chars → Option (Nat × Option Nat × Chars)
  | '.' :: cs =>
    match leadDigits n 0 cs with
    | (_, 0, _) => none
    | (m, places, rest) => some (m, some places, rest)
  | cs => some (n, none, cs)

def power? : Chars → Option (Option Int × Chars)
  | c :: cs =>
    if c = 'e' ∨ c = 'E' then
      let (negative, ds) := leadSign cs
      match leadDigits 0 0 ds with
      | (_, 0, _) => none
      | (n, _, rest) => some (some (if negative then -n else n), rest)
    else some (none, c :: cs)
  | [] => some (none, [])

def double (negative : Bool) (coefficient : Nat) (exponent : Int) : Json :=
  let x := ofDecimal coefficient exponent
  if x.isFinite then float (if negative then -x else x) else unusable

/-- An integer stays one while it fits a word; negative zero and wider ones are doubles. -/
def integer (negative : Bool) (n : Nat) : Json :=
  if negative then
    if n = 0 ∨ Int64.minValue.toInt.natAbs < n then double true n 0 else int (-n)
  else if n < UInt64.size then int n else double false n 0

def number? (cs : Chars) : Option (Json × Chars) := do
  let (negative, cs) := match cs with
    | '-' :: cs => (true, cs)
    | cs => (false, cs)
  let (n, rest) ← whole? cs
  let (m, places, rest) ← fraction? n rest
  let (power, rest) ← power? rest
  match places, power with
  | none, none => some (integer negative n, rest)
  | places, power => some (double negative m (power.getD 0 - places.getD 0), rest)

/-- Beyond the last level of nesting no list or object is usable. -/
def within (depth : Nat) (j : Json) : Json :=
  if depth = 0 then unusable else j

def object (members : List (Option Name × Json)) : Json :=
  match members.mapM fun m => m.1.map (·, m.2) with
  | some members => obj members
  | none => unusable

mutual

def value? : (fuel depth : Nat) → Chars → Option (Json × Chars)
  | 0, _, _ => none
  | fuel + 1, depth, cs =>
    match cs with
    | '"' :: cs => (quoted? fuel cs).map fun p => (((text? p.1).map str).getD unusable, p.2)
    | '[' :: cs =>
      match skip cs with
      | ']' :: rest => some (within depth (arr []), rest)
      | cs => (items? fuel (depth - 1) cs).map fun p => (within depth (arr p.1), p.2)
    | '{' :: cs =>
      match skip cs with
      | '}' :: rest => some (within depth (obj []), rest)
      | cs => (members? fuel (depth - 1) cs).map fun p => (within depth (object p.1), p.2)
    | 'n' :: cs => (after? ['u', 'l', 'l'] cs).map (null, ·)
    | 't' :: cs => (after? ['r', 'u', 'e'] cs).map (bool true, ·)
    | 'f' :: cs => (after? ['a', 'l', 's', 'e'] cs).map (bool false, ·)
    | cs => number? cs

def items? : (fuel depth : Nat) → Chars → Option (List Json × Chars)
  | 0, _, _ => none
  | fuel + 1, depth, cs => do
    let (v, rest) ← value? fuel depth (skip cs)
    match skip rest with
    | ']' :: rest => some ([v], rest)
    | ',' :: rest =>
      let (vs, rest) ← items? fuel depth rest
      some (v :: vs, rest)
    | _ => none

def members? : (fuel depth : Nat) → Chars → Option (List (Option Name × Json) × Chars)
  | 0, _, _ => none
  | fuel + 1, depth, cs =>
    match skip cs with
    | '"' :: cs => do
      let (glyphs, rest) ← quoted? fuel cs
      match skip rest with
      | ':' :: rest =>
        let (v, rest) ← value? fuel depth (skip rest)
        match skip rest with
        | '}' :: rest => some ([(name? glyphs, v)], rest)
        | ',' :: rest =>
          let (vs, rest) ← members? fuel depth rest
          some ((name? glyphs, v) :: vs, rest)
        | _ => none
      | _ => none
    | _ => none

end

def maxDepth : Nat := 127

def read? (s : String) : Option Json := do
  let cs := s.toList
  let (v, rest) ← value? (cs.length + 1) maxDepth (skip cs)
  if (skip rest).isEmpty then some v else none

end Scenography.Json
