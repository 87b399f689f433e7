import Scenography.KeyMap
import Scenography.Json.Reading
import Scenography.Json.Writing

namespace Scenography

class Coded (α : Type) where
  encode : α → Json
  decode? : Json → Option α
  /-- What a member left out of a record stands for. -/
  absent? : Option α := none

class CodedKey (κ : Type) where
  write : κ → String
  read? : Json.Name → Option κ

namespace Json

open Coded

section Records

def field? {α : Type} [Coded α] : Option Json → Option α
  | none => absent?
  | some j => decode? j

def fieldOr {α : Type} [Coded α] (a : α) : Option Json → Option α
  | none => some a
  | some j => decode? j

def member? (members : List (Name × Json)) (name : String) : Option (Option Json) :=
  match members.filter (·.1.text = name) with
  | [] => some none
  | [m] => some (some m.2)
  | _ => none

/-- The members of the given names. A list stands for a record by the order of the names, and may
stop short once it has `least` items. -/
def recordFrom? (least : Nat) (names : List String) : Json → Option (List (Option Json))
  | obj members => names.mapM (member? members)
  | arr items =>
    if least ≤ items.length ∧ items.length ≤ names.length then
      some (items.map some ++ List.replicate (names.length - items.length) none)
    else none
  | _ => none

def record? (names : List String) : Json → Option (List (Option Json)) :=
  recordFrom? names.length names

def record (names : List String) (values : List Json) : Json :=
  ofMembers (names.zip values)

end Records

section Choices

def choiceName? : Json → Option String
  | str s => some s
  | obj [(name, null)] => some name.text
  | obj [(name, obj [])] => if name.form = .held then some name.text else none
  | _ => none

def choose? {α : Type} (all : List α) (name : α → String) (j : Json) : Option α :=
  (choiceName? j).bind fun s => all.find? (name · = s)

def tagged (tag name : String) : Json → Json
  | obj members => obj ((⟨tag, .plain⟩, str name) :: members)
  | j => j

/-- The tag of a record and the rest of it, which is held until the tag is known. -/
def split? (tag : String) : Json → Option (Json × Json)
  | obj members => do
    let name ← ← member? members tag
    (hold? (obj (members.filter (·.1.text ≠ tag)))).map (name, ·)
  | arr (name :: items) => (hold? (arr items)).map (name, ·)
  | _ => none

def tag? (tag : String) (j : Json) : Option (String × Json) :=
  match split? tag j with
  | some (str name, rest) => some (name, rest)
  | _ => none

/-- As `tag?`, where the tag may also be given by its number among the names. -/
def tagAmong? (tag : String) (names : List String) (j : Json) : Option (String × Json) :=
  match split? tag j with
  | some (str name, rest) => some (name, rest)
  | some (int i, rest) => if 0 ≤ i then names[i.toNat]?.map (·, rest) else none
  | _ => none

def bare? : Json → Option Unit
  | obj _ => some ()
  | arr [] => some ()
  | _ => none

end Choices

end Json

open Json

namespace Coded

instance : Coded String where
  encode := str
  decode?
    | str s => some s
    | _ => none

instance : Coded Bool where
  encode := Json.bool
  decode?
    | .bool b => some b
    | _ => none

instance : Coded Nat where
  encode n := int n
  decode?
    | int i => if 0 ≤ i ∧ i < UInt32.size then some i.toNat else none
    | _ => none

instance : Coded UInt64 where
  encode n := int n.toNat
  decode?
    | int i => if 0 ≤ i ∧ i < UInt64.size then some (UInt64.ofNat i.toNat) else none
    | _ => none

instance : Coded Int64 where
  encode i := int i.toInt
  decode?
    | int i =>
      if Int64.minValue.toInt ≤ i ∧ i ≤ Int64.maxValue.toInt then some (Int64.ofInt i) else none
    | _ => none

instance : Coded Float where
  encode := ofFloat
  decode?
    | float x => some x
    | int i => some (Float.ofInt i)
    | _ => none

instance {α : Type} [Coded α] : Coded (Option α) where
  encode := ofOption encode
  decode?
    | null => some none
    | j => (decode? j).map some
  absent? := some none

instance {α : Type} [Coded α] : Coded (List α) where
  encode l := arr (l.map encode)
  decode?
    | arr items => items.mapM decode?
    | _ => none

instance {κ α : Type} [Key κ] [CodedKey κ] [Coded α] : Coded (KeyMap κ α) where
  encode m := ofMembers (m.entries.map fun e => (CodedKey.write e.1, encode e.2))
  decode?
    | obj members => do
      let entries ← members.mapM fun m => do some ((← CodedKey.read? m.1), (← decode? m.2))
      some (KeyMap.ofList entries)
    | _ => none

end Coded

namespace CodedKey

def integer? (name : Name) : Option Int :=
  match name.form, number? name.text.toList with
  | .plain, some (int i, []) => some i
  | _, _ => none

instance : CodedKey String where
  write s := s
  read? name := some name.text

instance : CodedKey Nat where
  write n := toString n
  read? name := (integer? name).bind fun i => Coded.decode? (int i)

instance : CodedKey Int64 where
  write i := toString i.toInt
  read? name := (integer? name).bind fun i => Coded.decode? (int i)

end CodedKey

end Scenography
