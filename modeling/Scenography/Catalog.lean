import Scenography.Journal
import Scenography.Markup.Document
import Scenography.Scene.Coding.Entity
import Scenography.Settings

namespace Scenography

structure CatalogEntry where
  type : String
  performance : Option Performance
  box : Option Box

structure Catalog where
  entry? : CatalogKind → (name : String) → (dir : Option String) → Option CatalogEntry
  maneuver? : String → Option Markup.Element
  route? : String → Option Markup.Element
  trajectory? : String → Option Markup.Element
  environment? : String → Option Markup.Element

structure Resolution where
  type : String
  entry : Option CatalogEntry

namespace Catalog

def empty : Catalog where
  entry? _ _ _ := none
  maneuver? _ := none
  route? _ := none
  trajectory? _ := none
  environment? _ := none

/-- An entry of the name, else a type of that name, else what the settings make of it; the last is
a fault that is overcome. -/
def resolve (c : Catalog) (s : Settings) (kind : CatalogKind) (name : String) :
    Resolution × Option Fault :=
  match c.entry? kind name s.catalogDir with
  | some entry => (⟨entry.type, some entry⟩, none)
  | none =>
    if s.isKnownType kind name then (⟨name, none⟩, none)
    else
      let type := s.matchName kind name
      (⟨type, c.entry? kind type s.catalogDir⟩, some (.catalogMiss kind.label name))

end Catalog

structure Shelf where
  entries : ByKind (KeyMap String CatalogEntry)
  maneuvers : KeyMap String Markup.Element
  routes : KeyMap String Markup.Element
  trajectories : KeyMap String Markup.Element
  environments : KeyMap String Markup.Element

namespace Shelf

def catalog (s : Shelf) : Catalog where
  entry? kind name _ := (s.entries.get kind).get? name
  maneuver? := s.maneuvers.get?
  route? := s.routes.get?
  trajectory? := s.trajectories.get?
  environment? := s.environments.get?

inductive Defect
  | text
  | fragment

end Shelf

open Coded Json

def CatalogEntry.members : List String :=
  ["resolved_type", "performance", "bounding_box"]

instance : Coded CatalogEntry where
  encode e := record CatalogEntry.members [encode e.type, encode e.performance, encode e.box]
  decode? j := match recordFrom? 1 CatalogEntry.members j with
    | some [a, b, c] => do some ⟨← field? a, ← field? b, ← field? c⟩
    | _ => none

namespace Shelf

def members : List String :=
  ["vehicle", "pedestrian", "misc_object", "ego", "maneuvers", "routes", "trajectories", "environments"]

structure Texts where
  entries : ByKind (KeyMap String CatalogEntry)
  maneuvers : KeyMap String String
  routes : KeyMap String String
  trajectories : KeyMap String String
  environments : KeyMap String String

def texts? (j : Json) : Option Texts :=
  match recordFrom? 0 members j with
  | some [a, b, c, d, e, f, g, h] => do
    let vehicle ← fieldOr ∅ a
    let pedestrian ← fieldOr ∅ b
    let miscObject ← fieldOr ∅ c
    let ego ← fieldOr ∅ d
    some ⟨{ ego, vehicle, miscObject, pedestrian }, ← fieldOr ∅ e, ← fieldOr ∅ f, ← fieldOr ∅ g,
      ← fieldOr ∅ h⟩
  | _ => none

def fragments? (texts : KeyMap String String) : Option (KeyMap String Markup.Element) :=
  (texts.entries.mapM fun e => (Markup.read? e.2).map (e.1, ·)).map KeyMap.ofList

def ofTexts? (t : Texts) : Option Shelf := do
  some ⟨t.entries, ← fragments? t.maneuvers, ← fragments? t.routes, ← fragments? t.trajectories,
    ← fragments? t.environments⟩

def read (text : String) : Except Defect Shelf :=
  match (Json.read? text).bind texts? with
  | none => .error .text
  | some t =>
    match ofTexts? t with
    | none => .error .fragment
    | some s => .ok s

end Shelf

end Scenography
