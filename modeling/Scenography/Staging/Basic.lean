import Scenography.Cast
import Scenography.Catalog
import Scenography.Feed
import Scenography.Parameters
import Scenography.RoadMap.Inquiry

namespace Scenography

structure Sources where
  settings : Settings
  catalog : Catalog

structure Stage where
  dialect : Dialect := .other
  description : String := ""
  mapFile : Option String := none
  parameters : Parameters := {}
  counters : Counters := {}
  journal : Journal := {}
  cast : Cast := {}
  routes : KeyMap Nat Route := ∅
  signals : KeyMap Nat SignalPlan := ∅
  timelines : Timelines := .start
  events : Events := ∅
  egoEvents : KeyMap Nat Events := ∅
  plannerEvents : KeyMap Nat Events := ∅
  weather : KeyMap Int64 Weather := ∅
deriving Inhabited

abbrev Staging := ReaderT Sources (StateT Stage Inquiry)

abbrev Attempt := ExceptT Fault Staging

namespace Staging

open Markup (Element)

def ask (q : RoadMap.Query) : Staging q.Answer :=
  fun _ s => Inquiry.ask q fun answer => .done (answer, s)

def summed {α : Type} (x : Summed α) : Staging α :=
  fun _ s => (Inquiry.ofSummed x).bind fun a => .done (a, s)

def warn (code message : String) : Staging Unit :=
  modify fun s => { s with journal := s.journal.warn code message }

def record (f : Fault) : Staging Unit :=
  modify fun s => { s with journal := s.journal.record f }

def refuse {α : Type} (code message : String) : Staging (Option α) := do
  warn code message
  return none

def getCast : Staging Cast :=
  return (← get).cast

def modifyEntity (name : String) (f : Entity → Entity) : Staging Unit :=
  modify fun s => { s with cast := s.cast.modify name f }

def count {α : Type} (next : Counters → α × Counters) : Staging α :=
  modifyGet fun s => ((next s.counters).1, { s with counters := (next s.counters).2 })

/-- The value a token names. One that names nothing stands for itself, which is noted. -/
def resolve (token : String) : Staging String := do
  match (← get).parameters.resolveOrKeep token with
  | (value, none) => return value
  | (value, some f) =>
    record f
    return value

def attr? (e : Element) (name : String) : Staging (Option String) :=
  (e.attr? name).mapM resolve

/-- An empty attribute counts as left out. -/
def attrOr (e : Element) (name standard : String) : Staging String :=
  return ((← attr? e name).filter (· ≠ "")).getD standard

def attr (e : Element) (name : String) : Staging String :=
  attrOr e name ""

def number (e : Element) (name : String) : Staging Authored :=
  return ⟨(← attr? e name).getD ""⟩

def value (e : Element) (name : String) : Staging Float :=
  return (← number e name).value

def isTrue (e : Element) (name : String) : Staging Bool :=
  return (← attr? e name) = some "true"

def lookUp (kind : CatalogKind) (name : String) : Staging Resolution := do
  let sources ← read
  match sources.catalog.resolve sources.settings kind name with
  | (r, none) => return r
  | (r, some f) =>
    record f
    return r

def filterMap {α β : Type} (f : α → Staging (Option β)) : List α → Staging (List β)
  | [] => return []
  | a :: as => do
    let b ← f a
    let bs ← filterMap f as
    return b.toList ++ bs

end Staging

end Scenography
