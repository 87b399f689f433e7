import Scenography.Catalog
/-!
What the name of an entity resolves to. An entry found under the name itself gives the type. One found under the name
that stands in for an unknown one does not: the type is the stand-in, whatever the entry says.
-/

namespace Scenography

def Resolution.Agrees (r : Resolution) : Prop :=
  ∀ e, r.entry = some e → r.type = e.type

namespace Catalog

section Resolving

variable (c : Catalog) (s : Settings) (kind : CatalogKind) (name : String)

def listed? : Option CatalogEntry :=
  c.entry? kind name s.catalogDir

/-- The catalog has no entry of the name, and it is no type of its kind. -/
structure Unknown : Prop where
  unlisted : c.listed? s kind name = none
  untyped : s.isKnownType kind name = false

inductive Resolves : Resolution → Option Fault → Prop
  | listed {e : CatalogEntry} (h : c.listed? s kind name = some e) : Resolves ⟨e.type, some e⟩ none
  | builtIn (h : c.listed? s kind name = none) (hknown : s.isKnownType kind name = true) : Resolves ⟨name, none⟩ none
  | standIn (h : c.Unknown s kind name) :
    Resolves ⟨s.matchName kind name, c.listed? s kind (s.matchName kind name)⟩ (some (.catalogMiss kind.label name))

theorem resolve_resolves : c.Resolves s kind name (c.resolve s kind name).1 (c.resolve s kind name).2 := by
  unfold resolve
  split
  next e h => exact .listed h
  next h =>
    split
    next hknown => exact .builtIn h hknown
    next hknown => exact .standIn ⟨h, Bool.eq_false_iff.2 hknown⟩

variable {c s kind name}

theorem resolve_of_listed {e : CatalogEntry} (h : c.listed? s kind name = some e) :
    (c.resolve s kind name).1 = ⟨e.type, some e⟩ := by
  have hentry : c.entry? kind name s.catalogDir = some e := h
  rw [resolve, hentry]

theorem resolve_of_unknown (h : c.Unknown s kind name) :
    (c.resolve s kind name).1 = ⟨s.matchName kind name, c.listed? s kind (s.matchName kind name)⟩ := by
  have hentry : c.entry? kind name s.catalogDir = none := h.unlisted
  rw [resolve, hentry, h.untyped]
  rfl

theorem matchName_of_alias {target : String} (h : (s.aliases.get kind).get? name = some target) :
    s.matchName kind name = target := by
  rw [Settings.matchName, h, Option.getD_some]

end Resolving

/-- Type and entry fit together unless an unknown name got the entry of its stand-in and that entry gives another type
than the stand-in. An alias shares the entry of its target, and its type exactly when the entry's type is the target. -/
theorem resolve_agrees_iff (c : Catalog) (s : Settings) (kind : CatalogKind) (name : String) :
    ((c.resolve s kind name).1.Agrees ↔ (c.Unknown s kind name → ∀ e,
      c.listed? s kind (s.matchName kind name) = some e → e.type = s.matchName kind name)) ∧
    ∀ target e, (s.aliases.get kind).get? name = some target → c.Unknown s kind name →
      c.listed? s kind target = some e →
        (c.resolve s kind name).1.entry = some e ∧ (c.resolve s kind target).1.entry = some e ∧
        ((c.resolve s kind name).1.type = (c.resolve s kind target).1.type ↔ e.type = target) := by
  refine ⟨?agrees, fun target e halias hunknown htarget => ?shares⟩
  case agrees =>
    have hway := c.resolve_resolves s kind name
    constructor
    · intro hagrees hunknown e he
      rw [resolve_of_unknown hunknown] at hagrees
      exact (hagrees e he).symm
    · intro hstandIn
      generalize c.resolve s kind name = resolved at hway ⊢
      obtain ⟨r, fault⟩ := resolved
      cases hway with
      | listed _ => exact fun e he => congrArg CatalogEntry.type (Option.some.inj he)
      | builtIn _ _ => exact nofun
      | standIn hunknown => exact fun e he => (hstandIn hunknown e he).symm
  case shares =>
    rw [resolve_of_unknown hunknown, resolve_of_listed htarget, matchName_of_alias halias]
    exact ⟨htarget, rfl, eq_comm⟩

end Catalog

namespace Sample

def trucks : Catalog where
  entry? kind name _ := if kind = .vehicle ∧ name = "BigTruck" then some ⟨"Truck_002", none, none⟩ else none
  maneuver? _ := none
  route? _ := none
  trajectory? _ := none
  environment? _ := none

def truckers : Settings :=
  { Settings.standard with
    aliases := { Settings.standardAliases with vehicle := .ofList [("MyCar", "BigTruck")] } }

end Sample

open Sample in
/-- The alias of a catalogued name comes with the entry and not with its type. -/
theorem alias_parted_from_entry :
    (trucks.resolve truckers .vehicle "MyCar").1.type = "BigTruck" ∧
    (trucks.resolve truckers .vehicle "MyCar").1.entry.map (·.type) = some "Truck_002" ∧
    (trucks.resolve truckers .vehicle "BigTruck").1.type = "Truck_002" ∧
    ¬(trucks.resolve truckers .vehicle "MyCar").1.Agrees := by
  have htype : (trucks.resolve truckers .vehicle "MyCar").1.type = "BigTruck" := by decide
  have hentry : (trucks.resolve truckers .vehicle "MyCar").1.entry.map (·.type) = some "Truck_002" := by decide
  refine ⟨htype, hentry, by decide, fun hagrees => ?_⟩
  obtain ⟨e, he, hname⟩ := Option.map_eq_some_iff.1 hentry
  have heq := hagrees e he
  rw [htype, hname] at heq
  exact absurd heq (by decide)

end Scenography
