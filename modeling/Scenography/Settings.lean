import Scenography.Json.Coding
import Scenography.Text.Lower

namespace Scenography

inductive CatalogKind
  | vehicle | pedestrian | miscObject | ego
deriving DecidableEq, Repr

namespace CatalogKind

def ofCatalogName? : String → Option CatalogKind
  | "VehicleCatalog" => some vehicle
  | "PedestrianCatalog" => some pedestrian
  | "MiscObjectCatalog" => some miscObject
  | "EgoCatalog" => some ego
  | _ => none

def label : CatalogKind → String
  | vehicle => "Vehicle"
  | pedestrian => "Pedestrian"
  | miscObject => "MiscObject"
  | ego => "Ego"

end CatalogKind

structure ByKind (α : Type) where
  ego : α
  vehicle : α
  miscObject : α
  pedestrian : α

def ByKind.get {α : Type} (b : ByKind α) : CatalogKind → α
  | .ego => b.ego
  | .vehicle => b.vehicle
  | .miscObject => b.miscObject
  | .pedestrian => b.pedestrian

abbrev NameSet := KeyMap String Unit

def NameSet.ofNames (names : List String) : NameSet :=
  KeyMap.ofList (names.map (·, ()))

structure Settings where
  catalogDir : Option String
  /-- From names that authors use to the simulator's types. -/
  aliases : ByKind (KeyMap String String)
  defaults : ByKind String
  egoTypes : NameSet
  vehicleTypes : NameSet
  pedestrianTypes : NameSet
  vehicleSpeed : Float
  pedestrianSpeed : Float
  pointRadius : Float

namespace Settings

def builtInEgoTypes : List String :=
  ["suv", "truck", "AIV_FullLoad_001", "AIV_Empty_001", "AIV_FullLoad_002", "AIV_Empty_002",
    "AIV_V5_FullLoad_001", "AIV_V5_Empty_001", "MPV_001", "MIFA_01", "MiningDumpTruck_001",
    "Truck_with_cargobox", "Truck_without_cargobox"]

def builtInVehicleTypes : List String :=
  ["SUV", "Sedan", "Bus", "Truck", "Trunk", "Truck_1", "Trunk_1", "Sedan_001", "Sedan_002",
    "Sedan_003", "Sedan_004", "Sedan_005", "SUV_001", "SUV_002", "SUV_003", "SUV_004", "SUV_005",
    "Truck_002", "Truck_003", "Truck_004", "Bus_001", "Bus_002", "Bus_003", "Bus_004", "Bus_005",
    "Semi_Trailer_Truck_001", "Ambulance", "Ambulance_001", "AdminVehicle_01", "AdminVehicle_02",
    "AIV_FullLoad_001", "AIV_Empty_001", "AIV_FullLoad_002", "AIV_Empty_002",
    "AIV_V5_FullLoad_001", "MPV_001", "MPV_002", "MIFA_01", "MiningDumpTruck_001",
    "Truck_with_cargobox", "Truck_without_cargobox"]

def builtInPedestrianTypes : List String :=
  ["human", "oldman", "child", "girl", "woman", "cat", "dog", "bike_001", "elecBike_001",
    "tricycle_001", "tricycle_002", "vendingCar_001", "moto_001", "moto_002", "Port_Crane_001",
    "Port_Crane_002", "Port_Crane_002_0_0", "Port_Crane_002_0_2", "Port_Crane_002_0_5",
    "Port_Crane_002_1_0", "Port_Crane_002_5_0", "Port_Crane_003", "Port_Crane_004",
    "Honda_CreaScoopy_AF55", "HarleyDavidson_VRod_2003", "Aprilia_SR50R_Euro4",
    "Suzuki_GSXR1000_2010", "Honda_Monkey125_2017", "Giant_EscapeR3_2018", "Giant_SCR2_2017",
    "Maruishi_Bicycle_26Inch", "Xidesheng_AD350_2020", "Woman002", "Woman003", "Woman004",
    "Woman005", "Woman006", "Woman007", "Man002", "Man003", "Man004", "Man005", "Man006",
    "Oldman002", "Oldman003", "Mobike_Classic2"]

def standardAliases : ByKind (KeyMap String String) :=
  ⟨∅, ∅, ∅, ∅⟩

def standardDefaults : ByKind String where
  ego := "suv"
  vehicle := "SUV"
  miscObject := "Stob_001"
  pedestrian := "human"

def standard : Settings where
  catalogDir := none
  aliases := standardAliases
  defaults := standardDefaults
  egoTypes := .ofNames builtInEgoTypes
  vehicleTypes := .ofNames builtInVehicleTypes
  pedestrianTypes := .ofNames builtInPedestrianTypes
  vehicleSpeed := 12.0
  pedestrianSpeed := 10.0
  pointRadius := 20.0

def isEgoType (s : Settings) (name : String) : Bool :=
  s.egoTypes.keys.any (Text.sameAscii · name)

def isVehicleType (s : Settings) (name : String) : Bool :=
  s.vehicleTypes.keys.any (Text.sameAscii · name)

def isPedestrianType (s : Settings) (name : String) : Bool :=
  s.pedestrianTypes.contains name

def isKnownType (s : Settings) : CatalogKind → String → Bool
  | .ego, name => s.isEgoType name
  | .vehicle, name => s.isVehicleType name
  | .pedestrian, name => s.isPedestrianType name
  | .miscObject, _ => false

/-- The alias of a name, else the type its kind defaults to. -/
def matchName (s : Settings) (kind : CatalogKind) (name : String) : String :=
  ((s.aliases.get kind).get? name).getD (s.defaults.get kind)

end Settings

open Coded Json

instance : Coded NameSet where
  encode s := strs s.keys
  decode? j := (decode? j).map NameSet.ofNames

def ByKind.members : List String :=
  ["ego", "vehicle", "misc_object", "pedestrian"]

def ByKind.encode {α : Type} [Coded α] (b : ByKind α) : Json :=
  record members [Coded.encode b.ego, Coded.encode b.vehicle, Coded.encode b.miscObject, Coded.encode b.pedestrian]

def ByKind.decode? {α : Type} [Coded α] (standard : ByKind α) (j : Json) : Option (ByKind α) :=
  match recordFrom? 0 members j with
  | some [a, b, c, d] => do
    some ⟨← fieldOr standard.ego a, ← fieldOr standard.vehicle b, ← fieldOr standard.miscObject c,
      ← fieldOr standard.pedestrian d⟩
  | _ => none

def Settings.members : List String :=
  ["catalog_dir", "aliases", "defaults", "ego_types", "vehicle_types", "pedestrian_types",
    "default_vehicle_max_speed", "default_pedestrian_max_speed", "distance_point_radius"]

instance : Coded Settings where
  encode s := record Settings.members [encode s.catalogDir, s.aliases.encode, s.defaults.encode,
    encode s.egoTypes, encode s.vehicleTypes, encode s.pedestrianTypes, encode s.vehicleSpeed,
    encode s.pedestrianSpeed, encode s.pointRadius]
  decode? j := match recordFrom? 0 Settings.members j with
    | some [a, b, c, d, e, f, g, h, i] =>
      let s := Settings.standard
      do
        some ⟨← fieldOr s.catalogDir a,
          ← match b with
            | none => some s.aliases
            | some j => ByKind.decode? s.aliases j,
          ← match c with
            | none => some s.defaults
            | some j => ByKind.decode? s.defaults j,
          ← fieldOr s.egoTypes d, ← fieldOr s.vehicleTypes e, ← fieldOr s.pedestrianTypes f,
          ← fieldOr s.vehicleSpeed g, ← fieldOr s.pedestrianSpeed h, ← fieldOr s.pointRadius i⟩
    | _ => none

def Settings.read? (text : String) : Option Settings :=
  (Json.read? text).bind decode?

end Scenography
