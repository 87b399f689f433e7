import Scenography.Proofs.Respelled.Readers
import Scenography.Staging.Entity

namespace Scenography.Staging

open Markup (Element Spelling)

variable {K : Aside → Aside → Prop} {ps : List Parameter} {f : Spelling}

section Entities

variable (hf : f.Faithful ps) (e : Element)

def Declaration.respell (f : Spelling) : Declaration → Declaration
  | .vehicle e => .vehicle (e.respell f)
  | .pedestrian e => .pedestrian (e.respell f)
  | .miscObject e => .miscObject (e.respell f)
  | .catalogued kind name => .catalogued kind name

theorem behavior_agrees (properties : KeyMap String String) (standard : Behavior) :
    Agree K ps Eq (behavior properties standard) (behavior properties standard) := by
  unfold behavior
  split
  · exact .pure rfl
  · split
    · exact .pure rfl
    · exact .bind (.warn _ _ _ _) fun _ => .pure rfl

include hf

theorem declaration?_agrees :
    Agree K ps (fun d d' => d = d'.map (.respell f)) (declaration? (e.respell f)) (declaration? e) := by
  unfold declaration?
  simp only [Element.child?_respell]
  cases e.child? "Vehicle" with
  | some e => exact .pure rfl
  | none =>
  cases e.child? "Pedestrian" with
  | some e => exact .pure rfl
  | none =>
  cases e.child? "MiscObject" with
  | some e => exact .pure rfl
  | none =>
  cases e.child? "CatalogReference" with
  | some reference =>
    refine .bind (attr_agrees hf _ _) fun catalog => .bind (attr_agrees hf _ _) fun name => .pure ?_
    rw [Option.map_map]
    rfl
  | none => exact .pure rfl

theorem isEgo_agrees (hk : f.KeepsNames) (name : String) :
    Agree K ps Eq (isEgo name (e.respell f)) (isEgo name e) := by
  unfold isEgo
  rw [Element.property?_respell hk]
  split
  · exact .pure rfl
  · cases e.property? "control" with
    | none => exact .pure rfl
    | some raw => exact .bind (resolve_agrees (hf _ _ _)) fun _ => .pure rfl

theorem properties_agrees (hk : f.KeepsNames) (e : Option Element) :
    Agree K ps Eq (properties (e.map (·.respell f))) (properties e) := by
  unfold properties
  have hlisted : ((e.map (·.respell f)).map (·.properties)).getD [] =
      ((e.map (·.properties)).getD []).map fun p => (p.1, f.value "Property" "value" p.2) := by
    cases e with
    | none => rfl
    | some e => exact Element.properties_respell hk e
  dsimp only
  rw [hlisted, List.mapM_map]
  refine .bind (.listMapM fun p => ?_) fun _ => .pure rfl
  exact .bind (resolve_agrees (hf _ _ _)) fun _ => .pure rfl

theorem box?_agrees (e : Option Element) : Agree K ps Eq (box? (e.map (·.respell f))) (box? e) := by
  unfold box?
  have hdimensions : (e.map (·.respell f)).bind (·.descend? ["BoundingBox", "Dimensions"]) =
      (e.bind (·.descend? ["BoundingBox", "Dimensions"])).map (·.respell f) := by
    cases e <;> simp
  rw [hdimensions]
  exact .optionMapM_map fun d => .bind (value_agrees hf _ _) fun _ => .bind (value_agrees hf _ _) fun _ =>
    .bind (value_agrees hf _ _) fun _ => .pure rfl

theorem performance?_agrees (e : Option Element) :
    Agree K ps Eq (performance? (e.map (·.respell f))) (performance? e) := by
  unfold performance?
  have hperformance : (e.map (·.respell f)).bind (·.child? "Performance") =
      (e.bind (·.child? "Performance")).map (·.respell f) := by
    cases e <;> simp
  rw [hperformance]
  exact .optionMapM_map fun d => .bind (value_agrees hf _ _) fun _ => .bind (value_agrees hf _ _) fun _ =>
    .bind (value_agrees hf _ _) fun _ => .pure rfl

theorem category_agrees (vehicle : Option Element) (type : String) :
    Agree K ps Eq (category (vehicle.map (·.respell f)) type) (category vehicle type) := by
  cases vehicle with
  | none => exact .pure rfl
  | some e => exact attrOr_agrees hf _ _ _

theorem controller?_agrees : Agree K ps Eq (controller? (e.respell f)) (controller? e) := by
  unfold controller?
  rw [Element.descend?_respell]
  cases e.descend? ["ObjectController", "Controller"] with
  | none => exact .pure rfl
  | some e => exact .bind (attr?_agrees hf _ _) fun _ => .pure rfl

variable (hk : f.KeepsNames) (name type : String)

include hk

theorem ego_agrees (vehicle : Option Element) :
    Agree K ps Eq (ego name (e.respell f) (vehicle.map (·.respell f)) type) (ego name e vehicle type) :=
  .bind (lookUp_agrees _ _) fun _ => .bind (properties_agrees hf hk _) fun _ =>
    .bind (category_agrees hf _ _) fun _ => .bind (performance?_agrees hf _) fun _ =>
    .bind (box?_agrees hf _) fun _ => .bind (controller?_agrees hf _) fun _ => .bind (.count _) fun _ =>
    .bind .read fun _ => .pure rfl

theorem vehicle_agrees (e : Option Element) :
    Agree K ps Eq (vehicle name type (e.map (·.respell f))) (vehicle name type e) :=
  .bind (lookUp_agrees _ _) fun _ => .bind (properties_agrees hf hk _) fun _ =>
    .bind (performance?_agrees hf _) fun _ => .bind (box?_agrees hf _) fun _ => .bind (behavior_agrees _ _) fun _ =>
    .bind (.count _) fun _ => .bind .read fun _ => .pure rfl

theorem pedestrian_agrees (e : Option Element) (standard : Behavior) :
    Agree K ps Eq (pedestrian name type (e.map (·.respell f)) standard) (pedestrian name type e standard) :=
  .bind (lookUp_agrees _ _) fun _ => .bind (properties_agrees hf hk _) fun _ => .bind (box?_agrees hf _) fun _ =>
    .bind (behavior_agrees _ _) fun _ => .bind (.count _) fun _ => .bind .read fun _ => .pure rfl

omit hk in
theorem obstacle_agrees (e : Option Element) :
    Agree K ps Eq (obstacle name type (e.map (·.respell f))) (obstacle name type e) :=
  .bind (lookUp_agrees _ _) fun _ => .bind (box?_agrees hf _) fun _ => .bind (.count _) fun _ => .pure rfl

theorem ofVehicle_agrees (object : Element) :
    Agree K ps Eq (ofVehicle name (object.respell f) (e.respell f)) (ofVehicle name object e) := by
  unfold ofVehicle
  refine .bind (isEgo_agrees hf _ hk _) fun ego => ?_
  split
  · exact .bind (attr_agrees hf _ _) fun type => ego_agrees hf _ hk _ _ (some e)
  · refine .bind (attr_agrees hf _ _) fun type => .bind .read fun sources => ?_
    split
    · exact pedestrian_agrees hf hk _ _ (some e) _
    · exact vehicle_agrees hf hk _ _ (some e)

theorem ofCatalogued_agrees (kind : CatalogKind) :
    Agree K ps Eq (ofCatalogued name (e.respell f) kind type) (ofCatalogued name e kind type) := by
  unfold ofCatalogued
  cases kind with
  | pedestrian => exact pedestrian_agrees hf hk _ _ none _
  | miscObject => exact obstacle_agrees hf _ _ none
  | vehicle | ego =>
    dsimp only
    split
    · exact ego_agrees hf _ hk _ _ none
    · refine .bind .read fun sources => ?_
      split
      · exact pedestrian_agrees hf hk _ _ none _
      · exact vehicle_agrees hf hk _ _ none

theorem ofDeclaration_agrees (d : Declaration) :
    Agree K ps Eq (ofDeclaration name (e.respell f) (d.respell f)) (ofDeclaration name e d) := by
  cases d with
  | vehicle vehicle => exact ofVehicle_agrees hf _ hk _ _
  | pedestrian e =>
    refine .bind (attr?_agrees hf _ _) fun model => ?_
    split
    · exact pedestrian_agrees hf hk _ _ (some e) _
    · exact .bind (attr_agrees hf _ _) fun _ => pedestrian_agrees hf hk _ _ (some e) _
  | miscObject e => exact .bind (attr_agrees hf _ _) fun _ => obstacle_agrees hf _ _ (some e)
  | catalogued kind type => exact ofCatalogued_agrees hf _ hk _ _ _

omit name in
theorem entity?_agrees : Agree K ps Eq (entity? (e.respell f)) (entity? e) := by
  unfold entity?
  refine .bind (attr?_agrees hf _ _) fun name => ?_
  split
  · exact .refuse rfl _ _ _ _
  · refine .bind_of (declaration?_agrees hf e) fun d d' hd => ?_
    cases d' with
    | none => cases hd; exact .refuse rfl _ _ _ _
    | some d' => cases hd; exact .map (ofDeclaration_agrees hf _ hk _ _)

end Entities

end Scenography.Staging
