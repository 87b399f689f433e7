import Scenography.Proofs.Captures
import Scenography.Proofs.Splitting
import Scenography.Proofs.Trimming

namespace Scenography

namespace Text

variable {sep : Char}

theorem headD_splitChars (cs : List Char) : (splitChars sep cs).headD [] = cs.takeWhile (· ≠ sep) := by
  induction cs with
  | nil => rfl
  | cons c cs ih =>
    by_cases hc : c = sep
    · simp [splitChars, hc]
    · rw [splitChars, if_neg hc, List.takeWhile_cons_of_pos (by simpa using hc), ← ih]
      cases hparts : splitChars sep cs with
      | nil => exact (splitChars_ne_nil sep cs hparts).elim
      | cons p ps => rfl

theorem headD_split (s : String) : (split sep s).headD "" = String.ofList (s.toList.takeWhile (· ≠ sep)) := by
  rw [← headD_splitChars, split]
  cases splitChars sep s.toList <;> rfl

def Lacks (cs : List Char) (s : String) : Prop :=
  ∀ c ∈ cs, c ∉ s.toList

instance (cs : List Char) (s : String) : Decidable (Lacks cs s) :=
  -- by the list: all characters are too many to try
  List.decidableBAll (fun c => c ∉ s.toList) cs

end Text

open Text (Lacks)

namespace CommandKind

def carried : CommandKind → (value offset : String) → String × String
  | laneChange, value, offset => (value, offset)
  | overtaking, value, offset => (value, offset)
  | lateralSpeedToLeft, _, offset => (offset, "")
  | lateralSpeedToRight, _, offset => (offset, "")
  | lateralAccelToLeft, _, offset => (offset, "")
  | lateralAccelToRight, _, offset => (offset, "")
  | _, value, _ => (value, "")

def written : CommandKind → String
  | laneChange => "LaneChange"
  | overtaking => "Overtaking"
  | pullOver => "PullOver"
  | emergencyStop => "EmergencyStop"
  | lateralSpeedToLeft => "LateralSpeedToLeft"
  | lateralSpeedToRight => "LateralSpeedToRight"
  | lateralAccelToLeft => "LateralAccelToLeft"
  | lateralAccelToRight => "LateralAccelToRight"
  | userDefine => "UserDefine"
  | emergencyBrake => "EmergencyBrake"
  | vehicleLostControl => "VehicleLostControl"
  | handsOnSteeringwheel => "HandsOnSteeringwheel"
  | eyesOnRoad => "EyesOnRoad"
  | lidar => "Lidar"
  | radar => "Radar"
  | ultrasonic => "Ultrasonic"
  | camera => "Camera"
  | gnss => "Gnss"
  | imu => "Imu"
  | localization => "Localization"
  | beam => "Beam"
  | brakeLight => "BrakeLight"
  | hazardLight => "HazardLight"
  | leftTurnLight => "LeftTurnLight"
  | rightTurnLight => "RightTurnLight"
  | driverSeatbelt => "DriverSeatbelt"
  | passengerSeatbelt => "PassengerSeatbelt"
  | driverDoor => "DriverDoor"
  | passengerDoor => "PassengerDoor"
  | hood => "Hood"
  | trunk => "Trunk"
  | parkingBrake => "ParkingBrake"
  | wiper => "Wiper"
  | gear => "Gear"
  | key => "Key"

/-- Manoeuvres are commanded, and states told. -/
def IsOn (channel : Channel) : CommandKind → Prop
  | userDefine => True
  | laneChange => channel = .command
  | overtaking => channel = .command
  | pullOver => channel = .command
  | emergencyStop => channel = .command
  | lateralSpeedToLeft => channel = .command
  | lateralSpeedToRight => channel = .command
  | lateralAccelToLeft => channel = .command
  | lateralAccelToRight => channel = .command
  | _ => channel = .status

instance (channel : Channel) (kind : CommandKind) : Decidable (kind.IsOn channel) := by
  unfold IsOn
  split <;> infer_instance

theorem mem_named_iff {channel : Channel} {name : String} {kind : CommandKind} :
    (name, kind) ∈ named channel ↔ kind.IsOn channel ∧ name = kind.written := by
  have hknown : ∀ p ∈ named channel, p.2.IsOn channel ∧ p.1 = p.2.written := by cases channel <;> decide
  have hlisted : kind.IsOn channel → (kind.written, kind) ∈ named channel := by
    cases channel <;> cases kind <;> decide
  constructor
  · exact hknown (name, kind)
  · rintro ⟨hon, rfl⟩
    exact hlisted hon

theorem nodup_named (channel : Channel) : ((named channel).map (·.1)).Nodup := by
  cases channel <;> decide

theorem ofName?_eq_some_iff {channel : Channel} {name : String} {kind : CommandKind} :
    ofName? channel name = some kind ↔ kind.IsOn channel ∧ name = kind.written := by
  rw [← mem_named_iff]
  have hnodup := nodup_named channel
  unfold ofName?
  generalize named channel = l at hnodup
  induction l with
  | nil => simp
  | cons p l ih =>
    obtain ⟨hp, hl⟩ := List.nodup_cons.1 hnodup
    by_cases hname : p.1 = name
    · subst hname
      have hrest : (p.1, kind) ∉ l := fun hmem => hp (List.mem_map.2 ⟨_, hmem, rfl⟩)
      simp [hrest, Prod.ext_iff, eq_comm]
    · have hne : (name, kind) ≠ p := fun he => hname (congrArg Prod.fst he).symm
      rw [List.find?_cons_of_neg (by simpa using hname), List.mem_cons, or_iff_right hne]
      exact ih hl

end CommandKind

namespace Command

section Reading

variable (channel : Channel) {name : String} (h : ':' ∉ name.toList) (body : String)

include h

theorem cut?_trim : Text.cut? ':' (Text.trim (name ++ ":" ++ body)) =
    some (Text.trimStart name, Text.trimEnd body) := by
  have hstart : ':' ∉ (Text.trimStart name).toList := fun hmem => h (Text.mem_of_mem_trimStart hmem)
  have hcolon : Text.isBlank ':' = false := by decide
  have htrim : Text.trim (name ++ ":" ++ body) =
      Text.trimStart name ++ String.singleton ':' ++ Text.trimEnd body :=
    Text.trim_append_singleton_append hcolon name body
  rw [htrim, Text.cut?_append hstart]

theorem read_of_some {kind : CommandKind} (hkind : CommandKind.ofName? channel (Text.trim name) = some kind) :
    read channel (name ++ ":" ++ body) = .ok (ofBody kind (Text.trimEnd body)) := by
  unfold read
  simp only [cut?_trim h, Text.trim_trimStart, hkind]

theorem read_of_none (hkind : CommandKind.ofName? channel (Text.trim name) = none) :
    read channel (name ++ ":" ++ body) = .error (.unknownCommand (Text.trim name)) := by
  unfold read
  simp only [cut?_trim h, Text.trim_trimStart, hkind]

end Reading

theorem read_of_notMem (channel : Channel) {raw : String} (h : ':' ∉ raw.toList) :
    read channel raw = .error (.unknownCommand (Text.trim raw)) := by
  have hcut : Text.cut? ':' (Text.trim raw) = none := by
    rw [Text.cut?, Option.map_eq_none_iff, Text.cutChars?_eq_none]
    exact fun hmem => h (Text.mem_of_mem_trim hmem)
  unfold read
  simp only [hcut]

section Fields

variable {f v g o tail : String}

/-- What may follow two fields: nothing, more fields, or whatever stands behind another `:`. -/
inductive Ignored : String → Prop
  | nothing : Ignored ""
  | fields (more : String) : Ignored ("," ++ more)
  | rest (more : String) : Ignored (":" ++ more)

theorem fieldValue_append (hf : '=' ∉ f.toList) (v : String) : fieldValue (f ++ "=" ++ v) = Text.trim v := by
  have hcut : Text.cut? '=' (f ++ "=" ++ v) = some (f, v) := Text.cut?_append hf v
  rw [fieldValue, hcut]

theorem splitChars_ignored (htail : Ignored tail) {cs : List Char} (hcs : ',' ∉ cs) :
    ∃ pieces, Text.splitChars ',' (cs ++ tail.toList.takeWhile (· ≠ ':')) = cs :: pieces := by
  cases htail with
  | nothing => exact ⟨[], by simpa using Text.splitChars_of_notMem hcs⟩
  | fields more =>
    have htake : ("," ++ more).toList.takeWhile (· ≠ ':') = ',' :: more.toList.takeWhile (· ≠ ':') := by
      simp [String.toList_append]
    exact ⟨_, htake ▸ Text.splitChars_append hcs _⟩
  | rest more =>
    have htake : (":" ++ more).toList.takeWhile (· ≠ ':') = [] := by simp [String.toList_append]
    exact ⟨[], by simpa [htake] using Text.splitChars_of_notMem hcs⟩

theorem fields_append (hf : Lacks ['=', ',', ':'] f) (hv : Lacks [',', ':'] v) (hg : Lacks ['=', ',', ':'] g)
    (ho : Lacks [',', ':'] o) (htail : Ignored tail) :
    fields (f ++ "=" ++ v ++ "," ++ g ++ "=" ++ o ++ tail) = (Text.trim v, Text.trim o) := by
  simp only [Lacks, List.forall_mem_cons, List.not_mem_nil, false_imp_iff, implies_true, and_true] at hf hv hg ho
  obtain ⟨hf, hfcomma, hfcolon⟩ := hf
  obtain ⟨hvcomma, hvcolon⟩ := hv
  obtain ⟨hg, hgcomma, hgcolon⟩ := hg
  obtain ⟨hocomma, hocolon⟩ := ho
  have hfront : ',' ∉ (f ++ "=" ++ v).toList := by simp [String.toList_append, hfcomma, hvcomma]
  have hback : ',' ∉ (g ++ "=" ++ o).toList := by simp [String.toList_append, hgcomma, hocomma]
  have hcolon : ':' ∉ (f ++ "=" ++ v ++ "," ++ g ++ "=" ++ o).toList := by
    simp [String.toList_append, hfcolon, hvcolon, hgcolon, hocolon]
  have hshown : (f ++ "=" ++ v ++ "," ++ g ++ "=" ++ o ++ tail).toList.takeWhile (· ≠ ':') =
      (f ++ "=" ++ v).toList ++ ',' :: ((g ++ "=" ++ o).toList ++ tail.toList.takeWhile (· ≠ ':')) := by
    have hkept : ∀ c ∈ (f ++ "=" ++ v ++ "," ++ g ++ "=" ++ o).toList, decide (c ≠ ':') = true := by
      intro c hc
      refine decide_eq_true ?_
      rintro rfl
      exact hcolon hc
    rw [String.toList_append, List.takeWhile_append_of_pos hkept]
    simp [String.toList_append]
  obtain ⟨pieces, hpieces⟩ := splitChars_ignored htail hback
  rw [fields, Text.headD_split, hshown, Text.split, String.toList_ofList, Text.splitChars_append hfront, hpieces]
  simp only [List.map_cons, String.ofList_toList, fieldValue_append hf, fieldValue_append hg]

theorem trimEnd_fields (s : String) (ho : Lacks [',', ':'] o) (htail : Ignored tail) :
    ∃ o' tail', Text.trimEnd (s ++ "=" ++ o ++ tail) = s ++ "=" ++ o' ++ tail' ∧
      Text.trim o' = Text.trim o ∧ Lacks [',', ':'] o' ∧ Ignored tail' := by
  have hbehind (c : Char) (hc : Text.isBlank c = false) (s t : String) :
      Text.trimEnd (s ++ String.singleton c ++ t) = s ++ String.singleton c ++ Text.trimEnd t :=
    Text.trimEnd_append hc s t
  cases htail with
  | nothing =>
    refine ⟨Text.trimEnd o, "", ?_, Text.trim_trimEnd o, fun c hc hmem => ho c hc (Text.mem_of_mem_trimEnd hmem),
      .nothing⟩
    rw [String.append_empty, String.append_empty]
    exact hbehind '=' (by decide) s o
  | fields more =>
    refine ⟨o, "," ++ Text.trimEnd more, ?_, rfl, ho, .fields _⟩
    rw [← String.append_assoc, ← String.append_assoc]
    exact hbehind ',' (by decide) (s ++ "=" ++ o) more
  | rest more =>
    refine ⟨o, ":" ++ Text.trimEnd more, ?_, rfl, ho, .rest _⟩
    rw [← String.append_assoc, ← String.append_assoc]
    exact hbehind ':' (by decide) (s ++ "=" ++ o) more

end Fields

theorem ofBody_carried {kind : CommandKind} (hkind : kind ≠ .userDefine) {body value offset : String}
    (h : fields body = (value, offset)) :
    ofBody kind body = ⟨kind, (kind.carried value offset).1, (kind.carried value offset).2⟩ := by
  cases kind with
  | userDefine => exact (hkind rfl).elim
  | _ => simp [ofBody, h, CommandKind.isLateral, CommandKind.hasOffset, CommandKind.carried]

theorem ofBody_userDefine (body : String) : ofBody .userDefine body = ⟨.userDefine, payload body, ""⟩ := rfl

theorem payload_append {f : String} (hf : '=' ∉ f.toList) (p : String) :
    payload (f ++ "=" ++ p ++ ",value=0.0") = p := by
  have hcut : Text.cut? '=' (f ++ "=" ++ p ++ ",value=0.0") = some (f, p ++ ",value=0.0") := by
    have hassoc : f ++ "=" ++ p ++ ",value=0.0" = f ++ "=" ++ (p ++ ",value=0.0") := String.append_assoc
    rw [hassoc]
    exact Text.cut?_append hf _
  have hend : (p ++ ",value=0.0").toList = p.toList ++ payloadEnd := String.toList_append
  rw [payload, hcut]
  simp only [hend, dropEnd_append, String.ofList_toList]

theorem trimEnd_payload (s : String) : Text.trimEnd (s ++ ",value=0.0") = s ++ ",value=0.0" := by
  have hzero : Text.isBlank '0' = false := by decide
  have hlast : s ++ ",value=0.0" = s ++ ",value=0." ++ String.singleton '0' ++ "" := by
    rw [String.append_empty, String.append_assoc]
    rfl
  rw [hlast, Text.trimEnd_append hzero]
  rfl

theorem trim_written (kind : CommandKind) : Text.trim kind.written = kind.written ∧ ':' ∉ kind.written.toList := by
  cases kind <;> decide

/-- What two fields carry is read as written, and more text behind them changes nothing. A command that users define
carries all that stands between its first `=` and one ending. A text without a kind that the channel knows is refused,
with what stands where the kind should be. -/
theorem read_as_written (channel : Channel) :
    (∀ kind : CommandKind, kind.IsOn channel → kind ≠ .userDefine →
      ∀ f v g o tail, Lacks ['=', ',', ':'] f → Lacks [',', ':'] v → Lacks ['=', ',', ':'] g → Lacks [',', ':'] o →
        Ignored tail → read channel (kind.written ++ ":" ++ f ++ "=" ++ v ++ "," ++ g ++ "=" ++ o ++ tail) =
          .ok ⟨kind, (kind.carried (Text.trim v) (Text.trim o)).1, (kind.carried (Text.trim v) (Text.trim o)).2⟩) ∧
    (∀ f p, Lacks ['='] f →
      read channel ("UserDefine:" ++ f ++ "=" ++ p ++ ",value=0.0") = .ok ⟨.userDefine, p, ""⟩) ∧
    (∀ raw, Lacks [':'] raw → read channel raw = .error (.unknownCommand (Text.trim raw))) ∧
    (∀ name rest, Lacks [':'] name → (∀ kind : CommandKind, kind.IsOn channel → Text.trim name ≠ kind.written) →
      read channel (name ++ ":" ++ rest) = .error (.unknownCommand (Text.trim name))) ∧
    ∀ body, payload body = String.ofList ((payloadPattern.capture? body.toList).getD []) := by
  refine ⟨?written, ?defined, ?uncut, ?unknown, payload_eq_capture⟩
  case written =>
    intro kind hon hdefined f v g o tail hf hv hg ho htail
    obtain ⟨htrim, hcolon⟩ := trim_written kind
    have hkind : CommandKind.ofName? channel (Text.trim kind.written) = some kind := by
      rw [htrim, CommandKind.ofName?_eq_some_iff]
      exact ⟨hon, rfl⟩
    have hbody : kind.written ++ ":" ++ f ++ "=" ++ v ++ "," ++ g ++ "=" ++ o ++ tail =
        kind.written ++ ":" ++ (f ++ "=" ++ v ++ "," ++ g ++ "=" ++ o ++ tail) := by
      simp only [String.append_assoc]
    obtain ⟨o', tail', hend, htrim', ho', htail'⟩ := trimEnd_fields (f ++ "=" ++ v ++ "," ++ g) ho htail
    rw [hbody, read_of_some channel hcolon _ hkind, hend, ← htrim']
    exact congrArg Except.ok <| ofBody_carried hdefined (fields_append hf hv hg ho' htail')
  case defined =>
    intro f p hf
    have hkind : CommandKind.ofName? channel (Text.trim "UserDefine") = some .userDefine :=
      CommandKind.ofName?_eq_some_iff.2 ⟨trivial, (trim_written .userDefine).1⟩
    have hbody : "UserDefine:" ++ f ++ "=" ++ p ++ ",value=0.0" =
        "UserDefine" ++ ":" ++ (f ++ "=" ++ p ++ ",value=0.0") := by
      simp only [String.append_assoc]
      rfl
    rw [hbody, read_of_some channel (by decide) _ hkind, trimEnd_payload, ofBody_userDefine,
      payload_append (hf '=' List.mem_cons_self)]
  case uncut =>
    intro raw hraw
    exact read_of_notMem channel (hraw ':' List.mem_cons_self)
  case unknown =>
    intro name rest hname hnamed
    refine read_of_none channel (hname ':' List.mem_cons_self) rest ?_
    cases hkind : CommandKind.ofName? channel (Text.trim name) with
    | none => rfl
    | some kind =>
      obtain ⟨hon, hname⟩ := CommandKind.ofName?_eq_some_iff.1 hkind
      exact (hnamed kind hon hname).elim

theorem wiper_read :
    read .command ("LateralSpeedToLeft" ++ ":" ++ "value" ++ "=" ++ "0" ++ "," ++ "offset" ++ "=" ++ " 0.8 " ++
        (":" ++ "on")) = .ok ⟨.lateralSpeedToLeft, "0.8", ""⟩ ∧
      read .status ("Wiper" ++ ":" ++ "value" ++ "=" ++ " 2" ++ "," ++ "offset" ++ "=" ++ "1" ++ ("," ++ "on")) =
        .ok ⟨.wiper, "2", ""⟩ ∧
      read .status ("UserDefine:" ++ "data" ++ "=" ++ "a=b,value=0.0" ++ ",value=0.0") =
        .ok ⟨.userDefine, "a=b,value=0.0", ""⟩ ∧
      read .command ("Wiper" ++ ":" ++ "value=1") = .error (.unknownCommand "Wiper") := by
  obtain ⟨hcommanded, -, -, hunknown, -⟩ := read_as_written .command
  obtain ⟨htold, hdefined, -⟩ := read_as_written .status
  refine ⟨?lateral, ?wiper, hdefined "data" "a=b,value=0.0" (by decide), ?unknown⟩
  case lateral =>
    have htrim : Text.trim " 0.8 " = "0.8" := by decide
    refine (hcommanded .lateralSpeedToLeft rfl (by decide) "value" "0" "offset" " 0.8 " (":" ++ "on") (by decide)
      (by decide) (by decide) (by decide) (.rest "on")).trans ?_
    rw [htrim]
    rfl
  case wiper =>
    have htrim : Text.trim " 2" = "2" := by decide
    refine (htold .wiper rfl (by decide) "value" " 2" "offset" "1" ("," ++ "on") (by decide) (by decide) (by decide)
      (by decide) (.fields "on")).trans ?_
    rw [htrim]
    rfl
  case unknown =>
    have htrim : Text.trim "Wiper" = "Wiper" := (trim_written .wiper).1
    have hnamed : ∀ kind : CommandKind, kind.IsOn .command → Text.trim "Wiper" ≠ kind.written := by
      intro kind
      rw [htrim]
      cases kind <;> decide
    rw [hunknown "Wiper" "value=1" (by decide) hnamed, htrim]

end Command

end Scenography
