import Scenography.CommandLine.Run
import Scenography.Proofs.Coding.Scene

namespace Scenography

open Coded Json Measured
open CommandLine (SceneFile)

variable {s : Staged} {d : Nat}

theorem legible_sceneFile (source : String) (h : Readable s) : Legible written (d + 11) (SceneFile.mk source s) :=
  .of_record SceneFile.members
    [⟨source, legible_str source⟩, ⟨s.scene, legible_scene h⟩, ⟨s.journal, legible_journal s.journal⟩]
    rfl (by decide) rfl fun j hj => by simp [decode?, hj]

theorem decode?_sceneFile (source : String) (h : Readable s) :
    decode? ((encode (SceneFile.mk source s)).refit written) = some s := by
  have hscene : Legible written 9 s.scene := legible_scene h
  have hjournal : Legible written 9 s.journal := legible_journal s.journal
  have hmembers : List.Forall₂
      (fun name j => (name, j) ∈ SceneFile.members.zip [encode source, encode s.scene, encode s.journal])
      Staged.members [encode s.scene, encode s.journal] :=
    .cons (by simp [SceneFile.members]) (.cons (by simp [SceneFile.members]) .nil)
  have hrecord : record? Staged.members ((encode (SceneFile.mk source s)).refit written) = _ :=
    record?_of_members (by rw [List.map_fst_zip (by simp [SceneFile.members])]; decide) hmembers
  have hsceneField : field? (some ((encode s.scene).refit written)) = some s.scene := hscene.reads
  have hjournalField : field? (some ((encode s.journal).refit written)) = some s.journal := hjournal.reads
  simp [decode?, hrecord, hsceneField, hjournalField]

/-- A staged document whose doubles are finite comes back from its text, on one line or indented, alone or in
the file of a scene. -/
theorem staged_read_write (staged : Staged)
    (hfinite : ∀ x, .double x ∈ quantities staged → x.isFinite = true)
    (hcounts : ∀ n, .count n ∈ quantities staged → n < UInt32.size)
    (hreads : ∀ x, .double x ∈ quantities staged → x.isFinite = true → ReadsBack x) (l : Layout) :
    (read? ((encode staged).write l 0)).bind decode? = some staged ∧
      ∀ source, ∃ j, read? ((encode (SceneFile.mk source staged)).write l 0) = some j ∧
        decode? j = some (SceneFile.mk source staged) ∧ decode? j = some staged := by
  have hreadable : Readable staged := by
    intro q hq
    cases q with
    | double x => exact ⟨hfinite x hq, hreads x hq (hfinite x hq)⟩
    | count n => exact hcounts n hq
  constructor
  · have hstaged : Legible written maxDepth staged := legible_staged hreadable
    rw [read?_write l hstaged.fits, Option.bind_some]
    exact hstaged.reads
  · intro source
    have hfile : Legible written maxDepth (SceneFile.mk source staged) := legible_sceneFile source hreadable
    exact ⟨_, read?_write l hfile.fits, hfile.reads, decode?_sceneFile source hreadable⟩

section Samples

def readsBack (x : Float) : Bool :=
  match number? (floatText x).toList with
  | some (.float y, []) => y = x
  | _ => false

instance (x : Float) : Decidable (ReadsBack x) :=
  decidable_of_iff (readsBack x = true) <| by
    unfold readsBack ReadsBack
    split
    next y h => simp [h]
    next h => simpa using h x

instance (i : Int) : Decidable (IsWord i) :=
  inferInstanceAs (Decidable (_ ∧ _))

instance Json.decidableFits : (d : Nat) → (j : Json) → Decidable (j.Fits d)
  | _, .null => .isTrue fits_null
  | _, .bool _ => .isTrue fits_bool
  | _, .str _ => .isTrue fits_str
  | _, .int _ => decidable_of_iff _ fits_int.symm
  | _, .float _ => decidable_of_iff _ fits_float.symm
  | _, .unusable => .isFalse not_fits_unusable
  | 0, .arr _ => .isFalse nofun
  | 0, .obj _ => .isFalse nofun
  | d + 1, .arr items =>
    have := decidableFits d
    inferInstanceAs (Decidable (∀ j ∈ items, j.Fits d))
  | d + 1, .obj members =>
    have := decidableFits d
    inferInstanceAs (Decidable (∀ m ∈ members, m.2.Fits d))

instance : DecidablePred Quantity.Readable
  | .double x => inferInstanceAs (Decidable (x.isFinite = true ∧ ReadsBack x))
  | .count n => inferInstanceAs (Decidable (n < UInt32.size))

def Sample.winter : Staged where
  scene := {
    dialect := .v22
    description := "the \"first\"\nsnow"
    mapFile := none
    parameters := [⟨"v", .double, "1e3"⟩]
    egos := .ofList [(1, {
      id := 1, name := "Ego", type := "car", box := .ofVehicle, behavior := .scripted, route := some 7
      pose := some ⟨113.25, 22.5, 0.0, -1.5, some 18446744073709551615, -2, 12.5, 0.1, 274.0563⟩
      profile := .ego ⟨"", "car", {}, true, none, some "1,2", none, false, true⟩ })]
    vehicles := ∅
    pedestrians := ∅
    obstacles := .ofList [(3, {
      id := 3, name := "Cone", type := "cone", box := .ofObstacle, behavior := .scripted, profile := .obstacle })]
    routes := .ofList [(7, ⟨7, "Ego", .acquired, "1,2,0", none, "", [⟨1.0, 2.0, 1e-7, 0.0, none, some (-1), some 0.5, none⟩]⟩)]
    signals := ∅
    timelines := { ramps := .ofList [("r", ⟨"r", [⟨⟨2.5, .time, .none⟩, 1, ⟨-3.0, .speed, 1e300⟩⟩]⟩)] }
    events := ∅
    egoEvents := .ofList [(1, .ofList [(0, {
      id := 0, name := "go", owner := "Ego"
      conditions := [⟨"c", 0.0, .rising, 1, .reach "Ego" (.lane "1" "-1" 2.5 0.0 0.5)⟩]
      actions := [⟨"a", some 0, .ramp ⟨"2.50"⟩, .time 4.0⟩, ⟨"b", none, .reroute none .acquired, .none⟩] })])]
    plannerEvents := ∅
    weather := .ofList [(-60, ⟨-60, "1969-12-31T23:59:00", 0.5, "snow", 0.75, "overcast", 3.0, -4.5⟩)] }
  journal := ⟨[⟨.info, "CATALOG_MISS", "route catalog has no entry named \"x\""⟩]⟩

theorem winter_read_write :
    (read? ((encode Sample.winter).write .block 0)).bind decode? = some Sample.winter ∧
      ∀ source, ∃ j, read? ((encode (SceneFile.mk source Sample.winter)).write .block 0) = some j ∧
        decode? j = some (SceneFile.mk source Sample.winter) ∧ decode? j = some Sample.winter := by
  have h : ∀ q ∈ quantities Sample.winter, q.Readable := by decide +kernel
  exact staged_read_write Sample.winter (fun x hx => (h (.double x) hx).1) (fun n hn => h (.count n) hn)
    (fun x hx _ => (h (.double x) hx).2) .block

end Samples

end Scenography
