import Scenography.Number.Text
import Scenography.Scene.Condition

namespace Scenography

inductive CueKind
  | time | collision | distance | point
deriving DecidableEq, Repr

def CueKind.rank : CueKind → Nat
  | time => 0
  | collision => 1
  | distance => 2
  | point => 3

structure Cue where
  value : Float
  kind : CueKind
  mode : DistanceMode
deriving DecidableEq

namespace Cue

/-- Cues of one kind this close to each other are the same. -/
def tolerance : Float := 1e-9

def clashes (c d : Cue) : Bool :=
  c.kind = d.kind && (c.value - d.value).abs < tolerance

def notAfter (c d : Cue) : Bool :=
  c.value < d.value || c.value ≤ d.value && c.kind.rank ≤ d.kind.rank

end Cue

structure Node (π : Type) where
  cue : Cue
  count : Nat := 1
  payload : π
deriving DecidableEq

structure Timeline (π : Type) where
  id : String
  nodes : List (Node π)

class Payload (π : Type) where
  text : π → String

namespace Timeline

variable {π : Type}

def empty (id : String) : Timeline π := ⟨id, []⟩

/-- Where a search by halves ends for the first of `size` positions from `base` on that is not `before`. -/
def seek (before : Nat → Bool) (base size : Nat) : Nat :=
  if 1 < size then
    seek before (if before (base + size / 2) then base + size / 2 else base) (size - size / 2)
  else if before base then base + 1
  else base
termination_by size

theorem seek_eq {before : Nat → Bool} {base size k : Nat} (h : ∀ i, before i = true ↔ i < k)
    (hb : base ≤ k) (hk : k ≤ base + size) : seek before base size = k := by
  fun_induction seek before base size with
  | case1 base size hs ih =>
    apply ih
    · split
      next hm => exact Nat.le_of_lt ((h _).1 hm)
      next => exact hb
    · split
      next => omega
      next hm =>
        have : ¬ base + size / 2 < k := fun hlt => hm ((h _).2 hlt)
        omega
  | case2 base size hs hm =>
    have := (h _).1 hm
    omega
  | case3 base size hs hm =>
    have : ¬ base < k := fun hlt => hm ((h _).2 hlt)
    omega

def place (n : Node π) (nodes : List (Node π)) : List (Node π) :=
  nodes.insertIdx (seek (fun i => nodes[i]?.any (·.cue.notAfter n.cue)) 0 nodes.length) n

theorem insertIdx_length (n : Node π) (front back : List (Node π)) :
    (front ++ back).insertIdx front.length n = front ++ n :: back := by
  induction front with
  | nil => rfl
  | cons m front ih => simp [ih]

theorem place_append {n : Node π} {front back : List (Node π)}
    (hf : ∀ m ∈ front, m.cue.notAfter n.cue = true) (hb : ∀ m ∈ back, m.cue.notAfter n.cue = false) :
    place n (front ++ back) = front ++ n :: back := by
  have h : ∀ i, (front ++ back)[i]?.any (·.cue.notAfter n.cue) = true ↔ i < front.length := by
    intro i
    by_cases hi : i < front.length
    · rw [List.getElem?_append_left hi, List.getElem?_eq_getElem hi]
      simp [hi, hf _ (List.getElem_mem hi)]
    · rw [List.getElem?_append_right (Nat.le_of_not_lt hi)]
      cases hg : back[i - front.length]? with
      | none => simp [hi]
      | some m => simp [hi, hb m (List.mem_of_getElem? hg)]
  rw [place, seek_eq h (Nat.zero_le _) (by simp), insertIdx_length]

def add? (t : Timeline π) (n : Node π) : Option (Timeline π) :=
  if t.nodes.any (·.cue.clashes n.cue) then none
  else some { t with nodes := place n t.nodes }

def ascends : List (Node π) → Bool
  | m :: n :: ns => m.cue.value ≤ n.cue.value && ascends (n :: ns)
  | _ => true

def isSorted (t : Timeline π) : Bool :=
  ascends t.nodes

variable [Payload π]

/-- `time,payload` of a node bound to the simulation's time. -/
def timeText? (n : Node π) : Option String :=
  match n.cue.kind with
  | .time => some (Number.tidy n.cue.value ++ "," ++ Payload.text n.payload)
  | _ => none

def cueWord? : CueKind → Option String
  | .time => none
  | .collision => some "ttc"
  | .distance => some "egoDistance"
  | .point => some "egoDistance"

/-- `measure mode value,payload count` of any other node. -/
def eventText? (n : Node π) : Option String :=
  (cueWord? n.cue.kind).map fun word =>
    word ++ " " ++ n.cue.mode.label ++ " " ++ Number.tidy n.cue.value ++ "," ++
      Payload.text n.payload ++ " " ++ toString n.count

def timeProfile (t : Timeline π) : String :=
  String.intercalate ";" (t.nodes.filterMap timeText?)

def eventProfile (t : Timeline π) : String :=
  String.intercalate ";" (t.nodes.filterMap eventText?)

end Timeline

inductive StopKind
  | none | time | speed
deriving DecidableEq, Repr

def StopKind.label : StopKind → String
  | none => "none"
  | time => "time"
  | speed => "velocity"

structure Ramp where
  acceleration : Float
  stopKind : StopKind
  stopValue : Float
deriving DecidableEq

/-- A change of lane; a positive direction is to the left. -/
structure Merge where
  direction : Int64
  duration : Float
  offset : Float

structure Speed where
  speed : Float
deriving DecidableEq

structure Walk where
  speed : Float
  direction : Float

instance : Payload Ramp where
  text r := Number.tidy r.acceleration ++ "," ++ r.stopKind.label ++ "," ++ Number.tidy r.stopValue

instance : Payload Merge where
  text m := toString m.direction.toInt ++ "," ++ Number.tidy m.duration ++ "," ++ Number.tidy m.offset

instance : Payload Speed where
  text s := Number.tidy s.speed

instance : Payload Walk where
  text w := Number.tidy w.direction ++ "," ++ Number.tidy w.speed

end Scenography
