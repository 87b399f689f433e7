import Scenography.Proofs.KeyMap
import Scenography.Proofs.Splitting
import Scenography.Scene.Signal

namespace Scenography

namespace Text

variable {sep : Char}

def words (sep : Char) (s : String) : List String :=
  (split sep s).filter (· ≠ "")

def repeated (sep : Char) (n : Nat) : String :=
  String.ofList (List.replicate n sep)

theorem words_empty : words sep "" = [] := rfl

theorem words_append_sep (s t : String) : words sep (s ++ String.singleton sep ++ t) = words sep s ++ words sep t := by
  have hsplit : split sep (s ++ String.singleton sep ++ t) = split sep s ++ split sep t := by
    rw [split, String.toList_append, String.toList_append, String.toList_singleton, List.append_assoc,
      List.singleton_append, splitChars_append_cons, List.map_append]
    rfl
  rw [words, hsplit, List.filter_append]
  rfl

theorem words_of_notMem {s : String} (hne : s ≠ "") (h : sep ∉ s.toList) : words sep s = [s] := by
  rw [words, split, splitChars_of_notMem h, List.map_singleton, String.ofList_toList]
  simp [hne]

theorem repeated_succ (sep : Char) (n : Nat) : repeated sep (n + 1) = repeated sep n ++ String.singleton sep := by
  rw [repeated, List.replicate_succ', String.ofList_append]
  rfl

theorem words_append_repeated (s : String) (n : Nat) : words sep (s ++ repeated sep n) = words sep s := by
  induction n with
  | zero => exact congrArg (words sep) String.append_empty
  | succ n ih =>
    have hlast : words sep (s ++ repeated sep n ++ String.singleton sep ++ "") =
        words sep (s ++ repeated sep n) ++ words sep "" :=
      words_append_sep _ _
    rw [String.append_empty, words_empty, List.append_nil, ih] at hlast
    rw [repeated_succ, ← String.append_assoc, hlast]

theorem words_repeated_append (n : Nat) (s : String) : words sep (repeated sep n ++ s) = words sep s := by
  induction n with
  | zero => exact congrArg (words sep) String.empty_append
  | succ n ih =>
    have hnone : words sep ("" ++ repeated sep n) = [] := words_append_repeated "" n
    rw [String.empty_append] at hnone
    rw [repeated_succ, words_append_sep, hnone, List.nil_append]

theorem words_intercalate (parts : List String) :
    words sep (String.intercalate (String.singleton sep) parts) = parts.flatMap (words sep) := by
  induction parts with
  | nil => rfl
  | cons p ps ih =>
    cases ps with
    | nil => simp
    | cons q qs =>
      rw [String.intercalate_cons_of_ne_nil (List.cons_ne_nil q qs), words_append_sep, ih]
      rfl

end Text

namespace Compact

def pairText (p : String × String) : String :=
  p.1 ++ ":" ++ p.2

/-- The pairs with a semicolon between two of them. As many more as `extra` says stand at the start and behind each
pair. -/
def written (extra : Nat → Nat) (pairs : List (String × String)) : String :=
  Text.repeated ';' (extra 0) ++
    String.intercalate ";" (pairs.mapIdx fun i p => pairText p ++ Text.repeated ';' (extra (i + 1)))

structure Separable (p : String × String) : Prop where
  colon : ':' ∉ p.1.toList
  key : ';' ∉ p.1.toList
  value : ';' ∉ p.2.toList

instance (p : String × String) : Decidable (Separable p) :=
  decidable_of_iff (':' ∉ p.1.toList ∧ ';' ∉ p.1.toList ∧ ';' ∉ p.2.toList)
    ⟨fun h => ⟨h.1, h.2.1, h.2.2⟩, fun h => ⟨h.colon, h.key, h.value⟩⟩

def decoded (key value : String) : String :=
  if key = "phase" ∨ key = "lane" then Text.swap ',' ';' value else value

def lastValue? (pairs : List (String × String)) (key : String) : Option String :=
  (pairs.reverse.find? (·.1 = key)).map (·.2)

variable {p : String × String} {pairs : List (String × String)}

theorem pairText_eq (p : String × String) : pairText p = p.1 ++ String.singleton ':' ++ p.2 := rfl

theorem item_pairText (h : Separable p) : item (pairText p) = (p.1, decoded p.1 p.2) := by
  rw [item, pairText_eq, Text.cut?_append h.colon]
  simp [decoded, isListKey]

theorem words_pairText (h : Separable p) : Text.words ';' (pairText p) = [pairText p] := by
  rw [pairText_eq]
  exact Text.words_of_notMem (Text.append_sep_ne_empty _ _) (Text.notMem_append_sep (by decide) h.key h.value)

theorem words_written (extra : Nat → Nat) (h : ∀ p ∈ pairs, Separable p) :
    Text.words ';' (written extra pairs) = pairs.map pairText := by
  rw [written, Text.words_repeated_append]
  refine (Text.words_intercalate _).trans ?_
  induction pairs generalizing extra with
  | nil => rfl
  | cons p ps ih =>
    obtain ⟨hp, hps⟩ := List.forall_mem_cons.1 h
    rw [List.mapIdx_cons, List.flatMap_cons, Text.words_append_repeated, words_pairText hp,
      ih (fun i => extra (i + 1)) hps]
    rfl

theorem read_written_eq (extra : Nat → Nat) (h : ∀ p ∈ pairs, Separable p) :
    read (written extra pairs) = KeyMap.ofList (pairs.map fun p => (p.1, decoded p.1 p.2)) := by
  have hread : read (written extra pairs) = KeyMap.ofList ((Text.words ';' (written extra pairs)).map item) := rfl
  rw [hread, words_written extra h, List.map_map]
  exact congrArg KeyMap.ofList (List.map_congr_left fun p hp => item_pairText (h p hp))

/-- Pairs that are written are read back, each key with its last value, however many semicolons there are. Where no key
comes twice, the order of the pairs does not matter. -/
theorem read_written (extra : Nat → Nat) (pairs : List (String × String)) (h : ∀ p ∈ pairs, Separable p) :
    (∀ key, (read (written extra pairs)).get? key = (lastValue? pairs key).map (decoded key)) ∧
    ((pairs.map (·.1)).Nodup → ∀ extra' pairs', pairs.Perm pairs' →
      read (written extra' pairs') = read (written extra pairs)) := by
  constructor
  case left =>
    intro key
    rw [read_written_eq extra h, KeyMap.get?_ofList_last, ← List.map_reverse, List.find?_map, lastValue?,
      Option.map_map, Option.map_map]
    refine Option.map_congr fun p hp => ?_
    have hkey : p.1 = key := by simpa using List.find?_some hp
    rw [← hkey]
    rfl
  case right =>
    intro hkeys extra' pairs' hperm
    have h' : ∀ p ∈ pairs', Separable p := fun p hp => h p (hperm.mem_iff.2 hp)
    rw [read_written_eq extra h, read_written_eq extra' h']
    refine (KeyMap.ofList_eq_of_perm ?_ (hperm.map _)).symm
    rw [List.map_map]
    exact hkeys

theorem phases_read :
    written id [("phase", "1,2"), ("route", "7:1,2"), ("phase", "3,4")] = "phase:1,2;;route:7:1,2;;;phase:3,4;;;" ∧
      (read "phase:1,2;;route:7:1,2;;;phase:3,4;;;").get? "phase" = some "3;4" ∧
      (read "phase:1,2;;route:7:1,2;;;phase:3,4;;;").get? "route" = some "7:1,2" ∧
      read ";;lane:-1,2;;status:;" = read "status:;lane:-1,2" := by
  have htext : written id [("phase", "1,2"), ("route", "7:1,2"), ("phase", "3,4")] =
      "phase:1,2;;route:7:1,2;;;phase:3,4;;;" := by decide
  have hfirst : written (fun _ => 0) [("status", ""), ("lane", "-1,2")] = "status:;lane:-1,2" := by decide
  have hsecond : written (fun i => 2 - (i + 1) / 2) [("lane", "-1,2"), ("status", "")] = ";;lane:-1,2;;status:;" := by
    decide
  have hread := (read_written id [("phase", "1,2"), ("route", "7:1,2"), ("phase", "3,4")] (by decide)).1
  have horder := (read_written (fun _ => 0) [("status", ""), ("lane", "-1,2")] (by decide)).2 (by decide)
    (fun i => 2 - (i + 1) / 2) [("lane", "-1,2"), ("status", "")] (List.Perm.swap _ _ _)
  rw [htext] at hread
  rw [hfirst, hsecond] at horder
  exact ⟨htext, (hread "phase").trans (by decide), (hread "route").trans (by decide), horder⟩

end Compact

end Scenography
