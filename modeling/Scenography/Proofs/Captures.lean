import Mathlib.Data.List.Basic
import Scenography.Scene.Command
/-!
Patterns that prefer some ways of fitting a text to others, where the first way that comes to an end counts. The
payload of a command that users define is what such a pattern captures.
-/

namespace Scenography

namespace Text

inductive Pattern
  | one (ok : Char → Bool)
  | word (cs : List Char)
  | most (ok : Char → Bool)
  | fewest (ok : Char → Bool)
  | maybe (p : Pattern)
  | group (p : Pattern)
  | andThen (p q : Pattern)
  | stop

namespace Pattern

/-- One way to fit the beginning of a text: what is taken, what of it the group has, and what is left. -/
structure Way where
  taken : List Char
  captured : Option (List Char)
  rest : List Char

namespace Way

def idle (cs : List Char) : Way :=
  ⟨[], none, cs⟩

def after (c : Char) (w : Way) : Way :=
  { w with taken := c :: w.taken }

def andThen (w v : Way) : Way :=
  ⟨w.taken ++ v.taken, v.captured <|> w.captured, v.rest⟩

def grouped (w : Way) : Way :=
  { w with captured := some w.taken }

end Way

def mostWays (ok : Char → Bool) : List Char → List Way
  | [] => [.idle []]
  | c :: cs => (if ok c then (mostWays ok cs).map (.after c) else []) ++ [.idle (c :: cs)]

def fewestWays (ok : Char → Bool) : List Char → List Way
  | [] => [.idle []]
  | c :: cs => .idle (c :: cs) :: if ok c then (fewestWays ok cs).map (.after c) else []

def ways : Pattern → List Char → List Way
  | one _, [] => []
  | one ok, c :: cs => if ok c then [⟨[c], none, cs⟩] else []
  | word w, cs => (after? w cs).toList.map fun rest => ⟨w, none, rest⟩
  | most ok, cs => mostWays ok cs
  | fewest ok, cs => fewestWays ok cs
  | maybe p, cs => p.ways cs ++ [.idle cs]
  | group p, cs => (p.ways cs).map .grouped
  | andThen p q, cs => (p.ways cs).flatMap fun w => (q.ways w.rest).map w.andThen
  | stop, [] => [.idle []]
  | stop, _ :: _ => []

def capture? (p : Pattern) (cs : List Char) : Option (List Char) :=
  (p.ways cs).head?.bind (·.captured)

def on (q : Pattern) (ws : List Way) : List Way :=
  ws.flatMap fun w => (q.ways w.rest).map w.andThen

section On

variable (q : Pattern) (c : Char) (cs : List Char)

theorem ways_andThen (p : Pattern) : (andThen p q).ways cs = q.on (p.ways cs) := rfl

theorem on_append (ws ws' : List Way) : q.on (ws ++ ws') = q.on ws ++ q.on ws' :=
  List.flatMap_append

theorem on_idle : q.on [.idle cs] = q.ways cs := by
  have hidle : (Way.idle cs).andThen = id := by
    funext v
    simp [Way.idle, Way.andThen]
  rw [on, List.flatMap_singleton, hidle, List.map_id]
  rfl

theorem on_one : q.on [⟨[c], none, cs⟩] = (q.ways cs).map (Way.after c) := by
  have hone : (⟨[c], none, cs⟩ : Way).andThen = Way.after c := by
    funext v
    simp [Way.after, Way.andThen]
  rw [on, List.flatMap_singleton, hone]

theorem on_map_after (ws : List Way) : q.on (ws.map (Way.after c)) = (q.on ws).map (Way.after c) := by
  rw [on, List.flatMap_map, on, List.map_flatMap]
  simp only [List.map_map]
  rfl

theorem head?_map_after (ws : List Way) :
    (ws.map (Way.after c)).head?.bind (·.captured) = ws.head?.bind (·.captured) := by
  cases ws <;> rfl

end On

section Front

variable (sep : Char) (q : Pattern)

def behind : Pattern :=
  andThen (most (· ≠ sep)) (andThen (one (· = sep)) q)

theorem ways_behind_cons (c : Char) (cs : List Char) : (behind sep q).ways (c :: cs) =
    ((if c = sep then q else behind sep q).ways cs).map (Way.after c) := by
  by_cases hc : c = sep
  · have hmost : (most (· ≠ sep)).ways (c :: cs) = [.idle (c :: cs)] := by simp [ways, mostWays, hc]
    have hone : (one (· = sep)).ways (c :: cs) = [⟨[c], none, cs⟩] := by simp [ways, hc]
    rw [if_pos hc, behind, ways_andThen, hmost, on_idle, ways_andThen, hone, on_one]
  · have hmost : (most (· ≠ sep)).ways (c :: cs) =
        ((most (· ≠ sep)).ways cs).map (Way.after c) ++ [.idle (c :: cs)] := by simp [ways, mostWays, hc]
    have hone : (one (· = sep)).ways (c :: cs) = [] := by simp [ways, hc]
    -- the way that leaves the character to the separator leads nowhere
    have hlast : (andThen (one (· = sep)) q).on [.idle (c :: cs)] = [] := by
      rw [on_idle, ways_andThen, hone]
      rfl
    rw [if_neg hc, behind, ways_andThen, hmost, on_append, hlast, List.append_nil, on_map_after, ways_andThen]

theorem capture?_behind (cs : List Char) :
    (behind sep q).capture? cs = (cutChars? sep cs).bind fun p => q.capture? p.2 := by
  induction cs with
  | nil => rfl
  | cons c cs ih =>
    rw [capture?, ways_behind_cons, head?_map_after, cutChars?]
    by_cases hc : c = sep
    · rw [if_pos hc, if_pos hc]
      rfl
    · rw [if_neg hc, if_neg hc, Option.bind_map]
      exact ih

end Front

section Back

variable {ending : List Char}

def ended (ending : List Char) : Pattern :=
  andThen (maybe (word ending)) stop

def upTo (ending : List Char) : Pattern :=
  andThen (group (fewest fun _ => true)) (ended ending)

theorem after?_self (w : List Char) : after? w w = some [] := by
  induction w with
  | nil => rfl
  | cons c w ih => rw [after?, if_pos rfl, ih]

theorem stop_on_word (cs : List Char) :
    stop.on ((word ending).ways cs) = if cs = ending then [⟨ending, none, []⟩] else [] := by
  rw [ways]
  cases hrest : after? ending cs with
  | none =>
    have hne : cs ≠ ending := by
      rintro rfl
      simp [after?_self] at hrest
    rw [if_neg hne]
    rfl
  | some rest =>
    have hcs := append_of_after? hrest
    cases rest with
    | nil =>
      rw [if_pos (by simpa using hcs.symm)]
      simp [on, ways, Way.idle, Way.andThen]
    | cons c rest =>
      have hne : cs ≠ ending := by
        rintro rfl
        simp at hcs
      rw [if_neg hne]
      rfl

theorem ways_ended (h : ending ≠ []) (cs : List Char) : (ended ending).ways cs =
    if cs = ending then [⟨ending, none, []⟩] else if cs = [] then [.idle []] else [] := by
  have hmaybe : (maybe (word ending)).ways cs = (word ending).ways cs ++ [.idle cs] := rfl
  rw [ended, ways_andThen, hmaybe, on_append, stop_on_word, on_idle]
  cases cs with
  | nil => simp [ways, h.symm]
  | cons c cs => simp [ways]

end Back

end Pattern

end Text

namespace Command

variable {ending : List Char}

theorem dropEnd_append (ending cs : List Char) : dropEnd ending (cs ++ ending) = cs := by
  simp [dropEnd]

theorem dropEnd_cons (c : Char) (cs : List Char) :
    dropEnd ending (c :: cs) = if c :: cs = ending then [] else c :: dropEnd ending cs := by
  by_cases hall : c :: cs = ending
  · rw [if_pos hall, ← hall]
    simp [dropEnd]
  · rw [if_neg hall, dropEnd, dropEnd]
    by_cases hend : ending <:+ cs
    · have hlength : (c :: cs).length - ending.length = cs.length - ending.length + 1 := by
        have hle := hend.length_le
        rw [List.length_cons]
        omega
      have hend' : ending <:+ c :: cs := hend.trans (List.suffix_cons c cs)
      rw [if_pos (by simpa using hend'), if_pos (by simpa using hend), hlength, List.take_succ_cons]
    · have hend' : ¬ending <:+ c :: cs := by
        rw [List.suffix_cons_iff]
        exact not_or.2 ⟨fun he => hall he.symm, hend⟩
      rw [if_neg (by simpa using hend'), if_neg (by simpa using hend)]

end Command

namespace Text.Pattern

variable {ending : List Char}

def Way.groupedBehind (taken : List Char) (w : Way) : Way :=
  ⟨taken ++ w.taken, some (taken ++ w.taken), w.rest⟩

theorem on_groupedBehind_idle (h : ending ≠ []) (taken : List Char) (c : Char) (cs : List Char) :
    (ended ending).on [(Way.idle (c :: cs)).groupedBehind taken] =
      if c :: cs = ending then [⟨taken ++ ending, some taken, []⟩] else [] := by
  by_cases hend : c :: cs = ending <;> simp [on, Way.idle, Way.groupedBehind, ways_ended h, hend, Way.andThen]

theorem capture_fewest (h : ending ≠ []) (taken cs : List Char) :
    ((ended ending).on ((fewestWays (fun _ => true) cs).map (Way.groupedBehind taken))).head?.bind (·.captured) =
      some (taken ++ Command.dropEnd ending cs) := by
  induction cs generalizing taken with
  | nil => simp [fewestWays, Way.idle, Way.groupedBehind, on, ways_ended h, h.symm, Way.andThen, Command.dropEnd]
  | cons c cs ih =>
    have hafter : Way.groupedBehind taken ∘ Way.after c = Way.groupedBehind (taken ++ [c]) := by
      funext w
      simp [Way.groupedBehind, Way.after]
    rw [fewestWays, if_pos rfl, List.map_cons, List.map_map, hafter, ← List.singleton_append, on_append,
      on_groupedBehind_idle h, Command.dropEnd_cons]
    by_cases hend : c :: cs = ending
    · simp [hend]
    · rw [if_neg hend, if_neg hend, List.nil_append, ih, List.append_assoc, List.singleton_append]

theorem capture?_upTo (h : ending ≠ []) (cs : List Char) :
    (upTo ending).capture? cs = some (Command.dropEnd ending cs) :=
  capture_fewest h [] cs

end Text.Pattern

namespace Command

open Text.Pattern

/-- The pattern of payloads, `^[^=]*=(.*?)(?:,value=0\.0)?$` over all characters. -/
def payloadPattern : Text.Pattern :=
  .andThen (.most (· ≠ '=')) <| .andThen (.one (· = '=')) <|
    .andThen (.group (.fewest fun _ => true)) <| .andThen (.maybe (.word payloadEnd)) .stop

theorem payload_eq_capture (body : String) :
    payload body = String.ofList ((payloadPattern.capture? body.toList).getD []) := by
  have hending : payloadEnd ≠ [] := by decide
  have hpattern : payloadPattern = behind '=' (upTo payloadEnd) := rfl
  rw [hpattern, capture?_behind, payload, Text.cut?]
  cases Text.cutChars? '=' body.toList with
  | none => rfl
  | some p => simp [capture?_upTo hending]

end Command

end Scenography
