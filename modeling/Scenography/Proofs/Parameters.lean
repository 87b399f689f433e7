import Mathlib.Data.Finset.Card
import Mathlib.Data.Finset.Dedup
import Scenography.Parameters
import Scenography.Proofs.KeyMap

namespace Scenography

theorem eraseDups_concat {α : Type} [BEq α] [LawfulBEq α] (l : List α) (a : α) :
    (l ++ [a]).eraseDups = if a ∈ l then l.eraseDups else l.eraseDups ++ [a] := by
  rw [List.eraseDups_append]
  by_cases h : a ∈ l
  · simp [List.removeAll, h]
  · simp [List.removeAll, h, List.eraseDups_cons]

namespace Parameters

open Markup (Element)

section Names

variable {name token : String}

/-- The characters behind every sigil in front. -/
def unmarked : List Char → List Char
  | '$' :: cs => unmarked cs
  | cs => cs

def key (name : String) : String :=
  String.ofList (unmarked name.toList)

theorem unmarked_of_ne {c : Char} (hc : c ≠ '$') (cs : List Char) : unmarked (c :: cs) = c :: cs := by
  unfold unmarked
  split
  next he => exact (hc (List.cons.inj he).1).elim
  · rfl

theorem unmarked_eq (cs : List Char) : unmarked cs = cs.dropWhile (· = '$') := by
  induction cs with
  | nil => rfl
  | cons c cs ih =>
    by_cases hc : c = '$'
    · subst hc
      rw [unmarked, ih, List.dropWhile_cons_of_pos (by simp)]
    · rw [unmarked_of_ne hc, List.dropWhile_cons_of_neg (by simpa using hc)]

theorem key_eq_bareName (name : String) : key name = bareName name := by
  rw [key, unmarked_eq, bareName, Text.dropLead, sigil]

theorem head?_key (name : String) : (key name).toList.head? ≠ some '$' := by
  intro h
  have hnot := List.head?_dropWhile_not (fun c => decide (c = '$')) name.toList
  rw [key, unmarked_eq, String.toList_ofList] at h
  rw [h] at hnot
  simp at hnot

theorem bareName_of_head? (h : name.toList.head? ≠ some sigil) : bareName name = name := by
  rw [bareName, Text.dropLead]
  cases hcs : name.toList with
  | nil => rw [List.dropWhile_nil, ← hcs, String.ofList_toList]
  | cons c cs =>
    have hc : c ≠ sigil := by simpa [hcs] using h
    rw [List.dropWhile_cons_of_neg (by simpa using hc), ← hcs, String.ofList_toList]

theorem reference?_sigil (name : String) : reference? ("$" ++ name) = some name := by
  simp [reference?, sigil, String.toList_append]

theorem bareName_sigil (name : String) : bareName ("$" ++ name) = bareName name := by
  simp [bareName, Text.dropLead, sigil, String.toList_append]

end Names

section Put

variable {l : List Parameter} (p : Parameter)

theorem find?_put (name : String) (l : List Parameter) :
    find? name (put p l) = if name = p.name then some p else find? name l := by
  induction l with
  | nil => by_cases h : name = p.name <;> simp [put, find?, h, eq_comm]
  | cons q qs ih =>
    unfold find? at ih ⊢
    by_cases hq : q.name = p.name
    · by_cases h : name = p.name
      · simp [put, hq, h]
      · simp [put, hq, h, eq_comm (a := p.name)]
    · rw [put, if_neg hq]
      by_cases h : q.name = name
      · have hne : name ≠ p.name := h ▸ hq
        simp [h, hne]
      · simpa [h] using ih

theorem names_put (l : List Parameter) : (put p l).map (·.name) =
    if p.name ∈ l.map (·.name) then l.map (·.name) else l.map (·.name) ++ [p.name] := by
  induction l with
  | nil => rfl
  | cons q qs ih =>
    by_cases hq : q.name = p.name
    · simp [put, hq]
    · rw [put, if_neg hq, List.map_cons, ih]
      by_cases hmem : p.name ∈ qs.map (·.name)
      · simp [hmem]
      · simp [hmem, Ne.symm hq]

theorem filterMap_find? (h : (l.map (·.name)).Nodup) : (l.map (·.name)).filterMap (find? · l) = l := by
  induction l with
  | nil => rfl
  | cons q qs ih =>
    obtain ⟨hq, hqs⟩ := List.nodup_cons.1 h
    have hrest : (qs.map (·.name)).filterMap (find? · (q :: qs)) = (qs.map (·.name)).filterMap (find? · qs) := by
      apply List.filterMap_congr
      intro name hname
      have hne : q.name ≠ name := by
        rintro rfl
        exact hq hname
      simp [find?, hne]
    rw [List.map_cons, List.filterMap_cons, hrest, ih hqs]
    simp [find?]

end Put

section Declarations

variable {l ds : List Parameter}

def last? (ds : List Parameter) (name : String) : Option Parameter :=
  ds.reverse.find? (·.name = name)

def names (ds : List Parameter) : List String :=
  (ds.map (·.name)).eraseDups

theorem last?_concat (ds : List Parameter) (d : Parameter) (name : String) :
    last? (ds ++ [d]) name = if name = d.name then some d else last? ds name := by
  by_cases h : d.name = name
  · simp [last?, h]
  · simp [last?, h, Ne.symm h]

theorem names_concat (ds : List Parameter) (d : Parameter) :
    names (ds ++ [d]) = if d.name ∈ names ds then names ds else names ds ++ [d.name] := by
  rw [names, names, List.map_append, List.map_singleton, eraseDups_concat]
  simp only [List.mem_eraseDups]

theorem mem_names_iff {name : String} : name ∈ names ds ↔ (last? ds name).isSome := by
  simp [names, last?]

/-- Of each name declared the list has the last declaration, where the name came first. -/
structure Holds (l ds : List Parameter) : Prop where
  names : l.map (·.name) = names ds
  nodup : (l.map (·.name)).Nodup
  last : ∀ name, find? name l = last? ds name

theorem Holds.nil : Holds [] [] where
  names := rfl
  nodup := .nil
  last _ := rfl

theorem Holds.put (h : Holds l ds) (d : Parameter) : Holds (put d l) (ds ++ [d]) where
  names := by rw [names_put, names_concat, h.names]
  nodup := by
    rw [names_put]
    split
    · exact h.nodup
    next hd => exact h.nodup.append (List.nodup_singleton _) (by simpa using hd)
  last name := by rw [find?_put, last?_concat, h.last]

theorem Holds.foldl (h : Holds l ds) (ds' : List Parameter) :
    Holds (ds'.foldl (fun l d => Parameters.put d l) l) (ds ++ ds') := by
  induction ds' generalizing l ds with
  | nil => simpa using h
  | cons d ds' ih => simpa using ih (h.put d)

theorem Holds.eq (h : Holds l ds) : l = (Parameters.names ds).filterMap (last? ds) := by
  have hself := filterMap_find? h.nodup
  simp only [h.last] at hself
  rw [← h.names, hself]

theorem Holds.length_eq (h : Holds l ds) : l.length = (ds.map (·.name)).toFinset.card := by
  have hset : (ds.map (·.name)).toFinset = (l.map (·.name)).toFinset := by
    ext name
    simp [h.names, Parameters.names]
  rw [hset, List.toFinset_card_of_nodup h.nodup, List.length_map]

end Declarations

inductive Operation
  | declare (name : String) (kind : ParameterKind) (value : String)
  | declareAll (e : Element)
  | lock

def kindOf (type : String) : ParameterKind :=
  if type = "double" then .double
  else if type ∈ ["int", "integer", "unsignedInt", "unsignedShort"] then .int
  else if type ∈ ["boolean", "bool"] then .boolean
  else .string

theorem ofText_eq (raw : String) : ParameterKind.ofText raw = kindOf (Text.trim raw) := by
  unfold ParameterKind.ofText kindOf
  generalize Text.trim raw = type
  split <;> simp_all

namespace Operation

def perform (ps : Parameters) : Operation → Parameters
  | declare name kind value => ps.declare name kind value
  | declareAll e => ps.declareAll e
  | lock => ps.lock

def declaration? (e : Element) : Option Parameter :=
  match e.attr? "name" with
  | none => none
  | some name =>
    if name.toList.all Text.isBlank then none
    else some ⟨key name, kindOf (Text.trim ((e.attr? "parameterType").getD "string")), (e.attr? "value").getD ""⟩

def declarations : Operation → List Parameter
  | declare name kind value => [⟨key name, kind, value⟩]
  | declareAll e => (e.elements.filter (·.name = "ParameterDeclaration")).filterMap declaration?
  | lock => []

theorem name_of_declaration? {e : Element} {d : Parameter} (h : declaration? e = some d) :
    ∃ name, key name = d.name := by
  unfold declaration? at h
  split at h
  · cases h
  next name _ =>
    split at h
    · cases h
    · cases h
      exact ⟨name, rfl⟩

end Operation

/-- A table kept as a map, and apart from it the keys in the order in which they came. -/
structure Register where
  entries : KeyMap String Parameter := ∅
  order : List String := []
  locked : Bool := false

namespace Register

def declare (r : Register) (name : String) (kind : ParameterKind) (value : String) : Register :=
  if r.locked then r
  else
    { r with
      entries := r.entries.insert (key name) ⟨key name, kind, value⟩
      order := if r.entries.contains (key name) then r.order else r.order ++ [key name] }

def declareElement (r : Register) (e : Element) : Register :=
  match e.attr? "name" with
  | none => r
  | some name =>
    if name.toList.all Text.isBlank then r
    else r.declare name (kindOf (Text.trim ((e.attr? "parameterType").getD "string"))) ((e.attr? "value").getD "")

def perform (r : Register) : Operation → Register
  | .declare name kind value => r.declare name kind value
  | .declareAll e => (e.elements.filter (·.name = "ParameterDeclaration")).foldl declareElement r
  | .lock => { r with locked := true }

def run (os : List Operation) : Register :=
  os.foldl perform {}

def declared (r : Register) : List Parameter :=
  r.order.filterMap r.entries.get?

def get? (r : Register) (name : String) : Option Parameter :=
  r.entries.get? (key name)

structure Shows (r : Register) (ps : Parameters) : Prop where
  entries : ∀ name, r.entries.get? name = find? name ps.declared
  order : r.order = ps.declared.map (·.name)
  locked : r.locked = ps.locked

section Steps

variable {r : Register} {ps : Parameters}

theorem Shows.declare (h : r.Shows ps) (name : String) (kind : ParameterKind) (value : String) :
    (r.declare name kind value).Shows (ps.declare name kind value) := by
  unfold Register.declare Parameters.declare
  rw [h.locked, key_eq_bareName]
  split
  · exact h
  · refine ⟨fun other => ?entries, ?order, rfl⟩
    case entries => rw [KeyMap.get?_insert, find?_put, h.entries]
    case order =>
      have hmem : r.entries.contains (bareName name) = true ↔ bareName name ∈ ps.declared.map (·.name) := by
        simp [KeyMap.contains, h.entries, find?]
      simp only [hmem, h.order, names_put]

theorem Shows.declareElement (h : r.Shows ps) (e : Element) : (r.declareElement e).Shows (ps.declareElement e) := by
  unfold Register.declareElement Parameters.declareElement Element.filledAttr?
  cases e.attr? "name" with
  | none => exact h
  | some name =>
    by_cases hblank : name.toList.all Text.isBlank = true
    · simpa [Option.filter, Text.allBlank, hblank] using h
    · simpa [Option.filter, Text.allBlank, hblank, ofText_eq] using h.declare name _ _

theorem Shows.perform (h : r.Shows ps) (o : Operation) : (r.perform o).Shows (o.perform ps) := by
  cases o with
  | declare name kind value => exact h.declare name kind value
  | declareAll e =>
    rw [Register.perform, Operation.perform, Parameters.declareAll, Element.childrenNamed]
    induction e.elements.filter (·.name = "ParameterDeclaration") generalizing r ps with
    | nil => exact h
    | cons d ds ih => exact ih (h.declareElement d)
  | lock => exact ⟨h.entries, h.order, rfl⟩

theorem Shows.foldl (h : r.Shows ps) (os : List Operation) :
    (os.foldl Register.perform r).Shows (os.foldl Operation.perform ps) := by
  induction os generalizing r ps with
  | nil => exact h
  | cons o os ih => exact ih (h.perform o)

theorem perform_locked (h : r.locked = true) (o : Operation) : r.perform o = r := by
  have hdeclare (name : String) (kind : ParameterKind) (value : String) : r.declare name kind value = r := if_pos h
  cases o with
  | declare name kind value => exact hdeclare name kind value
  | declareAll e =>
    refine List.foldl_fixed' (fun d => ?_) _
    unfold Register.declareElement
    split
    · rfl
    · rw [hdeclare, ite_self]
  | lock =>
    cases r
    cases h
    rfl

theorem Shows.declared_eq (h : r.Shows ps) (hnodup : (ps.declared.map (·.name)).Nodup) :
    r.declared = ps.declared := by
  rw [Register.declared, h.order, funext h.entries, filterMap_find? hnodup]

theorem Shows.size_eq (h : r.Shows ps) (hnodup : (ps.declared.map (·.name)).Nodup) : r.entries.size = ps.size := by
  have hkeys : r.entries.keys.toFinset = (ps.declared.map (·.name)).toFinset := by
    ext name
    rw [List.mem_toFinset, List.mem_toFinset, KeyMap.mem_keys_iff, h.entries]
    simp [find?]
  have hcard := congrArg Finset.card hkeys
  rw [List.toFinset_card_of_nodup hnodup, List.toFinset_card_of_nodup (KeyMap.nodup_keys _)] at hcard
  simpa [KeyMap.keys, KeyMap.size, Parameters.size] using hcard

end Steps

end Register

/-- What operations declare before the table is locked. -/
def heeded : List Operation → List Parameter
  | [] => []
  | .lock :: _ => []
  | o :: os => o.declarations ++ heeded os

def run (os : List Operation) : Parameters :=
  os.foldl Operation.perform {}

theorem perform_locked {ps : Parameters} (h : ps.locked = true) (o : Operation) : o.perform ps = ps := by
  cases o with
  | declare name kind value => exact if_pos h
  | declareAll e =>
    refine List.foldl_fixed' (fun d => ?_) _
    unfold declareElement
    split
    · rfl
    · rw [declare, if_pos h]
  | lock =>
    cases ps
    cases h
    rfl

theorem declareAll_unlocked (l : List Parameter) (e : Element) :
    declareAll ⟨l, false⟩ e = ⟨(Operation.declareAll e).declarations.foldl (fun l d => put d l) l, false⟩ := by
  rw [Parameters.declareAll, Operation.declarations, Element.childrenNamed]
  induction e.elements.filter (·.name = "ParameterDeclaration") generalizing l with
  | nil => rfl
  | cons d ds ih =>
    rw [List.foldl_cons, List.filterMap_cons, declareElement, Operation.declaration?, Element.filledAttr?]
    cases d.attr? "name" with
    | none => exact ih l
    | some name =>
      by_cases hblank : name.toList.all Text.isBlank = true
      · simpa [Option.filter, Text.allBlank, hblank] using ih l
      · simpa [Option.filter, Text.allBlank, hblank, declare, ofText_eq, key_eq_bareName] using
          ih (put ⟨bareName name, _, _⟩ l)

theorem foldl_perform_declared (os : List Operation) (l : List Parameter) :
    (os.foldl Operation.perform ⟨l, false⟩).declared = (heeded os).foldl (fun l d => put d l) l := by
  induction os generalizing l with
  | nil => rfl
  | cons o os ih =>
    cases o with
    | declare name kind value =>
      have hname : heeded (.declare name kind value :: os) = ⟨bareName name, kind, value⟩ :: heeded os := by
        rw [heeded, Operation.declarations, key_eq_bareName, List.singleton_append]
        nofun
      rw [hname]
      exact ih _
    | declareAll e =>
      rw [List.foldl_cons, Operation.perform, declareAll_unlocked, ih, heeded, List.foldl_append]
      nofun
    | lock =>
      rw [List.foldl_cons, List.foldl_fixed' (perform_locked rfl)]
      rfl

theorem run_holds (os : List Operation) : Holds (run os).declared (heeded os) := by
  rw [run, foldl_perform_declared]
  exact Holds.nil.foldl (heeded os)

theorem run_lock (os later : List Operation) : run (os ++ .lock :: later) = run (os ++ [.lock]) := by
  simp only [run, List.foldl_append, List.foldl_cons, List.foldl_nil]
  exact List.foldl_fixed' (perform_locked rfl) later

theorem Register.run_lock (os later : List Operation) :
    Register.run (os ++ .lock :: later) = Register.run (os ++ [.lock]) := by
  simp only [Register.run, List.foldl_append, List.foldl_cons, List.foldl_nil]
  exact List.foldl_fixed' (perform_locked rfl) later

theorem bare_declarations (o : Operation) : ∀ d ∈ o.declarations, d.name.toList.head? ≠ some '$' := by
  intro d hd
  cases o with
  | declare name kind value =>
    obtain rfl := List.mem_singleton.1 hd
    exact head?_key name
  | declareAll e =>
    obtain ⟨a, -, ha⟩ := List.mem_filterMap.1 hd
    obtain ⟨name, hname⟩ := Operation.name_of_declaration? ha
    exact hname ▸ head?_key name
  | lock => cases hd

theorem bare_heeded (os : List Operation) : ∀ d ∈ heeded os, d.name.toList.head? ≠ some '$' := by
  induction os with
  | nil => simp [heeded]
  | cons o os ih =>
    cases o with
    | lock => simp [heeded]
    | declare name kind value => exact List.forall_mem_append.2 ⟨bare_declarations _, ih⟩
    | declareAll e => exact List.forall_mem_append.2 ⟨bare_declarations _, ih⟩

theorem bare_declared (os : List Operation) : ∀ p ∈ (run os).declared, p.name.toList.head? ≠ some '$' := by
  intro p hp
  have hname : p.name ∈ names (heeded os) := (run_holds os).names ▸ List.mem_map_of_mem hp
  obtain ⟨d, hd, hdp⟩ := List.mem_map.1 (List.mem_eraseDups.1 hname)
  exact hdp ▸ bare_heeded os d hd

structure AsDeclared (ps : Parameters) (ds : List Parameter) : Prop where
  declared : ps.declared = (names ds).filterMap (last? ds)
  names : ps.declared.map (·.name) = names ds
  once : (Parameters.names ds).Nodup
  size : ps.size = (ds.map (·.name)).toFinset.card
  found : ∀ name, ps.get? name = last? ds (key name)
  known : ∀ name, (ps.get? name).isSome ↔ key name ∈ ds.map (·.name)
  bare : ∀ p ∈ ps.declared, p.name.toList.head? ≠ some '$'

structure AsKept (ps : Parameters) (r : Register) : Prop where
  declared : ps.declared = r.declared
  names : ps.declared.map (·.name) = r.order
  size : ps.size = r.entries.size
  found : ∀ name, ps.get? name = r.get? name
  locked : ps.locked = r.locked

theorem asKept_run (os : List Operation) : (run os).AsKept (Register.run os) := by
  have hshows : (Register.run os).Shows (run os) := Register.Shows.foldl ⟨fun _ => rfl, rfl, rfl⟩ os
  have hnodup := (run_holds os).nodup
  exact {
    declared := (hshows.declared_eq hnodup).symm
    names := hshows.order.symm
    size := (hshows.size_eq hnodup).symm
    found := fun name => by rw [get?, Register.get?, hshows.entries, key_eq_bareName]
    locked := hshows.locked.symm }

/-- Whatever is done to a table, of each name it holds the last declaration made before the first lock, in the order of
the first ones; and nothing is done to it after that. So does the register to which the same is done. -/
theorem run_asDeclared (os : List Operation) :
    (run os).AsDeclared (heeded os) ∧ (run os).AsKept (Register.run os) ∧
      ∀ later, run (os ++ .lock :: later) = run (os ++ [.lock]) ∧
        Register.run (os ++ .lock :: later) = Register.run (os ++ [.lock]) := by
  have hholds := run_holds os
  have hfound (name : String) : (run os).get? name = last? (heeded os) (key name) :=
    key_eq_bareName name ▸ hholds.last _
  refine ⟨?_, asKept_run os, fun later => ⟨run_lock os later, Register.run_lock os later⟩⟩
  exact {
    declared := hholds.eq
    names := hholds.names
    once := hholds.names ▸ hholds.nodup
    size := hholds.length_eq
    found := hfound
    known := fun name => by rw [hfound, ← mem_names_iff, Parameters.names, List.mem_eraseDups]
    bare := bare_declared os }

example : (run [.declare "$a" .int "1", .declare "b" .string "2", .declare "$$a" .double "3", .lock,
    .declare "c" .int "4"]).declared = [⟨"a", .double, "3"⟩, ⟨"b", .string, "2"⟩] := by
  decide +kernel

section Tokens

variable {os : List Operation} {name : String}

theorem resolve_sigil (ps : Parameters) (name : String) : ps.resolve ("$" ++ name) =
    (find? name ps.declared).elim (.error (.unresolvedParameter ("$" ++ name))) fun p => .ok p.value := by
  unfold resolve
  simp only [reference?_sigil]
  cases find? name ps.declared <;> rfl

theorem get?_sigil (ps : Parameters) (h : name.toList.head? ≠ some sigil) :
    ps.get? ("$" ++ name) = find? name ps.declared := by
  rw [get?, bareName_sigil, bareName_of_head? h]

theorem get?_declare_self {ps : Parameters} (h : ps.locked = false) (name : String) (kind : ParameterKind)
    (value : String) : (ps.declare name kind value).get? name = some ⟨bareName name, kind, value⟩ := by
  rw [get?, declare, h, if_neg Bool.false_ne_true, find?_put, if_pos rfl]

theorem resolve_eq_ok_iff (ps : Parameters) (h : name.toList.head? ≠ some sigil) (value : String) :
    ps.resolve ("$" ++ name) = .ok value ↔ ∃ p, ps.get? ("$" ++ name) = some p ∧ p.value = value := by
  rw [resolve_sigil, get?_sigil ps h]
  cases find? name ps.declared with
  | none => simp
  | some p => simp

theorem resolve_doubled (os : List Operation) (h : name.toList.head? = some sigil) :
    (run os).resolve ("$" ++ name) = .error (.unresolvedParameter ("$" ++ name)) := by
  have hnone : find? name (run os).declared = none := by
    cases hp : find? name (run os).declared with
    | none => rfl
    | some p =>
      have hname : p.name = name := by simpa using List.find?_some hp
      exact (bare_declared os p (List.mem_of_find?_eq_some hp) (hname ▸ h)).elim
  rw [resolve_sigil, hnone, Option.elim_none]

theorem run_declare (os : List Operation) (name : String) (kind : ParameterKind) (value : String) :
    (run os).declare name kind value = run (os ++ [.declare name kind value]) := by
  rw [run, run, List.foldl_append]
  rfl

end Tokens

/-- A token has the value of the parameter found under it, unless it begins with two sigils and one is found: such a
token is never resolved, not even right after it was declared. -/
theorem resolve_as_found_iff (os : List Operation) (name : String) :
    ((∀ value, (run os).resolve ("$" ++ name) = .ok value ↔
        ∃ p, (run os).get? ("$" ++ name) = some p ∧ p.value = value) ↔
      (name.toList.head? = some sigil → (run os).get? ("$" ++ name) = none)) ∧
    (name.toList.head? = some sigil → (run os).resolve ("$" ++ name) = .error (.unresolvedParameter ("$" ++ name))) ∧
    ((run os).locked = false → ∀ kind value,
      ((run os).declare ("$" ++ name) kind value).get? ("$" ++ name) = some ⟨bareName name, kind, value⟩ ∧
      (((run os).declare ("$" ++ name) kind value).resolve ("$" ++ name) = .ok value ↔
        name.toList.head? ≠ some sigil)) := by
  refine ⟨?agree, resolve_doubled os, fun hunlocked kind value => ?declared⟩
  case agree =>
    by_cases h : name.toList.head? = some sigil
    · simp only [resolve_doubled os h, h, reduceCtorEq, false_iff, true_imp_iff, Option.eq_none_iff_forall_ne_some]
      exact ⟨fun hvalue p hp => hvalue p.value ⟨p, hp, rfl⟩, fun hp value ⟨p, hsome, _⟩ => hp p hsome⟩
    · exact ⟨fun _ hsigil => (h hsigil).elim, fun _ => resolve_eq_ok_iff _ h⟩
  case declared =>
    have hfound := get?_declare_self hunlocked ("$" ++ name) kind value
    rw [bareName_sigil] at hfound
    refine ⟨hfound, ?_⟩
    by_cases h : name.toList.head? = some sigil
    · rw [run_declare, resolve_doubled _ h]
      simp [h]
    · exact iff_of_true ((resolve_eq_ok_iff _ h value).2 ⟨_, hfound, rfl⟩) h

theorem doubled_sigil_unresolved :
    (run [.declare "$$a" .string "1"]).get? "$$a" = some ⟨"a", .string, "1"⟩ ∧
      (run [.declare "$$a" .string "1"]).resolve "$$a" = .error (.unresolvedParameter "$$a") :=
  ⟨by decide +kernel, by decide +kernel⟩

end Parameters

end Scenography
