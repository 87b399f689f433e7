import Scenography.Proofs.Json.Records
import Scenography.Proofs.Json.Texts
import Scenography.Proofs.KeyMap
import Scenography.Proofs.Quantities
import Scenography.Scene.Coding.Scene

namespace Scenography

open Coded Json Measured

def Quantity.Readable : Quantity → Prop
  | .double x => x.isFinite = true ∧ ReadsBack x
  | .count n => n < UInt32.size

section Readable

variable {α β : Type} [Measured α] [Measured β]

def Readable (a : α) : Prop :=
  ∀ q ∈ quantities a, q.Readable

theorem Readable.pair {γ : Type} [Measured γ] {a : α} {b : β} {c : γ} (h : Readable a)
    (hq : quantities a = quantities (b, c)) : Readable b ∧ Readable c := by
  rw [Readable, hq] at h
  exact List.forall_mem_append.1 h

theorem Readable.of_mem {l : List α} (h : Readable l) {a : α} (ha : a ∈ l) : Readable a :=
  fun q hq => h q (List.mem_flatMap.2 ⟨a, ha, hq⟩)

theorem Readable.of_some {a : α} (h : Readable (some a)) : Readable a :=
  fun q hq => h q (List.mem_flatMap.2 ⟨a, List.mem_singleton_self a, hq⟩)

theorem Readable.of_mem_entries {κ : Type} [Key κ] [Measured κ] {m : KeyMap κ α} (h : Readable m) {e : κ × α}
    (he : e ∈ m.entries) : Readable e.1 ∧ Readable e.2 := by
  have hentries : Readable m.entries := h
  exact (hentries.of_mem he).pair rfl

end Readable

/-- The JSON form of the value has a text, and stands for the value again, whatever form its names have come
to have. -/
structure Legible {α : Type} [Coded α] (f : String → Form) (depth : Nat) (a : α) : Prop where
  fits : (encode a).Fits depth
  reads : decode? ((encode a).refit f) = some a

variable {f : String → Form} {d : Nat}

section Scalars

theorem legible_str (s : String) : Legible f d s :=
  ⟨fits_str, rfl⟩

theorem legible_bool (b : Bool) : Legible f d b :=
  ⟨fits_bool, rfl⟩

theorem isWord_cast {n : Nat} (h : n < UInt64.size) : IsWord n := by
  refine ⟨?_, Int.ofNat_lt.2 h⟩
  have hmin : Int64.minValue.toInt ≤ 0 := by decide
  omega

theorem decode?_count {n : Nat} (h : n < UInt32.size) : decode? (int n) = some n := by
  have hrange : 0 ≤ (n : Int) ∧ (n : Int) < UInt32.size := ⟨Int.natCast_nonneg n, Int.ofNat_lt.2 h⟩
  change (if _ then _ else _) = _
  rw [if_pos hrange]
  rfl

theorem isWord_count {n : Nat} (h : n < UInt32.size) : IsWord n := by
  have hsize : UInt32.size ≤ UInt64.size := by decide
  exact isWord_cast (Nat.lt_of_lt_of_le h hsize)

theorem legible_count {n : Nat} (h : Readable n) : Legible f d n := by
  have hn : n < UInt32.size := h (.count n) List.mem_cons_self
  have hencode : encode n = int n := rfl
  constructor
  · rw [hencode]
    exact fits_int.2 (isWord_count hn)
  · rw [hencode, refit]
    exact decode?_count hn

theorem legible_uint64 (n : UInt64) : Legible f d n := by
  constructor
  · exact fits_int.2 (isWord_cast n.toNat_lt_size)
  · have hrange : 0 ≤ (n.toNat : Int) ∧ (n.toNat : Int) < UInt64.size :=
      ⟨Int.natCast_nonneg _, Int.ofNat_lt.2 n.toNat_lt_size⟩
    change (if _ then _ else _) = _
    rw [if_pos hrange]
    simp

theorem isWord_toInt (i : Int64) : IsWord i.toInt := by
  refine ⟨Int64.minValue_le_toInt i, ?_⟩
  have hmax : i.toInt ≤ Int64.maxValue.toInt := i.toInt_le
  have hsize : Int64.maxValue.toInt < UInt64.size := by decide
  omega

theorem decode?_int64 (i : Int64) : decode? (int i.toInt) = some i := by
  change (if _ then _ else _) = _
  rw [if_pos ⟨Int64.minValue_le_toInt i, i.toInt_le⟩]
  simp

theorem legible_int64 (i : Int64) : Legible f d i := by
  have hencode : encode i = int i.toInt := rfl
  constructor
  · rw [hencode]
    exact fits_int.2 (isWord_toInt i)
  · rw [hencode, refit]
    exact decode?_int64 i

theorem legible_double {x : Float} (h : Readable x) : Legible f d x := by
  obtain ⟨hfinite, hreads⟩ : x.isFinite = true ∧ ReadsBack x := h (.double x) List.mem_cons_self
  have hencode : encode x = float x := if_pos hfinite
  constructor
  · rw [hencode]
    exact fits_float.2 hreads
  · rw [hencode]
    rfl

theorem legible_authored (a : Authored) : Legible f d a :=
  ⟨fits_str, rfl⟩

theorem legible_choice {α : Type} [Coded α] {all : List α} {name : α → String} {a : α} (hencode : encode a = str (name a))
    (hdecode : ∀ j, (decode? j : Option α) = choose? all name j) (hfind : all.find? (name · = name a) = some a) :
    Legible f d a := by
  constructor
  · rw [hencode]
    exact fits_str
  · rw [hencode, hdecode, refit, choose?]
    exact hfind

end Scalars

section Collections

variable {α : Type} [Coded α]

theorem decode?_option {j : Json} (hj : j ≠ Json.null) : (decode? j : Option (Option α)) = (decode? j).map some := by
  cases j with
  | null => exact absurd rfl hj
  | _ => rfl

theorem legible_option {o : Option α} (hnull : (decode? Json.null : Option α) = none)
    (h : ∀ a, o = some a → Legible f d a) : Legible f d o := by
  cases o with
  | none => exact ⟨fits_null, by rw [encode]; rfl⟩
  | some a =>
    obtain ⟨hfits, hreads⟩ := h a rfl
    have hwritten : (encode a).refit f ≠ Json.null := by
      intro heq
      rw [heq, hnull] at hreads
      cases hreads
    refine ⟨hfits, ?_⟩
    change (decode? ((encode a).refit f) : Option (Option α)) = _
    rw [decode?_option hwritten, hreads]
    rfl

theorem legible_list {l : List α} (h : ∀ a ∈ l, Legible f d a) : Legible f (d + 1) l := by
  constructor
  · intro j hj
    obtain ⟨a, ha, rfl⟩ := List.mem_map.1 hj
    exact (h a ha).fits
  · have hitems : (l.map fun a => (encode a).refit f).mapM (decode? : Json → Option α) = some l := by
      induction l with
      | nil => rfl
      | cons a l ih =>
        obtain ⟨ha, hl⟩ := List.forall_mem_cons.1 h
        rw [List.map_cons, List.mapM_cons, ha.reads, ih hl]
        rfl
    change decode? ((arr (l.map encode)).refit f) = _
    rw [refit_arr, List.map_map]
    exact hitems

theorem legible_keyMap {κ : Type} [Key κ] [CodedKey κ] {m : KeyMap κ α}
    (hkeys : ∀ e ∈ m.entries, CodedKey.read? ⟨CodedKey.write e.1, f (CodedKey.write e.1)⟩ = some e.1)
    (h : ∀ e ∈ m.entries, Legible f d e.2) : Legible f (d + 1) m := by
  constructor
  · intro j hj
    obtain ⟨m', hm', rfl⟩ := List.mem_map.1 hj
    obtain ⟨e, he, rfl⟩ := List.mem_map.1 hm'
    exact (h e he).fits
  · have hentries : (named f (m.entries.map fun e => (CodedKey.write e.1, encode e.2))).mapM
        (fun n => do some ((← CodedKey.read? n.1), (← decode? n.2))) = some m.entries := by
      generalize m.entries = l at hkeys h
      induction l with
      | nil => rfl
      | cons e l ih =>
        obtain ⟨hkey, hkeys⟩ := List.forall_mem_cons.1 hkeys
        obtain ⟨he, hl⟩ := List.forall_mem_cons.1 h
        have hrest := ih hkeys hl
        simp only [named, List.map_cons, List.mapM_cons, hkey, he.reads] at hrest ⊢
        rw [hrest]
        rfl
    change decode? ((ofMembers _).refit f) = _
    rw [refit_ofMembers]
    change Option.bind _ _ = _
    rw [hentries, Option.bind_some, KeyMap.ofList_entries]

end Collections

section Keys

theorem written_toString (i : Int) : written (toString i) = .plain := by
  have hdigit {c : Char} (hc : c.isDigit = true) : isEscaped c = false := by
    have hlow : 48 ≤ c.toNat := by
      simp only [Char.isDigit, Bool.and_eq_true, decide_eq_true_eq] at hc
      exact hc.1
    have hq : c ≠ '"' := by rintro rfl; exact absurd hc (by decide)
    have hb : c ≠ '\\' := by rintro rfl; exact absurd hc (by decide)
    have hcontrol : ¬c.toNat < 0x20 := by omega
    simp only [isEscaped, hq, hb, hcontrol, decide_false, Bool.or_false]
  have hdigits (n : Nat) : (Nat.toDigits 10 n).any isEscaped = false :=
    List.any_eq_false.2 fun c hc => by simp [hdigit (Nat.isDigit_of_mem_toDigits (by decide) (by decide) hc)]
  have hnone : (toString i).toList.any isEscaped = false := by
    cases i with
    | ofNat n =>
      have htext : (toString (Int.ofNat n)).toList = Nat.toDigits 10 n := Nat.toList_repr
      rw [htext, hdigits]
    | negSucc n =>
      rw [toList_toString_neg, List.any_cons, hdigits]
      rfl
  rw [written, hnone]
  rfl

theorem integer?_toString {i : Int} (h : IsWord i) : CodedKey.integer? ⟨toString i, written (toString i)⟩ = some i := by
  rw [CodedKey.integer?, written_toString, number?_toString h]

theorem read?_write_count {n : Nat} (h : n < UInt32.size) :
    CodedKey.read? ⟨CodedKey.write n, written (CodedKey.write n)⟩ = some n := by
  have hwrite : CodedKey.write n = toString (n : Int) := rfl
  have hread (name : Name) : CodedKey.read? name = (CodedKey.integer? name).bind fun i => (decode? (int i) : Option Nat) := rfl
  rw [hwrite, hread, integer?_toString (isWord_count h), Option.bind_some]
  exact decode?_count h

theorem read?_write_int64 (i : Int64) :
    CodedKey.read? ⟨CodedKey.write i, written (CodedKey.write i)⟩ = some i := by
  have hwrite : CodedKey.write i = toString i.toInt := rfl
  have hread (name : Name) : CodedKey.read? name = (CodedKey.integer? name).bind fun i => (decode? (int i) : Option Int64) := rfl
  rw [hwrite, hread, integer?_toString (isWord_toInt i), Option.bind_some]
  exact decode?_int64 i

end Keys

section Records

structure Field (f : String → Form) (depth : Nat) where
  {α : Type}
  [coded : Coded α]
  value : α
  legible : Legible f depth value

namespace Field

instance (x : Field f d) : Coded x.α := x.coded

def json (x : Field f d) : Json :=
  encode x.value

theorem fits_json {fields : List (Field f d)} : ∀ j ∈ fields.map json, j.Fits d := by
  intro j hj
  obtain ⟨x, -, rfl⟩ := List.mem_map.1 hj
  exact x.legible.fits

@[simp] theorem field?_json {α : Type} [Coded α] {a : α} (h : Legible f d a) :
    field? (some ((⟨a, h⟩ : Field f d).json.refit f)) = some a :=
  h.reads

end Field

variable {α : Type} [Coded α] {a : α} {tag name : String}

theorem Legible.of_record (names : List String) (fields : List (Field f d))
    (hencode : encode a = record names (fields.map Field.json)) (hn : names.Nodup)
    (hl : names.length = (fields.map Field.json).length)
    (hread : ∀ j, record? names j = some (fields.map fun x => some (x.json.refit f)) → decode? j = some a) :
    Legible f (d + 1) a := by
  have hrecord := record?_refit (f := f) hn hl
  rw [List.map_map] at hrecord
  constructor
  · rw [hencode]
    exact fits_record Field.fits_json
  · rw [hencode]
    exact hread _ hrecord

theorem Legible.of_tagged (names : List String) (fields : List (Field (fun _ => .held) d))
    (hencode : encode a = tagged tag name (record names (fields.map Field.json))) (hn : (tag :: names).Nodup)
    (hl : names.length = (fields.map Field.json).length)
    (hread : ∀ j rest, split? tag j = some (str name, rest) →
      record? names rest = some (fields.map fun x => some (x.json.refit fun _ => .held)) → decode? j = some a) :
    Legible f (d + 1) a := by
  obtain ⟨htag, hnames⟩ := List.nodup_cons.1 hn
  have hmembers : tag ∉ (names.zip (fields.map Field.json)).map (·.1) := by
    rw [List.map_fst_zip (Nat.le_of_eq hl)]
    exact htag
  have hfits : (record names (fields.map Field.json)).Fits (d + 1) := fits_record Field.fits_json
  have hrecord := record?_refit (f := fun _ => .held) hnames hl
  rw [List.map_map] at hrecord
  constructor
  · rw [hencode]
    exact fits_tagged hfits
  · rw [hencode]
    exact hread _ _ (split?_tagged name hmembers hfits) hrecord

theorem Legible.of_tagged_value {β : Type} [Coded β] {b : β} {values : List Json} (names : List String)
    (hencode : encode a = tagged tag name (encode b)) (hrecord : encode b = record names values) (htag : tag ∉ names)
    (h : Legible (fun _ => .held) (d + 1) b)
    (hread : ∀ j rest, split? tag j = some (str name, rest) → decode? rest = some b → decode? j = some a) :
    Legible f (d + 1) a := by
  have hmembers : tag ∉ (names.zip values).map (·.1) := by
    intro hmem
    obtain ⟨m, hm, rfl⟩ := List.mem_map.1 hmem
    exact htag (List.of_mem_zip hm).1
  constructor
  · rw [hencode]
    exact fits_tagged h.fits
  · have hsplit := split?_tagged (f := f) name hmembers (hrecord ▸ h.fits)
    have hreads := h.reads
    rw [hrecord] at hreads
    rw [hencode, hrecord]
    exact hread _ _ hsplit hreads

theorem Legible.of_tag (hencode : encode a = tagged tag name (obj []))
    (hread : ∀ j, split? tag j = some (str name, obj []) → decode? j = some a) : Legible f (d + 1) a := by
  have hfits : (ofMembers []).Fits (d + 1) := List.forall_mem_nil _
  have hsplit := split?_tagged (f := f) name (List.not_mem_nil (a := tag)) hfits
  have hempty : (ofMembers []).refit (fun _ => .held) = obj [] := refit_ofMembers []
  constructor
  · rw [hencode]
    exact fits_tagged hfits
  · rw [hencode]
    exact hread _ (hempty ▸ hsplit)

end Records

end Scenography
