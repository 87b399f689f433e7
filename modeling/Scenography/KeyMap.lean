/-!
Finite maps kept in the order of their keys. Two maps with the same entries are equal.
-/

namespace Scenography

class Key (κ : Type) extends LT κ where
  decideLt : DecidableRel (fun a b : κ => a < b)
  trans : ∀ {a b c : κ}, a < b → b < c → a < c
  irrefl : ∀ a : κ, ¬a < a
  total : ∀ {a b : κ}, ¬a < b → ¬b < a → a = b

instance Key.decidableLt {κ : Type} [Key κ] : DecidableRel (fun a b : κ => a < b) :=
  Key.decideLt

instance : Key Nat where
  decideLt := fun _ _ => inferInstance
  trans := Nat.lt_trans
  irrefl := Nat.lt_irrefl
  total := fun h k => by omega

instance : Key Int where
  decideLt := fun _ _ => inferInstance
  trans := Int.lt_trans
  irrefl := Int.lt_irrefl
  total := fun h k => by omega

instance : Key String where
  decideLt := fun _ _ => inferInstance
  trans := String.lt_trans
  irrefl := String.lt_irrefl
  total := fun h k => String.le_antisymm (String.not_lt.1 k) (String.not_lt.1 h)

structure KeyMap (κ α : Type) [Key κ] where
  entries : List (κ × α)
  sorted : entries.Pairwise fun p q => p.1 < q.1

namespace KeyMap

variable {κ α β : Type} [Key κ]

@[ext] theorem ext {m n : KeyMap κ α} (h : m.entries = n.entries) : m = n := by
  cases m; cases n; cases h; rfl

instance [DecidableEq κ] [DecidableEq α] : DecidableEq (KeyMap κ α) := fun m n =>
  if h : m.entries = n.entries then isTrue (ext h) else isFalse fun e => h (e ▸ rfl)

def empty : KeyMap κ α := ⟨[], .nil⟩

instance : Inhabited (KeyMap κ α) := ⟨empty⟩

instance : EmptyCollection (KeyMap κ α) := ⟨empty⟩

def place (k : κ) (a : α) : List (κ × α) → List (κ × α)
  | [] => [(k, a)]
  | e :: es => if k < e.1 then (k, a) :: e :: es else if e.1 < k then e :: place k a es else (k, a) :: es

theorem mem_place {k : κ} {a : α} {e : κ × α} {es : List (κ × α)} (h : e ∈ place k a es) :
    e = (k, a) ∨ e ∈ es := by
  induction es with
  | nil => simpa [place] using h
  | cons d es ih =>
    unfold place at h
    split at h
    · simpa using h
    · split at h
      · rcases List.mem_cons.1 h with rfl | h
        · simp
        · rcases ih h with h | h <;> simp [h]
      · rcases List.mem_cons.1 h with rfl | h <;> simp [*]

theorem pairwise_place {k : κ} {a : α} {es : List (κ × α)} (h : es.Pairwise fun p q => p.1 < q.1) :
    (place k a es).Pairwise fun p q => p.1 < q.1 := by
  induction es with
  | nil => simp [place]
  | cons d es ih =>
    obtain ⟨hd, hes⟩ := List.pairwise_cons.1 h
    unfold place
    split
    next hk =>
      refine List.pairwise_cons.2 ⟨fun e he => ?_, h⟩
      rcases List.mem_cons.1 he with rfl | he
      · exact hk
      · exact Key.trans hk (hd e he)
    next hk =>
      split
      next hdk =>
        refine List.pairwise_cons.2 ⟨fun e he => ?_, ih hes⟩
        rcases mem_place he with rfl | he
        · exact hdk
        · exact hd e he
      next hdk =>
        have hkd : k = d.1 := Key.total hk hdk
        exact List.pairwise_cons.2 ⟨fun e he => hkd ▸ hd e he, hes⟩

def insert (m : KeyMap κ α) (k : κ) (a : α) : KeyMap κ α :=
  ⟨place k a m.entries, pairwise_place m.sorted⟩

def ofList (l : List (κ × α)) : KeyMap κ α :=
  l.foldl (fun m e => m.insert e.1 e.2) empty

def keys (m : KeyMap κ α) : List κ :=
  m.entries.map (·.1)

def values (m : KeyMap κ α) : List α :=
  m.entries.map (·.2)

def size (m : KeyMap κ α) : Nat :=
  m.entries.length

def map (f : α → β) (m : KeyMap κ α) : KeyMap κ β :=
  ⟨m.entries.map fun e => (e.1, f e.2),
    (List.pairwise_map (f := fun e : κ × α => (e.1, f e.2))).2 m.sorted⟩

section Lookup

variable [DecidableEq κ]

def get? (m : KeyMap κ α) (k : κ) : Option α :=
  (m.entries.find? fun e => e.1 = k).map (·.2)

def contains (m : KeyMap κ α) (k : κ) : Bool :=
  (m.get? k).isSome

def modify (m : KeyMap κ α) (k : κ) (f : α → α) : KeyMap κ α :=
  ⟨m.entries.map fun e => (e.1, if e.1 = k then f e.2 else e.2),
    (List.pairwise_map (f := fun e : κ × α => (e.1, if e.1 = k then f e.2 else e.2))).2 m.sorted⟩

end Lookup

end KeyMap

end Scenography
