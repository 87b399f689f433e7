import Mathlib.Tactic.IntervalCases
import Scenography.Proofs.Json.Values

namespace Scenography.Json

section Strings

def isEscaped (c : Char) : Bool :=
  c = '"' || c = '\\' || c.toNat < 0x20

def written (s : String) : Form :=
  if s.toList.any isEscaped then .escaped else .plain

def glyph (c : Char) : Glyph :=
  ⟨some c, isEscaped c⟩

theorem hexDigit?_digitChar {k : Nat} (hk : k < 16) : hexDigit? (Nat.digitChar k) = some k := by
  interval_cases k <;> rfl

theorem unit?_hexLow {n : Nat} (hn : n < 0x20) (cs : Chars) :
    unit? ('0' :: '0' :: (hexLow n ++ cs)) = some (some (Char.ofNat n), cs) := by
  have hhex : hex4? ('0' :: '0' :: (hexLow n ++ cs)) = some (n, cs) := by
    have hzero : hexDigit? '0' = some 0 := rfl
    have hlow : n % 16 < 16 := Nat.mod_lt n (by decide)
    have hhigh : n / 16 < 16 := by omega
    have hn' : ((0 * 16 + 0) * 16 + n / 16) * 16 + n % 16 = n := by omega
    simp only [hexLow, List.cons_append, List.nil_append, hex4?, hzero, hexDigit?_digitChar hlow,
      hexDigit?_digitChar hhigh, Option.bind_eq_bind, Option.bind_some, hn']
  have htrail : ¬(0xdc00 ≤ n ∧ n ≤ 0xdfff) := by omega
  have hlead : ¬(0xd800 ≤ n ∧ n ≤ 0xdbff) := by omega
  simp only [unit?, hhex, Option.bind_eq_bind, Option.bind_some, if_neg htrail, if_neg hlead]

theorem quoted?_plainEscape {e c : Char} (hu : e ≠ 'u') (h : plainEscape? e = some c) (fuel : Nat) (cs : Chars) :
    quoted? (fuel + 1) ('\\' :: e :: cs) = (quoted? fuel cs).map fun p => (⟨some c, true⟩ :: p.1, p.2) := by
  cases hbody : quoted? fuel cs <;> simp [quoted?, h, hbody]

theorem quoted?_control {c : Char} (hc : c.toNat < 0x20) (fuel : Nat) (cs : Chars) :
    quoted? (fuel + 1) (escape c ++ cs) = (quoted? fuel cs).map fun p => (⟨some c, true⟩ :: p.1, p.2) := by
  have hq : c ≠ '"' := by rintro rfl; exact absurd hc (by decide)
  have hb : c ≠ '\\' := by rintro rfl; exact absurd hc (by decide)
  unfold escape
  rw [if_neg hq, if_neg hb, if_pos hc]
  split
  case h_6 =>
    have hunit := unit?_hexLow hc cs
    rw [Char.ofNat_toNat] at hunit
    simp only [List.cons_append, List.nil_append, quoted?, hunit, Option.bind_eq_bind, Option.bind_some]
    cases quoted? fuel cs <;> rfl
  all_goals
    next hn =>
      rw [← Char.ofNat_toNat c, hn]
      exact quoted?_plainEscape (by decide) rfl fuel cs

theorem quoted?_escape (c : Char) (fuel : Nat) (cs : Chars) :
    quoted? (fuel + 1) (escape c ++ cs) = (quoted? fuel cs).map fun p => (glyph c :: p.1, p.2) := by
  by_cases hq : c = '"'
  · subst hq
    exact quoted?_plainEscape (by decide) rfl fuel cs
  · by_cases hb : c = '\\'
    · subst hb
      exact quoted?_plainEscape (by decide) rfl fuel cs
    · by_cases hc : c.toNat < 0x20
      · have hglyph : glyph c = ⟨some c, true⟩ := by simp [glyph, isEscaped, hc]
        rw [hglyph, quoted?_control hc]
      · have hescape : escape c = [c] := by simp [escape, hq, hb, hc]
        have hglyph : glyph c = ⟨some c, false⟩ := by simp [glyph, isEscaped, hq, hb, hc]
        rw [hescape, hglyph]
        cases hbody : quoted? fuel cs <;> simp [quoted?, hc, hbody]

theorem escape_ne_nil (c : Char) : escape c ≠ [] := by
  unfold escape
  split
  · exact List.cons_ne_nil _ _
  · split
    · exact List.cons_ne_nil _ _
    · split
      · split <;> exact List.cons_ne_nil _ _
      · exact List.cons_ne_nil _ _

def quoteTail (s : String) : Chars :=
  s.toList.flatMap escape ++ ['"']

theorem toList_quote (s : String) : (quote s).toList = '"' :: quoteTail s := by
  rw [quote, String.toList_ofList]
  rfl

theorem quoted?_flatMap (cs : Chars) {fuel : Nat} (h : (cs.flatMap escape).length < fuel) (rest : Chars) :
    quoted? fuel (cs.flatMap escape ++ '"' :: rest) = some (cs.map glyph, rest) := by
  induction cs generalizing fuel with
  | nil =>
    cases fuel with
    | zero => cases h
    | succ fuel => rfl
  | cons c cs ih =>
    cases fuel with
    | zero => cases h
    | succ fuel =>
      have hlength := List.length_pos_iff.2 (escape_ne_nil c)
      rw [List.flatMap_cons, List.length_append] at h
      rw [List.flatMap_cons, List.append_assoc, quoted?_escape, ih (by omega)]
      rfl

theorem quoted?_quoteTail (s : String) (fuel : Nat) (h : (quoteTail s).length ≤ fuel) (rest : Chars) :
    quoted? fuel (quoteTail s ++ rest) = some (s.toList.map glyph, rest) := by
  rw [quoteTail, List.length_append] at h
  rw [quoteTail, List.append_assoc]
  exact quoted?_flatMap s.toList h rest

theorem text?_glyphs (s : String) : text? (s.toList.map glyph) = some s := by
  have h (cs : Chars) : (cs.map glyph).mapM Glyph.char? = some cs := by
    induction cs with
    | nil => rfl
    | cons c cs ih => simp [ih, glyph]
  rw [text?, h]
  simp

theorem name?_glyphs (s : String) : name? (s.toList.map glyph) = some ⟨s, written s⟩ := by
  have h : (s.toList.map glyph).any (·.isEscape) = s.toList.any isEscaped := by
    rw [List.any_map]
    rfl
  rw [name?, text?_glyphs, h]
  rfl

end Strings

section Layouts

theorem skip_append {ws : Chars} (h : ∀ c ∈ ws, isSpace c = true) (cs : Chars) : skip (ws ++ cs) = skip cs := by
  rw [skip, List.dropWhile_append_of_pos h]
  rfl

theorem skip_cons {c : Char} (h : isSpace c = false) (cs : Chars) : skip (c :: cs) = c :: cs := by
  simp [skip, h]

theorem isSpace_of_mem_break (l : Layout) (level : Nat) : ∀ c ∈ (l.break level).toList, isSpace c = true := by
  intro c hc
  cases l with
  | line => cases hc
  | block =>
    rw [Layout.break, String.toList_ofList] at hc
    rcases List.mem_cons.1 hc with rfl | hc
    · rfl
    · rw [List.eq_of_mem_replicate hc]
      rfl

theorem skip_break (l : Layout) (level : Nat) (cs : Chars) : skip ((l.break level).toList ++ cs) = skip cs :=
  skip_append (isSpace_of_mem_break l level) cs

theorem ends_break (l : Layout) (level : Nat) {c : Char} {rest : Chars} (hc : c = ',' ∨ c = ']' ∨ c = '}') :
    Ends ((l.break level).toList ++ c :: rest) := by
  cases l with
  | line =>
    apply ends_cons
    rcases hc with rfl | rfl | rfl <;> decide
  | block =>
    rw [Layout.break, String.toList_ofList]
    apply ends_cons
    decide

def parts (l : Layout) (level : Nat) (closing : Char) (p : String) : List String → Chars
  | [] => p.toList ++ ((l.break level).toList ++ [closing])
  | q :: ps => p.toList ++ (',' :: ((l.break (level + 1)).toList ++ parts l level closing q ps))

theorem toList_intercalate_parts (l : Layout) (level : Nat) (closing : Char) (p : String) (ps : List String) :
    (String.intercalate ("," ++ l.break (level + 1)) (p :: ps)).toList ++ ((l.break level).toList ++ [closing]) =
      parts l level closing p ps := by
  induction ps generalizing p with
  | nil => simp [parts]
  | cons q ps ih =>
    rw [String.intercalate_cons_cons, parts, ← ih]
    simp

theorem toList_enclose (l : Layout) (level : Nat) (opening closing : String) {o c : Char}
    (ho : opening.toList = [o]) (hc : closing.toList = [c]) (p : String) (ps : List String) :
    (enclose l level opening closing (p :: ps)).toList =
      o :: ((l.break (level + 1)).toList ++ parts l level c p ps) := by
  rw [← toList_intercalate_parts]
  simp [enclose, ho, hc]

theorem toList_enclose_eq_cons (l : Layout) (level : Nat) (opening closing : String) {o : Char}
    (ho : opening.toList = [o]) (ps : List String) : ∃ cs, (enclose l level opening closing ps).toList = o :: cs := by
  unfold enclose
  split <;> simp [ho]

end Layouts

section Values

variable {l : Layout} {d : Nat}

def Returns (l : Layout) (depth : Nat) (j : Json) : Prop :=
  ∀ level fuel rest, (j.write l level).toList.length ≤ fuel → Ends rest →
    value? fuel depth ((j.write l level).toList ++ rest) = some (j.refit written, rest)

theorem value?_number {c : Char} {cs : Chars} {p : Json × Chars} (h : number? (c :: cs) = some p) (fuel : Nat) :
    value? (fuel + 1) d (c :: cs) = some p := by
  have hne : c ≠ '"' ∧ c ≠ '[' ∧ c ≠ '\x7b' ∧ c ≠ 'n' ∧ c ≠ 't' ∧ c ≠ 'f' := by
    rcases number?_head h with rfl | hd
    · decide
    · refine ⟨?_, ?_, ?_, ?_, ?_, ?_⟩ <;> rintro rfl <;> exact absurd hd (by decide)
  rw [value?]
  · exact h
  all_goals
    rintro cs' heq
    cases heq
    simp at hne

theorem returns_of_number {j : Json} (hj : j.refit written = j)
    (h : ∀ level, number? (j.write l level).toList = some (j, [])) : Returns l d j := by
  intro level fuel rest hfuel hrest
  have hnumber := number?_append (h level) hrest
  rw [hj]
  cases htext : (j.write l level).toList with
  | nil =>
    have hnone := h level
    rw [htext] at hnone
    cases hnone
  | cons c cs =>
    rw [htext] at hfuel hnumber
    obtain ⟨fuel, rfl⟩ : ∃ n, fuel = n + 1 := ⟨fuel - 1, by rw [List.length_cons] at hfuel; omega⟩
    exact value?_number hnumber fuel

theorem returns_null : Returns l d null := by
  intro level fuel rest hfuel _
  rw [write] at hfuel ⊢
  cases fuel with
  | zero => cases hfuel
  | succ fuel => rfl

theorem returns_bool (b : Bool) : Returns l d (bool b) := by
  intro level fuel rest hfuel _
  rw [write] at hfuel ⊢
  cases fuel with
  | zero => cases b <;> cases hfuel
  | succ fuel => cases b <;> rfl

theorem returns_str (s : String) : Returns l d (str s) := by
  intro level fuel rest hfuel _
  rw [write, toList_quote] at hfuel ⊢
  cases fuel with
  | zero => cases hfuel
  | succ fuel =>
    have hquoted := quoted?_quoteTail s fuel (Nat.le_of_succ_le_succ hfuel) rest
    rw [List.cons_append, value?, hquoted, Option.map_some, text?_glyphs]
    rfl

def Opens (cs : Chars) : Prop :=
  ∃ c cs', cs = c :: cs' ∧ isSpace c = false ∧ c ≠ ']' ∧ c ≠ '\x7d'

theorem opens_write (l : Layout) (level : Nat) {j : Json} (h : j.Fits d) : Opens (j.write l level).toList := by
  have hnumber {cs : Chars} {p : Json × Chars} (h : number? cs = some p) : Opens cs := by
    cases cs with
    | nil => cases h
    | cons c cs =>
      refine ⟨c, cs, rfl, ?_⟩
      rcases number?_head h with rfl | hd
      · decide
      · have hspace : isSpace c = false := by
          simp only [isSpace, Bool.or_eq_false_iff, decide_eq_false_iff_not]
          refine ⟨⟨⟨?_, ?_⟩, ?_⟩, ?_⟩ <;> rintro rfl <;> exact absurd hd (by decide)
        refine ⟨hspace, ?_, ?_⟩ <;> rintro rfl <;> exact absurd hd (by decide)
  cases j with
  | null =>
    rw [write]
    exact ⟨'n', _, rfl, by decide⟩
  | bool b =>
    rw [write]
    cases b
    · exact ⟨'f', _, rfl, by decide⟩
    · exact ⟨'t', _, rfl, by decide⟩
  | int i =>
    rw [write]
    exact hnumber (number?_toString (fits_int.1 h))
  | float x =>
    rw [write]
    exact hnumber (fits_float.1 h)
  | str s =>
    rw [write, toList_quote]
    exact ⟨'"', _, rfl, by decide⟩
  | arr items =>
    rw [write]
    obtain ⟨cs, hcs⟩ := toList_enclose_eq_cons l level "[" "]" rfl (writeItems l (level + 1) items)
    exact ⟨'[', cs, hcs, by decide⟩
  | obj members =>
    rw [write]
    obtain ⟨cs, hcs⟩ := toList_enclose_eq_cons l level "\x7b" "\x7d" rfl (writeMembers l (level + 1) members)
    exact ⟨'\x7b', cs, hcs, by decide⟩
  | unusable => exact (not_fits_unusable h).elim

theorem skip_of_opens {cs : Chars} (h : Opens cs) (rest : Chars) : skip (cs ++ rest) = cs ++ rest := by
  obtain ⟨c, cs', rfl, hspace, -⟩ := h
  exact skip_cons hspace (cs' ++ rest)

theorem Opens.append {cs : Chars} (h : Opens cs) (rest : Chars) : Opens (cs ++ rest) := by
  obtain ⟨c, cs', rfl, hc⟩ := h
  exact ⟨c, cs' ++ rest, rfl, hc⟩

end Values

section Lists

variable {l : Layout} {d level fuel : Nat} {cs r r' rest : Chars} {v : Json}

theorem writeItems_eq (items : List Json) : writeItems l level items = items.map (write l level) := by
  induction items with
  | nil => rw [writeItems, List.map_nil]
  | cons j js ih => rw [writeItems, ih, List.map_cons]

theorem items?_last (hv : value? fuel d (skip cs) = some (v, r)) (hr : skip r = ']' :: rest) :
    items? (fuel + 1) d cs = some ([v], rest) := by
  rw [items?, hv]
  simp [hr]

theorem items?_more {vs : List Json} (hv : value? fuel d (skip cs) = some (v, r)) (hr : skip r = ',' :: r')
    (hvs : items? fuel d r' = some (vs, rest)) : items? (fuel + 1) d cs = some (v :: vs, rest) := by
  rw [items?, hv]
  simp [hr, hvs]

theorem items?_parts {j : Json} {js : List Json} (h : ∀ i ∈ j :: js, i.Fits d ∧ Returns l d i) (level fuel : Nat)
    (hfuel : (parts l level ']' (j.write l (level + 1)) (js.map (write l (level + 1)))).length ≤ fuel)
    {ws : Chars} (hws : ∀ c ∈ ws, isSpace c = true) (rest : Chars) :
    items? fuel d (ws ++ (parts l level ']' (j.write l (level + 1)) (js.map (write l (level + 1))) ++ rest)) =
      some ((j :: js).map (refit written), rest) := by
  induction js generalizing j fuel ws with
  | nil =>
    obtain ⟨hfits, hreturns⟩ := h j List.mem_cons_self
    simp only [List.map_nil, parts, List.length_append, List.length_singleton] at hfuel
    simp only [List.map_nil, parts, List.append_assoc, List.singleton_append]
    obtain ⟨fuel, rfl⟩ : ∃ n, fuel = n + 1 := ⟨fuel - 1, by omega⟩
    have hends : Ends ((l.break level).toList ++ ']' :: rest) := ends_break l level (by simp)
    apply items?_last (r := (l.break level).toList ++ ']' :: rest)
    · rw [skip_append hws, skip_of_opens (opens_write l _ hfits)]
      exact hreturns _ _ _ (by omega) hends
    · rw [skip_break]
      exact skip_cons (by decide) rest
  | cons k ks ih =>
    obtain ⟨hj, hks⟩ := List.forall_mem_cons.1 h
    simp only [List.map_cons, parts, List.length_append, List.length_cons] at hfuel
    simp only [List.map_cons, parts, List.append_assoc, List.cons_append]
    obtain ⟨fuel, rfl⟩ : ∃ n, fuel = n + 1 := ⟨fuel - 1, by omega⟩
    have hrest := ih hks fuel (by omega) (isSpace_of_mem_break l (level + 1))
    refine items?_more ?_ (skip_cons (c := ',') (by decide) _) hrest
    rw [skip_append hws, skip_of_opens (opens_write l _ hj.1)]
    exact hj.2 _ _ _ (by omega) (ends_cons (by decide))

theorem value?_arr {depth : Nat} (h : Opens cs) {ws : Chars} (hws : ∀ c ∈ ws, isSpace c = true) :
    value? (fuel + 1) depth ('[' :: (ws ++ cs)) =
      (items? fuel (depth - 1) cs).map fun p => (within depth (arr p.1), p.2) := by
  obtain ⟨c, cs, rfl, hspace, hc, -⟩ := h
  simp [value?, skip_append hws, skip_cons hspace, hc]

theorem opens_parts (l : Layout) (level : Nat) (closing : Char) {p : String} (h : Opens p.toList) (ps : List String) :
    Opens (parts l level closing p ps) := by
  cases ps with
  | nil => exact h.append _
  | cons q ps => exact h.append _

theorem returns_arr {items : List Json} (h : ∀ i ∈ items, i.Fits d ∧ Returns l d i) :
    Returns l (d + 1) (arr items) := by
  intro level fuel rest hfuel _
  rw [write, writeItems_eq] at hfuel ⊢
  cases items with
  | nil =>
    have htext : (enclose l level "[" "]" []).toList = ['[', ']'] := by simp [enclose]
    rw [List.map_nil, htext] at hfuel ⊢
    cases fuel with
    | zero => cases hfuel
    | succ fuel =>
      rw [refit_arr]
      rfl
  | cons j js =>
    have hfirst := (h j List.mem_cons_self).1
    rw [List.map_cons, toList_enclose l level "[" "]" (o := '[') (c := ']') rfl rfl] at hfuel ⊢
    simp only [List.length_cons, List.length_append] at hfuel
    obtain ⟨fuel, rfl⟩ : ∃ n, fuel = n + 1 := ⟨fuel - 1, by omega⟩
    have hopens := (opens_parts l level ']' (opens_write l (level + 1) hfirst) (js.map (write l (level + 1)))).append rest
    have hitems := items?_parts h level fuel (by omega) (List.forall_mem_nil _) rest
    rw [List.cons_append, List.append_assoc, value?_arr hopens (isSpace_of_mem_break l _), Nat.add_sub_cancel,
      ← List.nil_append (_ ++ rest), hitems, refit_arr]
    rfl

end Lists

section Objects

variable {l : Layout} {d level fuel : Nat} {cs rest : Chars}

def memberText (l : Layout) (level : Nat) (m : Name × Json) : String :=
  quote m.1.text ++ l.colon ++ m.2.write l level

theorem writeMembers_eq (members : List (Name × Json)) :
    writeMembers l level members = members.map (memberText l level) := by
  induction members with
  | nil => rw [writeMembers, List.map_nil]
  | cons m ms ih => rw [writeMembers, ih, List.map_cons, memberText]

theorem toList_colon (l : Layout) : ∃ ws, l.colon.toList = ':' :: ws ∧ ∀ c ∈ ws, isSpace c = true := by
  cases l with
  | line => exact ⟨[], rfl, List.forall_mem_nil _⟩
  | block => exact ⟨[' '], rfl, by simp [isSpace]⟩

theorem opens_memberText (l : Layout) (level : Nat) (m : Name × Json) : Opens (memberText l level m).toList := by
  simp only [memberText, String.toList_append, toList_quote, List.cons_append]
  exact ⟨'"', _, rfl, by decide⟩

def returned (m : Name × Json) : Option Name × Json :=
  (some ⟨m.1.text, written m.1.text⟩, m.2.refit written)

theorem members?_text {m : Name × Json} (hm : m.2.Fits d ∧ Returns l d m.2)
    (hfuel : (memberText l level m).toList.length ≤ fuel) {ws : Chars} (hws : ∀ c ∈ ws, isSpace c = true)
    (hends : Ends rest) :
    members? (fuel + 1) d (ws ++ ((memberText l level m).toList ++ rest)) =
      match skip rest with
      | '\x7d' :: rest => some ([returned m], rest)
      | ',' :: rest => (members? fuel d rest).bind fun p => some (returned m :: p.1, p.2)
      | _ => none := by
  obtain ⟨blanks, hcolon, hblanks⟩ := toList_colon l
  have htext : (memberText l level m).toList =
      '"' :: (quoteTail m.1.text ++ ':' :: (blanks ++ (m.2.write l level).toList)) := by
    simp [memberText, toList_quote, hcolon]
  rw [htext] at hfuel ⊢
  simp only [List.length_cons, List.length_append] at hfuel
  simp only [List.cons_append, List.append_assoc]
  have hquoted := quoted?_quoteTail m.1.text fuel (by omega)
    (':' :: (blanks ++ ((m.2.write l level).toList ++ rest)))
  have hvalue := hm.2 level fuel rest (by omega) hends
  rw [members?, skip_append hws, skip_cons (by decide)]
  simp only [hquoted, Option.bind_eq_bind, Option.bind_some, skip_cons (c := ':') (by decide), skip_append hblanks,
    skip_of_opens (opens_write l level hm.1), hvalue, name?_glyphs]
  rfl

theorem members?_parts {m : Name × Json} {ms : List (Name × Json)} (h : ∀ n ∈ m :: ms, n.2.Fits d ∧ Returns l d n.2)
    (level fuel : Nat)
    (hfuel : (parts l level '\x7d' (memberText l (level + 1) m) (ms.map (memberText l (level + 1)))).length ≤ fuel)
    {ws : Chars} (hws : ∀ c ∈ ws, isSpace c = true) (rest : Chars) :
    members? fuel d
        (ws ++ (parts l level '\x7d' (memberText l (level + 1) m) (ms.map (memberText l (level + 1))) ++ rest)) =
      some ((m :: ms).map returned, rest) := by
  induction ms generalizing m fuel ws with
  | nil =>
    simp only [List.map_nil, parts, List.length_append, List.length_singleton] at hfuel
    simp only [List.map_nil, parts, List.append_assoc, List.singleton_append]
    obtain ⟨fuel, rfl⟩ : ∃ n, fuel = n + 1 := ⟨fuel - 1, by omega⟩
    have hends : Ends ((l.break level).toList ++ '\x7d' :: rest) := ends_break l level (by simp)
    have hclosed : skip ('\x7d' :: rest) = '\x7d' :: rest := skip_cons (by decide) rest
    rw [members?_text (h m List.mem_cons_self) (by omega) hws hends, skip_break, hclosed]
    rfl
  | cons k ks ih =>
    obtain ⟨hm, hks⟩ := List.forall_mem_cons.1 h
    simp only [List.map_cons, parts, List.length_append, List.length_cons] at hfuel
    simp only [List.map_cons, parts, List.append_assoc, List.cons_append]
    obtain ⟨fuel, rfl⟩ : ∃ n, fuel = n + 1 := ⟨fuel - 1, by omega⟩
    have hrest := ih hks fuel (by omega) (isSpace_of_mem_break l (level + 1))
    rw [members?_text hm (by omega) hws (ends_cons (by decide)), skip_cons (by decide)]
    simp only [hrest]
    rfl

theorem object_returned (members : List (Name × Json)) :
    object (members.map returned) = (obj members).refit written := by
  have h : (members.map returned).mapM (fun m => m.1.map (·, m.2)) =
      some (members.map fun m => (⟨m.1.text, written m.1.text⟩, m.2.refit written)) := by
    induction members with
    | nil => rfl
    | cons m ms ih => simp [returned, ih]
  rw [object, h, refit_obj]

theorem value?_obj {depth : Nat} (h : Opens cs) {ws : Chars} (hws : ∀ c ∈ ws, isSpace c = true) :
    value? (fuel + 1) depth ('\x7b' :: (ws ++ cs)) =
      (members? fuel (depth - 1) cs).map fun p => (within depth (object p.1), p.2) := by
  obtain ⟨c, cs, rfl, hspace, -, hc⟩ := h
  simp [value?, skip_append hws, skip_cons hspace, hc]

theorem returns_obj {members : List (Name × Json)} (h : ∀ m ∈ members, m.2.Fits d ∧ Returns l d m.2) :
    Returns l (d + 1) (obj members) := by
  intro level fuel rest hfuel _
  rw [write, writeMembers_eq] at hfuel ⊢
  cases members with
  | nil =>
    have htext : (enclose l level "\x7b" "\x7d" []).toList = ['\x7b', '\x7d'] := by simp [enclose]
    rw [List.map_nil, htext] at hfuel ⊢
    cases fuel with
    | zero => cases hfuel
    | succ fuel =>
      rw [refit_obj]
      rfl
  | cons m ms =>
    rw [List.map_cons, toList_enclose l level "\x7b" "\x7d" (o := '\x7b') (c := '\x7d') rfl rfl] at hfuel ⊢
    simp only [List.length_cons, List.length_append] at hfuel
    obtain ⟨fuel, rfl⟩ : ∃ n, fuel = n + 1 := ⟨fuel - 1, by omega⟩
    have hopens := (opens_parts l level '\x7d' (opens_memberText l (level + 1) m)
      (ms.map (memberText l (level + 1)))).append rest
    have hmembers := members?_parts h level fuel (by omega) (List.forall_mem_nil _) rest
    rw [List.cons_append, List.append_assoc, value?_obj hopens (isSpace_of_mem_break l _), Nat.add_sub_cancel,
      ← List.nil_append (_ ++ rest), hmembers, Option.map_some, object_returned]
    rfl

end Objects

theorem Fits.returns {l : Layout} {d : Nat} {j : Json} (h : j.Fits d) : Returns l d j := by
  cases j with
  | null => exact returns_null
  | bool b => exact returns_bool b
  | int i => exact returns_of_number (by rw [refit]) fun level => by rw [write]; exact number?_toString (fits_int.1 h)
  | float x => exact returns_of_number (by rw [refit]) fun level => by rw [write]; exact fits_float.1 h
  | str s => exact returns_str s
  | arr items =>
    cases d with
    | zero => exact h.elim
    | succ d => exact returns_arr fun i hi => ⟨h i hi, Fits.returns (h i hi)⟩
  | obj members =>
    cases d with
    | zero => exact h.elim
    | succ d => exact returns_obj fun m hm => ⟨h m hm, Fits.returns (h m hm)⟩
  | unusable => exact (not_fits_unusable h).elim
termination_by d

theorem read?_write (l : Layout) {j : Json} (h : j.Fits maxDepth) : read? (j.write l 0) = some (j.refit written) := by
  have hopens := skip_of_opens (opens_write l 0 h) []
  have hvalue := h.returns (l := l) 0 ((j.write l 0).toList.length + 1) [] (Nat.le_succ _) ends_nil
  rw [List.append_nil] at hopens hvalue
  simp only [read?, hopens, hvalue, Option.bind_eq_bind, Option.bind_some]
  rfl

end Scenography.Json
