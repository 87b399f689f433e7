import Scenography.CommandLine.Files
import Scenography.Proofs.KeyMap
import Scenography.Proofs.Paths

namespace Scenography

namespace Path

def Proper (name : String) : Prop :=
  name ≠ "" ∧ name ≠ "." ∧ name ≠ ".."

instance (name : String) : Decidable (Proper name) :=
  inferInstanceAs (Decidable (_ ∧ _ ∧ _))

theorem proper_iff {name : String} : Proper name ↔ (name = "" || name = "." || name = "..") = false := by
  simp [Proper, and_assoc]

theorem exists_split_join (folder : String) {name : String} (hname : '/' ∉ name.toList) :
    ∃ front, Text.split '/' (join folder name) = front ++ [name] := by
  have hsplit (lead : List Char) (hjoin : (join folder name).toList = lead ++ '/' :: name.toList) :
      Text.split '/' (join folder name) = (Text.splitChars '/' lead).map String.ofList ++ [name] := by
    rw [Text.split, hjoin, Text.splitChars_append_cons, Text.splitChars_of_notMem hname, List.map_append,
      List.map_singleton, String.ofList_toList]
  by_cases hempty : folder = ""
  · refine ⟨[], ?_⟩
    rw [join, if_pos (.inl hempty), hempty, String.empty_append, Text.split, Text.splitChars_of_notMem hname,
      List.map_singleton, String.ofList_toList, List.nil_append]
  · by_cases hlast : folder.toList.getLast? = some '/'
    · refine ⟨_, hsplit folder.toList.dropLast ?_⟩
      rw [join, if_pos (.inr hlast), String.toList_append]
      conv_lhs => rw [← List.dropLast_append_getLast? '/' hlast]
      rw [List.append_assoc, List.singleton_append]
    · refine ⟨_, hsplit folder.toList ?_⟩
      rw [join, if_neg (not_or.2 ⟨hempty, hlast⟩), String.toList_append, String.toList_append, List.append_assoc]
      rfl

end Path

namespace CommandLine.Files

open Scenography.Path (Proper)

variable {f g : Files} {place folder names : List String} {path name text : String}

def put (f : Files) (place : List String) (text : String) : Files :=
  { f with items := f.items.insert place (.file text) }

theorem item?_put (hplace : place ≠ []) (other : List String) :
    (f.put place text).item? other = if other = place then some (.file text) else f.item? other := by
  by_cases hother : other = []
  · rw [hother, if_neg hplace.symm]
    rfl
  · have hempty : other.isEmpty = false := by simpa using hother
    simp only [item?, hempty, Bool.false_eq_true, if_false]
    exact KeyMap.get?_insert _ _ _ _

structure Within (f g : Files) : Prop where
  home : g.home = f.home
  there : ∀ place, (f.item? place).isSome → (g.item? place).isSome
  isFolder : ∀ place, f.isFolder place → g.isFolder place

theorem isFolder_iff : f.isFolder place = true ↔ f.item? place = some .folder := by
  unfold isFolder
  split
  next h => simp [h]
  next h => simpa using h

theorem within_put (hplace : place ≠ []) (h : f.isFolder place = false) : f.Within (f.put place text) where
  home := rfl
  there other hother := by
    rw [item?_put hplace]
    split
    · rfl
    · exact hother
  isFolder other hother := by
    have hne : other ≠ place := by
      rintro rfl
      rw [h] at hother
      cases hother
    rw [isFolder_iff, item?_put hplace, if_neg hne]
    exact isFolder_iff.1 hother

theorem within_say (lines : List String) : f.Within { f with said := lines } :=
  ⟨rfl, fun _ h => h, fun _ h => h⟩

theorem follow_append (f : Files) (place names names' : List String) :
    f.follow place (names ++ names') = f.follow place names >>= fun place => f.follow place names' := by
  induction names generalizing place with
  | nil => rfl
  | cons name names ih =>
    rw [List.cons_append, follow, follow]
    split
    · split
      · rfl
      · exact ih _
    · cases f.look place name with
      | error t => rfl
      | ok item =>
        cases item with
        | none => rfl
        | some item => exact ih _

theorem look_eq_ok_iff {item : Option Item} : f.look folder name = .ok item ↔
    f.isFolder folder ∧ name.utf8ByteSize ≤ nameLimit ∧ f.item? (folder ++ [name]) = item := by
  unfold look
  cases f.isFolder folder
  · simp
  · by_cases hlong : nameLimit < name.utf8ByteSize
    · simp [hlong]
    · simp [hlong, Nat.not_lt.1 hlong]

theorem Within.follow (h : f.Within g) {place' : List String} (hf : f.follow place names = .ok place') :
    g.follow place names = .ok place' := by
  induction names generalizing place with
  | nil => exact hf
  | cons name names ih =>
    rw [Files.follow] at hf ⊢
    split at hf
    next hname =>
      rw [if_pos hname]
      cases hfolder : f.isFolder place with
      | false =>
        rw [hfolder] at hf
        cases hf
      | true =>
        rw [hfolder] at hf
        rw [h.isFolder _ hfolder]
        exact ih hf
    next hname =>
      rw [if_neg hname]
      cases hlook : f.look place name with
      | error t =>
        rw [hlook] at hf
        cases hf
      | ok item =>
        rw [hlook] at hf
        cases item with
        | none => cases hf
        | some item =>
          obtain ⟨hfolder, hshort, hitem⟩ := look_eq_ok_iff.1 hlook
          obtain ⟨item', hitem'⟩ := Option.isSome_iff_exists.1 (h.there _ (by rw [hitem]; rfl))
          rw [look_eq_ok_iff.2 ⟨h.isFolder _ hfolder, hshort, hitem'⟩]
          exact ih hf

structure Leads (f : Files) (path : String) (folder : List String) (name : String) : Prop where
  check : check path = .ok ()
  proper : Proper name
  way : ∃ front, Text.split '/' path = front ++ [name] ∧ f.follow (f.start path) front = .ok folder
  isFolder : f.isFolder folder
  short : name.utf8ByteSize ≤ nameLimit

theorem Leads.look (h : f.Leads path folder name) : f.look folder name = .ok (f.item? (folder ++ [name])) :=
  look_eq_ok_iff.2 ⟨h.isFolder, h.short, rfl⟩

theorem Leads.mono (h : f.Leads path folder name) (hwithin : f.Within g) : g.Leads path folder name := by
  obtain ⟨front, hsplit, hfollow⟩ := h.way
  have hstart : g.start path = f.start path := by rw [start, start, hwithin.home]
  exact ⟨h.check, h.proper, ⟨front, hsplit, hstart ▸ hwithin.follow hfollow⟩, hwithin.isFolder _ h.isFolder, h.short⟩

theorem follow_proper (h : Proper name) : f.follow folder [name] =
    f.look folder name >>= fun item => if item.isSome then .ok (folder ++ [name]) else .error .missing := by
  rw [follow, Path.proper_iff.1 h, if_neg Bool.false_ne_true]
  cases f.look folder name with
  | error t => rfl
  | ok item => cases item <;> rfl

theorem reach_eq {front : List String} (hcheck : check path = .ok ()) (hname : Proper name)
    (hsplit : Text.split '/' path = front ++ [name]) :
    f.reach path = f.follow (f.start path) front >>= fun folder => f.follow folder [name] := by
  have hnul : Path.hasNul path = false := by
    cases h : Path.hasNul path with
    | false => rfl
    | true => rw [Files.check, if_pos h] at hcheck; cases hcheck
  have hempty : path ≠ "" := by
    rintro rfl
    have hnone : Text.split '/' "" = [""] := rfl
    have hlast := congrArg List.getLast? (hnone.symm.trans hsplit)
    rw [List.getLast?_concat] at hlast
    exact hname.1 (Option.some.inj hlast).symm
  rw [reach, hnul, if_neg Bool.false_ne_true, if_neg hempty, hsplit, follow_append]

theorem Leads.read_eq_ok_iff (h : f.Leads path folder name) :
    f.read path = .ok text ↔ f.item? (folder ++ [name]) = some (.file text) := by
  obtain ⟨front, hsplit, hfollow⟩ := h.way
  rw [Files.read, h.check, reach_eq h.check h.proper hsplit, hfollow]
  change (f.follow folder [name] >>= _) = _ ↔ _
  rw [follow_proper h.proper, h.look]
  cases hitem : f.item? (folder ++ [name]) with
  | none => simp [bind, Except.bind]
  | some item =>
    simp only [bind, Except.bind, Option.isSome_some, if_true, hitem]
    cases item <;> simp [throw, throwThe, MonadExceptOf.throw, pure, Except.pure]

theorem lastOf_eq_ok_iff (hname : Proper name) :
    f.lastOf path (Text.split '/' path).reverse = .ok (folder, name) ↔
      ∃ front, Text.split '/' path = front ++ [name] ∧ f.follow (f.start path) front = .ok folder := by
  cases hnames : (Text.split '/' path).reverse with
  | nil => simp [lastOf, List.reverse_eq_nil_iff.1 hnames]
  | cons last names =>
    have hsplit : Text.split '/' path = names.reverse ++ [last] := by
      rw [← List.reverse_cons, ← hnames, List.reverse_reverse]
    rw [lastOf, hsplit]
    constructor
    · intro h
      cases hfollow : f.follow (f.start path) names.reverse with
      | error t => rw [hfollow] at h; cases h
      | ok folder' =>
        rw [hfollow] at h
        obtain ⟨rfl, rfl⟩ := Prod.mk.inj (Except.ok.inj h)
        exact ⟨_, rfl, hfollow⟩
    · rintro ⟨front, happend, hfollow⟩
      obtain ⟨hfront, hlast⟩ := List.append_inj' happend rfl
      rw [hfront, hfollow, (List.cons.inj hlast).1]
      rfl

theorem Leads.write (h : f.Leads path folder name) (hfree : f.isFolder (folder ++ [name]) = false) (text : String) :
    f.write path text = .ok (f.put (folder ++ [name]) text) := by
  rw [Files.write, h.check, (lastOf_eq_ok_iff h.proper).2 h.way]
  simp only [bind, Except.bind]
  rw [Path.proper_iff.1 h.proper, if_neg Bool.false_ne_true, h.look]
  rw [Files.isFolder] at hfree
  cases hitem : f.item? (folder ++ [name]) with
  | none => rfl
  | some item =>
    cases item with
    | folder => rw [hitem] at hfree; cases hfree
    | file old => rfl

theorem write_eq_ok_iff : f.write path text = .ok g ↔ ∃ folder name, f.Leads path folder name ∧
    f.isFolder (folder ++ [name]) = false ∧ g = f.put (folder ++ [name]) text := by
  constructor
  · intro h
    rw [Files.write] at h
    cases hcheck : check path with
    | error t => rw [hcheck] at h; cases h
    | ok u =>
      cases hlast : f.lastOf path (Text.split '/' path).reverse with
      | error t => rw [hcheck, hlast] at h; cases h
      | ok last =>
        obtain ⟨folder, name⟩ := last
        rw [hcheck, hlast] at h
        simp only [bind, Except.bind] at h
        cases hname : (name = "" || name = "." || name = "..") with
        | true => rw [hname] at h; cases h
        | false =>
          cases hlook : f.look folder name with
          | error t => rw [hname, hlook] at h; cases h
          | ok item =>
            have hproper := Path.proper_iff.2 hname
            obtain ⟨hfolder, hshort, hitem⟩ := look_eq_ok_iff.1 hlook
            refine ⟨folder, name, ⟨hcheck, hproper, (lastOf_eq_ok_iff hproper).1 hlast, hfolder, hshort⟩, ?_⟩
            rw [hname, if_neg Bool.false_ne_true, hlook] at h
            rw [isFolder, hitem]
            cases item with
            | none => exact ⟨rfl, (Except.ok.inj h).symm⟩
            | some item =>
              cases item with
              | folder => cases h
              | file old => exact ⟨rfl, (Except.ok.inj h).symm⟩
  · rintro ⟨folder, name, hleads, hfree, rfl⟩
    exact hleads.write hfree text

def Keeps (f : Files) (path name text : String) : Prop :=
  ∃ folder, f.Leads path folder name ∧ f.item? (folder ++ [name]) = some (.file text)

theorem Keeps.read (h : f.Keeps path name text) : f.read path = .ok text := by
  obtain ⟨folder, hleads, hitem⟩ := h
  exact hleads.read_eq_ok_iff.2 hitem

theorem Keeps.say (h : f.Keeps path name text) (lines : List String) : Keeps { f with said := lines } path name text := by
  obtain ⟨folder, hleads, hitem⟩ := h
  exact ⟨folder, hleads.mono (within_say lines), hitem⟩

theorem keeps_of_write (h : f.write path text = .ok g) : ∃ name, g.Keeps path name text := by
  obtain ⟨folder, name, hleads, hfree, rfl⟩ := write_eq_ok_iff.1 h
  have hplace : folder ++ [name] ≠ [] := List.append_ne_nil_of_right_ne_nil _ (List.cons_ne_nil _ _)
  exact ⟨name, folder, hleads.mono (within_put hplace hfree), by rw [item?_put hplace, if_pos rfl]⟩

theorem Keeps.write (h : f.Keeps path name text) {path' text' : String} (hwrite : f.write path' text' = .ok g)
    (hother : ∀ folder, ¬f.Leads path' folder name) : g.Keeps path name text := by
  obtain ⟨folder, hleads, hitem⟩ := h
  obtain ⟨folder', name', hleads', hfree, rfl⟩ := write_eq_ok_iff.1 hwrite
  have hplace : folder' ++ [name'] ≠ [] := List.append_ne_nil_of_right_ne_nil _ (List.cons_ne_nil _ _)
  have hne : folder ++ [name] ≠ folder' ++ [name'] := by
    intro heq
    obtain ⟨-, hname⟩ := List.append_inj' heq rfl
    exact hother folder' ((List.cons.inj hname).1 ▸ hleads')
  exact ⟨folder, hleads.mono (within_put hplace hfree), by rw [item?_put hplace, if_neg hne, hitem]⟩

theorem Leads.eq_of_join {lead last : String} (h : f.Leads (Path.join lead name) folder last) (hname : '/' ∉ name.toList) :
    last = name := by
  obtain ⟨front, hsplit⟩ := Path.exists_split_join lead hname
  obtain ⟨front', hsplit', -⟩ := h.way
  obtain ⟨-, hlast⟩ := List.append_inj' (hsplit'.symm.trans hsplit) rfl
  exact (List.cons.inj hlast).1

end CommandLine.Files

end Scenography
