/-
What writing units changes in a tree of files.

A directory is made first, with those around it that are missing, and then each unit is
written where its path leads.  Nothing else changes:

* `FileTree.LeadsTo` — a path leads to a place;
* `FileTree.Changes` — what there is at each place after directories were made and files
  written, and `Changes.trans` for one after the other;
* `FileTree.changes_of_makeDirectory`, `FileTree.changes_of_write` — a single step;
* `FileTree.changes_of_makeDirectories`, `Command.changes_of_writeUnits` — all of them.
-/
import Mathlib.Data.List.Find
import Ambient.Proofs.WrittenFiles

namespace Ambient

namespace FileTree

variable {t s t' : FileTree} {text : String} {place : Place}

/-! ### Where paths lead -/

/-- A path leads to a place, through directories. -/
def LeadsTo (t : FileTree) (text : String) (place : Place) : Prop :=
  path text >>= t.find = .ok place

instance (t : FileTree) (text : String) (place : Place) : Decidable (t.LeadsTo text place) :=
  inferInstanceAs (Decidable (path text >>= t.find = .ok place))

theorem leadsTo_iff : t.LeadsTo text place ↔ ∃ p, path text = .ok p ∧ t.find p = .ok place := by
  rw [LeadsTo]
  cases path text with
  | error e => simp [bind, Except.bind]
  | ok p => simp [bind, Except.bind]

theorem LeadsTo.unique {place' : Place} (h : t.LeadsTo text place) (h' : t.LeadsTo text place') :
    place = place' :=
  Except.ok.inj (h.symm.trans h')

/-- What leads to a place still does so when there are more directories. -/
theorem LeadsTo.mono (h : t.LeadsTo text place) (hmore : t.Extends t') : t'.LeadsTo text place := by
  obtain ⟨p, hp, hfind⟩ := leadsTo_iff.mp h
  exact leadsTo_iff.mpr ⟨p, hp, hmore.find hfind⟩

theorem isDirectory_iff :
    t.isDirectory text = true ↔
      ∃ place, t.LeadsTo text place ∧ t.node? place = some .directory := by
  unfold isDirectory LeadsTo
  cases path text >>= t.find with
  | error e => simp
  | ok place => simp

theorem isDirectory_mono (h : t.isDirectory text = true) (hmore : t.Extends t') :
    t'.isDirectory text = true := by
  obtain ⟨place, hplace, hnode⟩ := isDirectory_iff.mp h
  exact isDirectory_iff.mpr ⟨place, hplace.mono hmore, hmore.directory place hnode⟩

/-! ### Changes -/

/-- The contents of the last of some files that a path leads to the place for. -/
def lastAt? (t : FileTree) (files : List (String × String)) (place : Place) : Option String :=
  (files.reverse.find? fun file => t.LeadsTo file.1 place).map Prod.snd

/-- There is a new directory at the place, where one of the paths leads. -/
def MadeAt (dirs : List String) (t t' : FileTree) (place : Place) : Prop :=
  t.node? place = none ∧ t'.node? place = some .directory ∧ ∃ dir ∈ dirs, t'.LeadsTo dir place

/-- The later tree has the files, the last of those with one place, and perhaps more of the
directories.  All other places are as they were. -/
structure Changes (dirs : List String) (files : List (String × String)) (t t' : FileTree) :
    Prop where
  more : t.Extends t'
  placed : ∀ file ∈ files, ∃ place, t'.LeadsTo file.1 place
  node : ∀ place,
    match t'.lastAt? files place with
    | some contents => t'.node? place = some (.file contents)
    | none => t'.node? place = t.node? place ∨ MadeAt dirs t t' place

theorem lastAt?_append (t : FileTree) (files files' : List (String × String)) (place : Place) :
    t.lastAt? (files ++ files') place = (t.lastAt? files' place).or (t.lastAt? files place) := by
  rw [lastAt?, List.reverse_append, List.find?_append, Option.map_or]
  rfl

/-- Files that have a place already keep it. -/
theorem lastAt?_mono {files : List (String × String)} (hmore : t.Extends t')
    (hplaced : ∀ file ∈ files, ∃ place, t.LeadsTo file.1 place) (place : Place) :
    t'.lastAt? files place = t.lastAt? files place := by
  refine congrArg _ (List.find?_congr fun file hfile => decide_eq_decide.mpr
    ⟨fun h => ?_, fun h => h.mono hmore⟩)
  obtain ⟨there, hthere⟩ := hplaced file (List.mem_reverse.mp hfile)
  exact (hthere.mono hmore).unique h ▸ hthere

namespace Changes

variable {dirs dirs' : List String} {files files' : List (String × String)}

theorem refl (dirs : List String) (t : FileTree) : Changes dirs [] t t where
  more := .refl t
  placed := nofun
  node _ := .inl rfl

theorem mono (h : Changes dirs files t t') (hsub : dirs ⊆ dirs') : Changes dirs' files t t' where
  more := h.more
  placed := h.placed
  node place := by
    have hnode := h.node place
    split at hnode
    next => exact hnode
    next =>
      rcases hnode with hsame | ⟨hnone, hmade, dir, hdir, hleads⟩
      · exact .inl hsame
      · exact .inr ⟨hnone, hmade, dir, hsub hdir, hleads⟩

/-- Changes one after the other. -/
theorem trans (h : Changes dirs files t s) (h' : Changes dirs files' s t') :
    Changes dirs (files ++ files') t t' where
  more := h.more.trans h'.more
  placed file hfile := by
    rcases List.mem_append.mp hfile with hfile | hfile
    · obtain ⟨place, hplace⟩ := h.placed file hfile
      exact ⟨place, hplace.mono h'.more⟩
    · exact h'.placed file hfile
  node place := by
    have hfirst := h.node place
    have hnext := h'.node place
    rw [lastAt?_append, lastAt?_mono h'.more h.placed]
    cases hlast' : t'.lastAt? files' place with
    | some contents =>
      rw [hlast'] at hnext
      exact hnext
    | none =>
      rw [hlast'] at hnext
      rw [Option.none_or]
      cases hlast : s.lastAt? files place with
      | some contents =>
        -- No directory can be made where the file is.
        rw [hlast] at hfirst
        rcases hnext with hsame | ⟨hnone, -⟩
        · exact hsame.trans hfirst
        · cases hfirst.symm.trans hnone
      | none =>
        rw [hlast] at hfirst
        rcases hnext with hsame | ⟨hnone, hmade, dir, hdir, hleads⟩
        · rcases hfirst with hsame' | ⟨hnone, hmade, dir, hdir, hleads⟩
          · exact .inl (hsame.trans hsame')
          · exact .inr ⟨hnone, hsame.trans hmade, dir, hdir, hleads.mono h'.more⟩
        · rcases hfirst with hsame' | ⟨-, hmade', -⟩
          · exact .inr ⟨hsame' ▸ hnone, hmade, dir, hdir, hleads⟩
          · cases hmade'.symm.trans hnone

end Changes

/-! ### Single steps -/

theorem ne_nil_of_node? (h : t.node? place ≠ some .directory) : place ≠ [] := by
  rintro rfl
  exact h (node?_root t)

theorem makeDirectory_eq_ok_iff :
    t.makeDirectory text = .ok t' ↔
      ∃ place, t.LeadsTo text place ∧ t.node? place = none ∧ t' = t.set place .directory := by
  have hbind : t.makeDirectory text = path text >>= t.find >>= fun place =>
      if (t.node? place).isSome then throw .alreadyThere else pure (t.set place .directory) := by
    rw [makeDirectory, bind_assoc]
  rw [hbind]
  unfold LeadsTo
  cases path text >>= t.find with
  | error e => simp [bind, Except.bind]
  | ok found =>
    simp only [bind, Except.bind, Except.ok.injEq, exists_eq_left']
    cases hnode : t.node? found with
    | none => simp [pure, Except.pure, eq_comm]
    | some node => simp [throw, throwThe, MonadExceptOf.throw]

/-- One directory is made where its path leads. -/
theorem changes_of_makeDirectory (h : t.makeDirectory text = .ok t') :
    Changes [text] [] t t' ∧ t'.isDirectory text = true := by
  obtain ⟨place, hleads, hnode, rfl⟩ := makeDirectory_eq_ok_iff.mp h
  have hfree : t.node? place ≠ some .directory := by simp [hnode]
  have hmore : t.Extends (t.set place .directory) := extends_set hfree _
  have hself := node?_set_self t (ne_nil_of_node? hfree) .directory
  refine ⟨⟨hmore, nofun, fun other => ?_⟩, isDirectory_iff.mpr ⟨place, hleads.mono hmore, hself⟩⟩
  by_cases hother : other = place
  · subst hother
    exact .inr ⟨hnode, hself, text, List.mem_singleton_self text, hleads.mono hmore⟩
  · exact .inl (node?_set_of_ne t hother _)

theorem changes_of_change {r : Except FileFault Unit}
    (h : change (·.makeDirectory text) t = (r, t')) :
    Changes [text] [] t t' ∧ (r = .ok () → t'.isDirectory text = true) := by
  rw [change] at h
  cases hmake : t.makeDirectory text with
  | error e =>
    rw [hmake] at h
    obtain ⟨rfl, rfl⟩ := Prod.mk.inj h
    exact ⟨.refl _ t, fun hr => by cases hr⟩
  | ok s =>
    rw [hmake] at h
    obtain ⟨rfl, rfl⟩ := Prod.mk.inj h
    obtain ⟨hmade, hdir⟩ := changes_of_makeDirectory hmake
    exact ⟨hmade, fun _ => hdir⟩

/-- One file is written where its path leads. -/
theorem changes_of_write {contents : String} (dirs : List String)
    (h : t.write text contents = .ok t') : Changes dirs [(text, contents)] t t' := by
  obtain ⟨p, place, hp, hfind, -, hnode, rfl⟩ := write_eq_ok_iff.mp h
  have hmore : t.Extends (t.set place (.file contents)) := extends_set hnode _
  have hleads := (leadsTo_iff.mpr ⟨p, hp, hfind⟩).mono hmore
  refine ⟨hmore, ?_, fun other => ?_⟩
  · rintro file hfile
    obtain rfl := List.mem_singleton.mp hfile
    exact ⟨place, hleads⟩
  · by_cases hother : other = place
    · subst hother
      have hlast : (t.set other (.file contents)).lastAt? [(text, contents)] other =
          some contents := by simp [lastAt?, hleads]
      rw [hlast]
      exact node?_set_self t (ne_nil_of_node? hnode) _
    · have hlast : (t.set place (.file contents)).lastAt? [(text, contents)] other = none := by
        have hnot : ¬(t.set place (.file contents)).LeadsTo text other := fun hleads' =>
          hother (hleads'.unique hleads)
        simp [lastAt?, hnot]
      rw [hlast]
      exact .inl (node?_set_of_ne t hother _)

/-! ### Whole runs -/

section Host

variable {input : Except FileFault String} {read : FileTree → String → Except FileFault String}

/-- A directory is made after those around it, if it cannot be made at once. -/
theorem ensureFirst_cons (text : String) (around : List String) (t : FileTree) :
    (hostReading input read).ensureFirst (text :: around) t =
      match t.makeDirectory text with
      | .ok s => (.ok (), s)
      | .error .notFound =>
        match (hostReading input read).ensureFirst around t with
        | (.error e, s) => (.error e, s)
        | (.ok _, s) =>
          if s.isDirectory text then (.ok (), s) else change (·.makeDirectory text) s
      | .error e => (if t.isDirectory text then .ok () else .error e, t) := by
  rw [Host.ensureFirst]
  show StateT.bind (change (·.makeDirectory text)) _ t = _
  rw [StateT.bind, change]
  cases t.makeDirectory text with
  | ok s => rfl
  | error e =>
    cases e with
    | notFound =>
      show StateT.bind ((hostReading input read).ensureFirst around) _ t = _
      rw [StateT.bind]
      rcases (hostReading input read).ensureFirst around t with ⟨e | _, s⟩
      · rfl
      · show (if s.isDirectory text then pure (.ok ()) else change (·.makeDirectory text) :
          StateM FileTree (Except FileFault Unit)) s = if s.isDirectory text then _ else _
        split_ifs <;> rfl
    | _ => rfl

/-- Only directories are made, and if all can be, the first of them is there. -/
theorem changes_of_ensureFirst {dirs : List String} {r : Except FileFault Unit}
    (h : (hostReading input read).ensureFirst dirs t = (r, t')) :
    Changes dirs [] t t' ∧ (r = .ok () → ∀ dir ∈ dirs.head?, t'.isDirectory dir = true) := by
  induction dirs generalizing t t' r with
  | nil =>
    obtain ⟨rfl, rfl⟩ := Prod.mk.inj h
    exact ⟨.refl _ t, fun _ _ hdir => by cases hdir⟩
  | cons dir around ih =>
    rw [ensureFirst_cons] at h
    have hself : [dir] ⊆ dir :: around := List.cons_subset_cons dir (List.nil_subset around)
    have haround : around ⊆ dir :: around := List.subset_cons_self dir around
    simp only [List.head?_cons, Option.mem_some_iff, forall_eq']
    cases hmake : t.makeDirectory dir with
    | ok s =>
      rw [hmake] at h
      obtain ⟨rfl, rfl⟩ := Prod.mk.inj h
      obtain ⟨hmade, hdir⟩ := changes_of_makeDirectory hmake
      exact ⟨hmade.mono hself, fun _ => hdir⟩
    | error e =>
      rw [hmake] at h
      by_cases he : e = .notFound
      · subst he
        simp only at h
        rcases hrun : (hostReading input read).ensureFirst around t with ⟨e | _, s⟩
        · rw [hrun] at h
          obtain ⟨rfl, rfl⟩ := Prod.mk.inj h
          exact ⟨(ih hrun).1.mono haround, fun hr => by cases hr⟩
        · rw [hrun] at h
          have hs := (ih hrun).1.mono haround
          simp only at h
          split_ifs at h with hdir
          · obtain ⟨rfl, rfl⟩ := Prod.mk.inj h
            exact ⟨hs, fun _ => hdir⟩
          · obtain ⟨hmade, hdir⟩ := changes_of_change h
            exact ⟨hs.trans (hmade.mono hself), hdir⟩
      · simp only at h
        obtain ⟨hr, rfl⟩ := Prod.mk.inj h
        refine ⟨.refl _ t, fun hok => ?_⟩
        rw [hok] at hr
        split_ifs at hr with hdir
        exact hdir

/-- A directory is there once it has been made, and those around it are the only others. -/
theorem changes_of_makeDirectories {dir : String} {r : Except FileFault Unit}
    (h : (hostReading input read).makeDirectories dir t = (r, t')) :
    Changes (Path.directoriesTo dir) [] t t' ∧
      (r = .ok () → dir ≠ "" → t'.isDirectory dir = true) := by
  obtain ⟨hchanges, hfirst⟩ := changes_of_ensureFirst h
  refine ⟨hchanges, fun hr hdir => hfirst hr dir ?_⟩
  rw [Path.directoriesTo, if_neg hdir]
  rfl

end Host

end FileTree

/-! ### Units -/

namespace Command

open FileTree

variable {input : Except FileFault String} {read : FileTree → String → Except FileFault String}
variable {dir : String} {units : List OutputUnit} {t t' : FileTree} {paths : List String}

/-- The files that units are written to, with their contents. -/
def filesOf (dir : String) (units : List OutputUnit) : List (String × String) :=
  units.map fun u => (Path.join dir u.name, u.contents)

/-- Units are written in their order, and nothing else is. -/
theorem changes_of_writeUnits (dirs : List String)
    (h : (writeUnits (hostReading input read) dir units).run t = (.ok paths, t')) :
    paths = (filesOf dir units).map Prod.fst ∧ Changes dirs (filesOf dir units) t t' := by
  induction units generalizing t paths with
  | nil =>
    obtain ⟨hpaths, rfl⟩ := Prod.mk.inj h
    exact ⟨(Except.ok.inj hpaths).symm, .refl dirs t⟩
  | cons u units ih =>
    obtain ⟨s, rest, hwrite, hrun, rfl⟩ := exists_of_writeUnits_cons h
    obtain ⟨rfl, hchanges⟩ := ih hrun
    exact ⟨rfl, (changes_of_write dirs hwrite).trans hchanges⟩

end Command

end Ambient
