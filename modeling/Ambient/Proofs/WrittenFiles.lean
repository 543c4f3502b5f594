/-
Files that are written into one directory.

A file that has been written can be read until it is written over, and writing to
one name in a directory leaves the files of other names as they are:

* `Path.ofText_join` — the path of a name inside a directory;
* `FileTree.read_of_write` — what has been written is read back;
* `FileTree.read_join_of_write` — writing to another name does not change it;
* `FileTree.hostReading` — a host whose input and files may be unreadable;
* `Command.exists_of_run_bind_eq_ok` — what succeeds on it succeeds step by step;
* `Command.read_of_writeUnits` — units of different names can all be read back.
-/
import Mathlib.Data.List.Nodup
import Ambient.Command.Run

namespace Ambient

/-! ### Paths inside a directory -/

namespace Text

theorem splitOn_of_notMem {sep : Char} {cs : List Char} (h : sep ∉ cs) :
    splitOn sep cs = [cs] := by
  induction cs with
  | nil => rfl
  | cons c cs ih =>
    obtain ⟨hc, hcs⟩ := not_or.mp (List.mem_cons.not.mp h)
    rw [splitOn, if_neg (Ne.symm hc), ih hcs]

theorem splitOn_append_cons (sep : Char) (cs ds : List Char) :
    splitOn sep (cs ++ sep :: ds) = splitOn sep cs ++ splitOn sep ds := by
  induction cs with
  | nil => simp [splitOn]
  | cons c cs ih =>
    rw [List.cons_append, splitOn, splitOn, ih]
    by_cases hc : c = sep
    · rw [if_pos hc, if_pos hc, List.cons_append]
    · obtain ⟨piece, pieces, hp⟩ := List.exists_cons_of_ne_nil (splitOn_ne_nil sep cs)
      rw [if_neg hc, if_neg hc, hp]
      rfl

end Text

/-- A name that one step of a path can lead to. -/
structure IsFileName (name : String) : Prop where
  no_slash : '/' ∉ name.toList
  ne_empty : name ≠ ""
  ne_here : name ≠ "."
  ne_above : name ≠ ".."

namespace IsFileName

variable {name : String}

theorem toList_ne_nil (h : IsFileName name) : name.toList ≠ [] :=
  fun hnil => h.ne_empty (String.toList_eq_nil_iff.mp hnil)

theorem head?_ne_slash (h : IsFileName name) : name.toList.head? ≠ some '/' :=
  fun hslash => h.no_slash (List.mem_of_mem_head? hslash)

theorem getLast?_ne_slash (h : IsFileName name) : name.toList.getLast? ≠ some '/' :=
  fun hslash => h.no_slash (List.mem_of_getLast? hslash)

end IsFileName

namespace Path

variable {dir name : String}

/-- Every name is put after the same text, unless there is none before it. -/
theorem exists_join_eq (hdir : dir ≠ "") :
    ∃ base : String, ∀ name, IsFileName name →
      (join dir name).toList = base.toList ++ '/' :: name.toList := by
  by_cases hslash : dir.toList.getLast? = some '/'
  · obtain ⟨base, hbase⟩ := List.getLast?_eq_some_iff.mp hslash
    refine ⟨String.ofList base, fun name h => ?_⟩
    rw [join, if_neg h.head?_ne_slash, if_pos (.inr hslash), String.toList_append, hbase]
    simp
  · refine ⟨dir, fun name h => ?_⟩
    rw [join, if_neg h.head?_ne_slash, if_neg (not_or.mpr ⟨hdir, hslash⟩)]
    simp

/-- A name is a path of one step. -/
theorem ofText_name (h : IsFileName name) : ofText name = ⟨false, [name], false⟩ := by
  rw [ofText, Text.splitOn_of_notMem h.no_slash]
  simp [h.head?_ne_slash, h.getLast?_ne_slash, h.toList_ne_nil]

/-- The path of a name inside a directory ends in a step of that name. -/
theorem ofText_join (dir : String) :
    ∃ isAbsolute steps, ∀ name, IsFileName name →
      ofText (join dir name) = ⟨isAbsolute, steps ++ [name], false⟩ := by
  by_cases hdir : dir = ""
  · refine ⟨false, [], fun name h => ?_⟩
    rw [join, if_neg h.head?_ne_slash, if_pos (.inl hdir), hdir, String.empty_append, ofText_name h]
    rfl
  obtain ⟨base, hbase⟩ := exists_join_eq hdir
  refine ⟨(base.toList ++ ['/']).head? = some '/',
    ((Text.splitOn '/' base.toList).filter (!·.isEmpty)).map String.ofList, fun name h => ?_⟩
  have hlast : ('/' :: name.toList).getLast? ≠ some '/' := by
    rw [List.getLast?_cons_of_ne_nil h.toList_ne_nil]
    exact h.getLast?_ne_slash
  have hhead : (base.toList ++ '/' :: name.toList).head? = (base.toList ++ ['/']).head? := by
    cases base.toList <;> rfl
  rw [ofText, hbase name h, hhead, Text.splitOn_append_cons, Text.splitOn_of_notMem h.no_slash]
  simp [hlast, h.toList_ne_nil]

end Path

/-! ### Reading what has been written -/

namespace FileTree

variable {t t' : FileTree} {place : Place}

theorem directory_of_follow_cons {at_ end_ : Place} {step : String} {steps : List String}
    (h : t.follow at_ (step :: steps) = .ok end_) : t.node? at_ = some .directory := by
  rw [follow] at h
  split at h
  next => cases h
  next => cases h
  next hnode => exact hnode

theorem follow_cons {at_ : Place} (h : t.node? at_ = some .directory) (step : String)
    (steps : List String) :
    t.follow at_ (step :: steps) =
      if step = "." then t.follow at_ steps
      else if step = ".." then t.follow at_.dropLast steps
      else if maxNameLength < step.utf8ByteSize then .error .nameTooLong
      else t.follow (at_ ++ [step]) steps := by
  rw [follow, h]

/-- The later tree has all directories of the earlier one. -/
structure Extends (t t' : FileTree) : Prop where
  here_eq : t'.here = t.here
  directory : ∀ place, t.node? place = some .directory → t'.node? place = some .directory

theorem Extends.refl (t : FileTree) : t.Extends t :=
  ⟨rfl, fun _ h => h⟩

theorem Extends.trans {s : FileTree} (h : t.Extends s) (h' : s.Extends t') : t.Extends t' :=
  ⟨h'.here_eq.trans h.here_eq, fun place hplace => h'.directory place (h.directory place hplace)⟩

/-- All directories stay when something else is put where none of them is. -/
theorem extends_set (h : t.node? place ≠ some .directory) (node : FileNode) :
    t.Extends (t.set place node) where
  here_eq := rfl
  directory other hother := by
    have hne : other ≠ place := fun he => h (he ▸ hother)
    rw [node?_set_of_ne t hne, hother]

/-- A path that can be followed can still be followed when there is more. -/
theorem Extends.follow (h : t.Extends t') {at_ end_ : Place} {steps : List String}
    (hsteps : t.follow at_ steps = .ok end_) : t'.follow at_ steps = .ok end_ := by
  induction steps generalizing at_ with
  | nil => exact hsteps
  | cons step steps ih =>
    have hnode := directory_of_follow_cons hsteps
    rw [follow_cons hnode] at hsteps
    rw [follow_cons (h.directory at_ hnode)]
    split_ifs at hsteps ⊢ with hhere habove hlong
    · exact ih hsteps
    · exact ih hsteps
    · exact ih hsteps

theorem Extends.find (h : t.Extends t') {p : Path} (hp : t.find p = .ok place) :
    t'.find p = .ok place := by
  rw [FileTree.find, h.here_eq]
  exact h.follow hp

/-- A path that ends in the name of a file leads into the directory before it. -/
theorem follow_concat {at_ end_ : Place} {steps : List String} {name : String}
    (hname : IsFileName name) (h : t.follow at_ (steps ++ [name]) = .ok end_) :
    ∃ dir, t.follow at_ steps = .ok dir ∧ end_ = dir ++ [name] := by
  induction steps generalizing at_ with
  | nil =>
    rw [List.nil_append] at h
    rw [follow_cons (directory_of_follow_cons h), if_neg hname.ne_here, if_neg hname.ne_above] at h
    split_ifs at h with hlong
    exact ⟨at_, rfl, (Except.ok.inj h).symm⟩
  | cons step steps ih =>
    rw [List.cons_append] at h
    have hnode := directory_of_follow_cons h
    rw [follow_cons hnode] at h ⊢
    split_ifs at h ⊢ with hhere habove hlong
    · exact ih h
    · exact ih h
    · exact ih h

theorem write_eq_ok_iff {text contents : String} :
    t.write text contents = .ok t' ↔
      ∃ p place, path text = .ok p ∧ t.find p = .ok place ∧ p.endsInSlash = false ∧
        t.node? place ≠ some .directory ∧ t' = t.set place (.file contents) := by
  rw [write]
  cases hp : path text with
  | error e => simp [bind, Except.bind]
  | ok p =>
    cases hplace : t.find p with
    | error e => simp [bind, Except.bind, hplace]
    | ok place =>
      by_cases h : p.endsInSlash = true ∨ t.node? place = some .directory
      · have hnot : ¬(p.endsInSlash = false ∧ t.node? place ≠ some .directory) := by
          rintro ⟨hslash, hnode⟩
          rcases h with h | h
          · simp [h] at hslash
          · exact hnode h
        simp only [bind, Except.bind, hplace, Bool.or_eq_true, decide_eq_true_eq, if_pos h]
        constructor
        · intro he
          cases he
        · rintro ⟨q, other, hq, hother, hslash, hnode, -⟩
          cases hq
          rw [hplace] at hother
          cases hother
          exact absurd ⟨hslash, hnode⟩ hnot
      · obtain ⟨hslash, hnode⟩ := not_or.mp h
        simp only [bind, Except.bind, hplace, Bool.or_eq_true, decide_eq_true_eq, if_neg h, pure,
          Except.pure]
        constructor
        · intro he
          exact ⟨p, place, rfl, hplace, by simpa using hslash, hnode, (Except.ok.inj he).symm⟩
        · rintro ⟨q, other, hq, hother, -, -, rfl⟩
          cases hq
          rw [hplace] at hother
          cases hother
          rfl

theorem read_eq_ok {text contents : String} {p : Path} (hp : path text = .ok p)
    (hfind : t.find p = .ok place) (hslash : p.endsInSlash = false)
    (hnode : t.node? place = some (.file contents)) : t.read text = .ok contents := by
  simp [read, bind, Except.bind, hp, hfind, hnode, hslash]
  rfl

theorem exists_of_read_eq_ok {text contents : String} (h : t.read text = .ok contents) :
    ∃ p place, path text = .ok p ∧ t.find p = .ok place ∧ p.endsInSlash = false ∧
      t.node? place = some (.file contents) := by
  rw [read] at h
  cases hp : path text with
  | error e => simp [hp, bind, Except.bind] at h
  | ok p =>
    cases hfind : t.find p with
    | error e => simp [hp, hfind, bind, Except.bind] at h
    | ok place =>
      simp only [hp, hfind, bind, Except.bind] at h
      cases hnode : t.node? place with
      | none => simp [hnode] at h
      | some node =>
        cases node with
        | directory => simp [hnode] at h
        | file c =>
          cases hslash : p.endsInSlash with
          | true => simp [hnode, hslash] at h
          | false =>
            simp only [hnode, hslash] at h
            cases h
            exact ⟨p, place, rfl, hfind, hslash, hnode⟩

/-- What has been written is read back. -/
theorem read_of_write {text contents : String} (h : t.write text contents = .ok t') :
    t'.read text = .ok contents := by
  obtain ⟨p, place, hp, hfind, hslash, hnode, rfl⟩ := write_eq_ok_iff.mp h
  have hroot : place ≠ [] := by
    rintro rfl
    exact hnode (node?_root t)
  exact read_eq_ok hp ((extends_set hnode _).find hfind) hslash (node?_set_self t hroot _)

/-- Writing to one name in a directory does not change what is read under another. -/
theorem read_join_of_write {dir name other contents content' : String} (hname : IsFileName name)
    (hother : IsFileName other) (hne : name ≠ other)
    (h : t.write (Path.join dir name) contents = .ok t')
    (hread : t.read (Path.join dir other) = .ok content') :
    t'.read (Path.join dir other) = .ok content' := by
  obtain ⟨isAbsolute, steps, hjoin⟩ := Path.ofText_join dir
  have path_eq : ∀ {n : String} {p : Path}, IsFileName n → path (Path.join dir n) = .ok p →
      p = ⟨isAbsolute, steps ++ [n], false⟩ := by
    intro n p hn hp
    rw [path] at hp
    split_ifs at hp
    rw [← hjoin n hn]
    exact (Except.ok.inj hp).symm
  obtain ⟨p, place, hp, hfind, -, hnode, rfl⟩ := write_eq_ok_iff.mp h
  obtain ⟨q, place', hq, hfind', hslash, hnode'⟩ := exists_of_read_eq_ok hread
  have hplaces : place' ≠ place := by
    rw [path_eq hname hp, find] at hfind
    rw [path_eq hother hq, find] at hfind'
    obtain ⟨dirPlace, hdir, rfl⟩ := follow_concat hname hfind
    obtain ⟨dirPlace', hdir', rfl⟩ := follow_concat hother hfind'
    intro he
    exact hne (List.singleton_inj.mp (List.append_inj_right' he rfl)).symm
  refine read_eq_ok hq ((extends_set hnode _).find hfind') hslash ?_
  rw [node?_set_of_ne _ hplaces, hnode']

end FileTree

/-! ### Steps -/

/-- The host whose files are a tree, where not all that is there need be readable. -/
def FileTree.hostReading (input : Except FileFault String)
    (read : FileTree → String → Except FileFault String) : Host (StateM FileTree) :=
  { FileTree.host "" with
    readInput := pure input
    readFile := fun path t => (read t path, t) }

theorem FileTree.change_eq_ok {f : FileTree → Except FileFault FileTree} {t t' : FileTree}
    (h : change f t = (.ok (), t')) : f t = .ok t' := by
  rw [change] at h
  cases hf : f t with
  | error e =>
    rw [hf] at h
    cases (Prod.mk.inj h).1
  | ok s =>
    rw [hf] at h
    rw [(Prod.mk.inj h).2]

namespace Command

section
variable {ε α β : Type} {x : ExceptT Failure (StateM FileTree) α} {t t' : FileTree}

theorem mapError_eq_ok_iff {ε' : Type} {x : Except ε α} {f : ε → ε'} {a : α} :
    x.mapError f = .ok a ↔ x = .ok a := by
  cases x <;> simp [Except.mapError]

/-- A step of a command on a tree is followed by the next one unless it fails. -/
theorem run_bind_eq (x : ExceptT Failure (StateM FileTree) α)
    (f : α → ExceptT Failure (StateM FileTree) β) (t : FileTree) :
    (x >>= f).run t =
      match x.run t with
      | (.ok a, s) => (f a).run s
      | (.error e, s) => (.error e, s) := by
  show (match x.run t with | (r, s) => ExceptT.bindCont f r s) = _
  cases x.run t with
  | mk r s => cases r <;> rfl

theorem run_orFail (failure : ε → Failure) (x : Except ε α) (t : FileTree) :
    (orFail failure x : ExceptT Failure (StateM FileTree) α).run t = (x.mapError failure, t) := by
  cases x <;> rfl

/-- Two steps that succeed, one after the other. -/
theorem exists_of_run_bind_eq_ok {f : α → ExceptT Failure (StateM FileTree) β} {b : β}
    (h : (x >>= f).run t = (.ok b, t')) :
    ∃ a s, x.run t = (.ok a, s) ∧ (f a).run s = (.ok b, t') := by
  rw [run_bind_eq] at h
  rcases hx : x.run t with ⟨e | a, s⟩
  · rw [hx] at h
    cases (Prod.mk.inj h).1
  · rw [hx] at h
    exact ⟨a, s, rfl, h⟩

/-- A step that is tried and succeeds is followed by the others. -/
theorem exists_of_run_orFail_bind {failure : ε → Failure} {x : StateM FileTree (Except ε α)}
    {f : α → ExceptT Failure (StateM FileTree) β} {b : β}
    (h : (do f (← orFail failure (← x)) : ExceptT Failure (StateM FileTree) β).run t =
      (.ok b, t')) :
    ∃ a s, x t = (.ok a, s) ∧ (f a).run s = (.ok b, t') := by
  obtain ⟨r, s, hx, h⟩ := exists_of_run_bind_eq_ok h
  obtain ⟨a, s', htried, h⟩ := exists_of_run_bind_eq_ok h
  rw [run_orFail] at htried
  obtain ⟨hr, rfl⟩ := Prod.mk.inj htried
  obtain rfl := mapError_eq_ok_iff.mp hr
  obtain ⟨he, rfl⟩ := Prod.mk.inj hx
  exact ⟨a, _, Prod.ext (Except.ok.inj he) rfl, h⟩

end

/-! ### Units -/

open FileTree

variable {input : Except FileFault String} {read : FileTree → String → Except FileFault String}
variable {dir : String} {units : List OutputUnit} {t t' : FileTree} {paths : List String}

/-- Writing units that succeeds writes the first and then the others. -/
theorem exists_of_writeUnits_cons {u : OutputUnit}
    (h : (writeUnits (hostReading input read) dir (u :: units)).run t = (.ok paths, t')) :
    ∃ s rest, t.write (Path.join dir u.name) u.contents = .ok s ∧
      (writeUnits (hostReading input read) dir units).run s = (.ok rest, t') ∧
      paths = Path.join dir u.name :: rest := by
  rw [writeUnits] at h
  obtain ⟨_, s, hwrite, h⟩ := exists_of_run_orFail_bind h
  obtain ⟨rest, s', hrest, h⟩ := exists_of_run_bind_eq_ok h
  obtain ⟨hpaths, rfl⟩ := Prod.mk.inj h
  have hchange : change (·.write (Path.join dir u.name) u.contents) t = (.ok (), s) := hwrite
  exact ⟨s, rest, change_eq_ok hchange, hrest, (Except.ok.inj hpaths).symm⟩

/-- What is read under a name that no unit has is still read once they are written. -/
theorem read_of_notMem_writeUnits {name contents : String} (hname : IsFileName name)
    (hunits : ∀ u ∈ units, IsFileName u.name) (hne : name ∉ units.map OutputUnit.name)
    (h : (writeUnits (hostReading input read) dir units).run t = (.ok paths, t'))
    (hread : t.read (Path.join dir name) = .ok contents) :
    t'.read (Path.join dir name) = .ok contents := by
  induction units generalizing t paths with
  | nil =>
    obtain rfl : t = t' := (Prod.mk.inj h).2
    exact hread
  | cons u units ih =>
    obtain ⟨hu, hrest⟩ := List.forall_mem_cons.mp hunits
    rw [List.map_cons, List.mem_cons, not_or] at hne
    obtain ⟨s, rest, hwrite, hrun, -⟩ := exists_of_writeUnits_cons h
    exact ih hrest hne.2 hrun (read_join_of_write hu hname (Ne.symm hne.1) hwrite hread)

/-- Units of different names can all be read back once they have been written. -/
theorem read_of_writeUnits (hunits : ∀ u ∈ units, IsFileName u.name)
    (hnodup : (units.map OutputUnit.name).Nodup)
    (h : (writeUnits (hostReading input read) dir units).run t = (.ok paths, t')) :
    ∀ u ∈ units, t'.read (Path.join dir u.name) = .ok u.contents := by
  induction units generalizing t paths with
  | nil => simp
  | cons u units ih =>
    obtain ⟨hu, hrest⟩ := List.forall_mem_cons.mp hunits
    obtain ⟨hne, hnodup⟩ := List.nodup_cons.mp hnodup
    obtain ⟨s, rest, hwrite, hrun, -⟩ := exists_of_writeUnits_cons h
    refine List.forall_mem_cons.mpr ⟨?_, ih hrest hnodup hrun⟩
    exact read_of_notMem_writeUnits hu hrest hne hrun (read_of_write hwrite)

end Command

end Ambient
