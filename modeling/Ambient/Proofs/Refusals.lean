/-
What a command makes of the files, whether it succeeds or not.

A request can be at fault in several ways at once.  They are looked for in a fixed order,
and the first one is reported before anything has been written.  When declarations are
written, nothing changes but the files of the units and the directories that they need:

* `Flaw`, `FirstFlaw` — what is wrong with a request, and what of it is found first;
* `prepared_eq_error_iff` — preparing fails for the first flaw;
* `run_prepare` — preparing changes no file;
* `refuses_iff` — a command is refused for the first flaw, if what follows fails otherwise;
* `Generate.neverRefuses_write`, `Dump.neverRefuses_put` — what follows, which does;
* `Generate.changes_of_write` — what it changes;
* `files_exact` — all of it together.
-/
import Ambient.Proofs.FileChanges
import Ambient.Proofs.Invocations

namespace Ambient.Command

open FileTree

/-! ### What can be wrong -/

/-- How far a request has come when it fails. -/
def Failure.stage : Failure → Nat
  | .invalidPattern _ => 0
  | .unreadableInput _ => 1
  | .unreadable _ _ => 1
  | .malformed _ => 2
  | .duplicate _ => 3
  | .unwritable _ _ => 4

/-- What is given is at fault, not what is to be written. -/
def Failure.IsRefusal (f : Failure) : Prop :=
  f.stage < 4

/-- The text that a model is to be read from: a file, or the input. -/
def source (input : Except FileFault String) (file : String → Except FileFault String) :
    Option String → Except Failure String
  | none => input.mapError .unreadableInput
  | some path =>
    if path = "-" then input.mapError .unreadableInput
    else (file path).mapError (.unreadable path)

/-- What is wrong with the settings, the text of the model or the model, each on its own. -/
inductive Flaw (s : Settings) (source : Except Failure String) : Failure → Prop
  | pattern {e : InvalidPattern} (h : Whitelist.ofList s.whitelist = .error e) :
      Flaw s source (.invalidPattern e)
  | source {f : Failure} (h : source = .error f) : Flaw s source f
  | model {text : String} {fault : Json.Fault} (h : source = .ok text)
      (hmodel : Record.parseModel text = .error fault) : Flaw s source (.malformed fault)
  | duplicate {text : String} {ds : List Definition} {e : DuplicateType} (h : source = .ok text)
      (hmodel : Record.parseModel text = .ok ds) (hlist : Catalogue.ofList ds = .error e) :
      Flaw s source (.duplicate e)

/-- What is wrong and is found before all else that is. -/
def FirstFlaw (s : Settings) (source : Except Failure String) (f : Failure) : Prop :=
  Flaw s source f ∧ ∀ f', Flaw s source f' → f.stage ≤ f'.stage

/-- The catalogue of the model in a text. -/
def IsCatalogue (source : Except Failure String) (c : Catalogue) : Prop :=
  ∃ text ds, source = .ok text ∧ Record.parseModel text = .ok ds ∧ Catalogue.ofList ds = .ok c

/-! ### Preparing -/

section
variable {ε ε' α β : Type} {x : Except ε α}

theorem bind_eq_error_iff {f : α → Except ε β} {e : ε} :
    x >>= f = .error e ↔ x = .error e ∨ ∃ a, x = .ok a ∧ f a = .error e := by
  cases x <;> simp [bind, Except.bind]

theorem mapError_eq_error_iff {f : ε → ε'} {e : ε'} :
    x.mapError f = .error e ↔ ∃ d, x = .error d ∧ f d = e := by
  cases x <;> simp [Except.mapError]

end

theorem stage_source {input : Except FileFault String}
    {file : String → Except FileFault String} {path? : Option String} {f : Failure}
    (h : source input file path? = .error f) : f.stage = 1 := by
  unfold source at h
  split at h
  · obtain ⟨fault, -, rfl⟩ := mapError_eq_error_iff.mp h
    rfl
  · split_ifs at h
    · obtain ⟨fault, -, rfl⟩ := mapError_eq_error_iff.mp h
      rfl
    · obtain ⟨fault, -, rfl⟩ := mapError_eq_error_iff.mp h
      rfl

section
variable {s : Settings} {text : Except Failure String} {f : Failure}

/-- What has been prepared for some settings and the text of a model, if nothing is wrong. -/
def prepared (s : Settings) (text : Except Failure String) :
    Except Failure (Catalogue × List Definition) := do
  let w ← (Whitelist.ofList s.whitelist).mapError .invalidPattern
  let text ← text
  let ds ← (Record.parseModel text).mapError .malformed
  let c ← (Catalogue.ofList ds).mapError .duplicate
  return (c, Generator.transform ⟨s, w⟩ c)

/-- With valid patterns, what fails is what is wrong, and only one thing can be. -/
theorem prepared_eq_error_iff_flaw {w : Whitelist} (hw : Whitelist.ofList s.whitelist = .ok w) :
    prepared s text = .error f ↔ Flaw s text f := by
  simp only [prepared, bind_eq_error_iff, mapError_eq_error_iff, mapError_eq_ok_iff, hw]
  constructor
  · rintro (⟨_, he, -⟩ | ⟨_, -, he | ⟨text, he, ⟨fault, hmodel, rfl⟩ | ⟨ds, hmodel, hrest⟩⟩⟩)
    · cases he
    · exact .source he
    · exact .model he hmodel
    · obtain ⟨e, hlist, rfl⟩ | ⟨c, -, hc⟩ := hrest
      · exact .duplicate he hmodel hlist
      · cases hc
  · rintro (he | he | ⟨he, hmodel⟩ | ⟨he, hmodel, hlist⟩)
    · cases hw.symm.trans he
    · exact .inr ⟨w, rfl, .inl he⟩
    · exact .inr ⟨w, rfl, .inr ⟨_, he, .inl ⟨_, hmodel, rfl⟩⟩⟩
    · exact .inr ⟨w, rfl, .inr ⟨_, he, .inr ⟨_, hmodel, .inl ⟨_, hlist, rfl⟩⟩⟩⟩

/-- Preparing fails for what is found first. -/
theorem prepared_eq_error_iff (htext : ∀ g, text = .error g → g.stage = 1) :
    prepared s text = .error f ↔ FirstFlaw s text f := by
  cases hw : Whitelist.ofList s.whitelist with
  | ok w =>
    rw [prepared_eq_error_iff_flaw hw]
    refine ⟨fun h => ⟨h, fun g hg => ?_⟩, And.left⟩
    -- There is one flaw at most, since there is one result.
    have hf := (prepared_eq_error_iff_flaw hw).mpr h
    have hg := (prepared_eq_error_iff_flaw hw).mpr hg
    rw [Except.error.inj (hf.symm.trans hg)]
  | error e =>
    have hprepared : prepared s text = .error (.invalidPattern e) := by
      rw [prepared, hw]
      rfl
    rw [hprepared]
    constructor
    · intro h
      obtain rfl := Except.error.inj h
      exact ⟨.pattern hw, fun _ _ => Nat.zero_le _⟩
    · rintro ⟨hflaw, hfirst⟩
      have hstage : f.stage = 0 := Nat.le_zero.mp (hfirst _ (.pattern hw))
      cases hflaw with
      | pattern h => rw [Except.error.inj (hw.symm.trans h)]
      | source h => cases (htext f h).symm.trans hstage
      | model => cases hstage
      | duplicate => cases hstage

theorem Flaw.isRefusal (h : Flaw s text f) (htext : ∀ g, text = .error g → g.stage = 1) :
    f.IsRefusal := by
  cases h with
  | pattern => exact (by decide : 0 < 4)
  | source he => exact (htext f he).trans_lt (by decide : 1 < 4)
  | model => exact (by decide : 2 < 4)
  | duplicate => exact (by decide : 3 < 4)

/-- What has been prepared belongs to the catalogue of the model. -/
theorem prepared_eq_ok {c : Catalogue} {ds : List Definition}
    (h : prepared s text = .ok (c, ds)) :
    ∃ w, Whitelist.ofList s.whitelist = .ok w ∧ IsCatalogue text c ∧
      ds = Generator.transform ⟨s, w⟩ c := by
  obtain ⟨w, hw, h⟩ := exists_of_bind_eq_ok h
  obtain ⟨text', htext, h⟩ := exists_of_bind_eq_ok h
  obtain ⟨parsed, hmodel, h⟩ := exists_of_bind_eq_ok h
  obtain ⟨c', hlist, h⟩ := exists_of_bind_eq_ok h
  obtain ⟨rfl, rfl⟩ := Prod.mk.inj (Except.ok.inj h)
  rw [mapError_eq_ok_iff] at hw hmodel hlist
  exact ⟨w, hw, ⟨text', parsed, htext, hmodel, hlist⟩, rfl⟩

end

/-! ### Runs -/

section
variable {input : Except FileFault String} {read : FileTree → String → Except FileFault String}

/-- Two steps that change nothing, one after the other. -/
theorem run_bind_of_unchanged {α β : Type} {x : ExceptT Failure (StateM FileTree) α}
    {f : α → ExceptT Failure (StateM FileTree) β} {r : Except Failure α}
    {g : α → Except Failure β} {t : FileTree} (hx : x.run t = (r, t))
    (hf : ∀ a, (f a).run t = (g a, t)) : (x >>= f).run t = (r >>= g, t) := by
  rw [run_bind_eq, hx]
  cases r with
  | error e => rfl
  | ok a => exact hf a

/-- A model is read without a change. -/
theorem run_modelText (path? : Option String) (t : FileTree) :
    (modelText (hostReading input read) path?).run t = (source input (read t) path?, t) := by
  have hinput : (do orFail .unreadableInput (← (hostReading input read).readInput) :
      ExceptT Failure (StateM FileTree) String).run t = (input.mapError .unreadableInput, t) :=
    run_orFail .unreadableInput input t
  unfold modelText
  split
  · exact hinput
  · exact hinput
  · next path hpath =>
    rw [source, if_neg hpath]
    exact run_orFail (.unreadable path) (read t path) t

/-- Preparing changes no file. -/
theorem run_prepare (path? : Option String) (s : Settings) (t : FileTree) :
    (prepare (hostReading input read) path? s).run t =
      (prepared s (source input (read t) path?), t) := by
  rw [prepare_eq]
  simp only [loadCatalogue, bind_assoc]
  refine run_bind_of_unchanged (run_orFail _ _ t) fun w => ?_
  refine run_bind_of_unchanged (run_modelText path? t) fun text => ?_
  refine run_bind_of_unchanged (run_orFail _ _ t) fun ds => ?_
  exact run_bind_of_unchanged (run_orFail _ _ t) fun c => rfl

/-- A step that is not refused: if it fails, something could not be written. -/
def NeverRefuses {α : Type} (x : ExceptT Failure (StateM FileTree) α) : Prop :=
  ∀ t f t', x.run t = (.error f, t') → ¬f.IsRefusal

/-- What follows preparing is never refused, so a refusal is the first flaw. -/
theorem refuses_iff {α : Type} {path? : Option String} {s : Settings} {f : Failure}
    {t t' : FileTree} {rest : Catalogue × List Definition → ExceptT Failure (StateM FileTree) α}
    (hrest : ∀ p, NeverRefuses (rest p)) :
    (prepare (hostReading input read) path? s >>= rest).run t = (.error f, t') ∧ f.IsRefusal ↔
      FirstFlaw s (source input (read t) path?) f ∧ t' = t := by
  rw [run_bind_eq, run_prepare, ← prepared_eq_error_iff fun _ => stage_source]
  cases hprepared : prepared s (source input (read t) path?) with
  | ok p =>
    refine iff_of_false ?_ (fun h => by cases h.1)
    rintro ⟨hrun, hrefusal⟩
    exact hrest p t f t' hrun hrefusal
  | error g =>
    have hfirst := (prepared_eq_error_iff fun _ => stage_source).mp hprepared
    have hrefusal : g.IsRefusal := hfirst.1.isRefusal fun _ => stage_source
    constructor
    · rintro ⟨hrun, -⟩
      obtain ⟨he, rfl⟩ := Prod.mk.inj hrun
      exact ⟨congrArg _ (Except.error.inj he), rfl⟩
    · rintro ⟨he, rfl⟩
      obtain rfl := Except.error.inj he
      exact ⟨rfl, hrefusal⟩

/-! ### Writing -/

namespace NeverRefuses

variable {α β : Type} {x : ExceptT Failure (StateM FileTree) α}

theorem pure (a : α) : NeverRefuses (Pure.pure a) := by
  intro t f t' h
  cases (Prod.mk.inj h).1

theorem lift (x : StateM FileTree α) : NeverRefuses (liftM x) := by
  intro t f t' h
  cases (Prod.mk.inj h).1

theorem unwritable (path : String) (r : Except FileFault α) :
    NeverRefuses (orFail (.unwritable path) r) := by
  intro t f t' h
  rw [run_orFail] at h
  obtain ⟨fault, -, rfl⟩ := mapError_eq_error_iff.mp (Prod.mk.inj h).1
  exact Nat.lt_irrefl 4

theorem bind {f : α → ExceptT Failure (StateM FileTree) β} (hx : NeverRefuses x)
    (hf : ∀ a, NeverRefuses (f a)) : NeverRefuses (x >>= f) := by
  intro t e t' h
  rw [run_bind_eq] at h
  rcases hrun : x.run t with ⟨e' | a, s⟩
  · rw [hrun] at h
    obtain ⟨he, rfl⟩ := Prod.mk.inj h
    obtain rfl := Except.error.inj he
    exact hx t e' s hrun
  · rw [hrun] at h
    exact hf a s e t' h

end NeverRefuses

variable (h : Host (StateM FileTree))

theorem neverRefuses_writeUnits (dir : String) (units : List OutputUnit) :
    NeverRefuses (writeUnits h dir units) := by
  induction units with
  | nil => exact .pure []
  | cons u units ih =>
    rw [writeUnits]
    exact .bind (.lift _) fun r => .bind (.unwritable _ r) fun _ => .bind ih fun _ => .pure _

theorem Generate.neverRefuses_write (g : Generate) (c : Catalogue) (ds : List Definition) :
    NeverRefuses (g.write h c ds) :=
  .bind (.lift _) fun r => .bind (.unwritable _ r) fun _ => neverRefuses_writeUnits h _ _

/-- What has been dumped goes to a file, or is given as it is. -/
def Dump.put {m : Type → Type} [Monad m] (h : Host m) (d : Dump) (text : String) :
    ExceptT Failure m String := do
  match d.output with
  | none => return text
  | some path =>
    orFail (.unwritable path) (← h.writeFile path text)
    return ""

theorem Dump.run_eq_prepare {m : Type → Type} [Monad m] [LawfulMonad m] (h : Host m) (d : Dump) :
    d.run h = prepare h d.input d.settings >>= fun p => d.put h (d.layout p.2) := by
  rw [Dump.run, Dump.text_eq_prepare, bind_assoc]
  simp only [pure_bind]
  rfl

theorem Dump.neverRefuses_put (d : Dump) (text : String) : NeverRefuses (d.put h text) := by
  rw [Dump.put]
  split
  · exact .pure text
  · exact .bind (.lift _) fun r => .bind (.unwritable _ r) fun _ => .pure ""

/-- Units are written into the directory, and nothing else changes but the directories around. -/
theorem Generate.changes_of_write {g : Generate} {c : Catalogue} {w : Whitelist}
    {paths : List String} {t t' : FileTree}
    (h : (g.write (hostReading input read) c (Generator.transform ⟨g.settings, w⟩ c)).run t =
      (.ok paths, t')) :
    paths = (filesOf g.directory (Generator.run ⟨g.settings, w⟩ c)).map Prod.fst ∧
      (g.directory ≠ "" → t'.isDirectory g.directory = true) ∧
      Changes (Path.directoriesTo g.directory)
        (filesOf g.directory (Generator.run ⟨g.settings, w⟩ c)) t t' := by
  obtain ⟨_, s, hmake, h⟩ := exists_of_run_orFail_bind h
  obtain ⟨hdirs, hdirectory⟩ := changes_of_makeDirectories hmake
  obtain ⟨hpaths, hfiles⟩ := changes_of_writeUnits (Path.directoriesTo g.directory) h
  exact ⟨hpaths, fun hdir => isDirectory_mono (hdirectory rfl hdir) hfiles.more,
    hdirs.trans hfiles⟩

end

/-- **What becomes of the files.**  A command that is refused changes nothing and tells the first
flaw there is.  If declarations are written, nothing changes but the files of the units, whose
paths are told in their order, the directory and those around it. -/
theorem files_exact (input : Except FileFault String)
    (read : FileTree → String → Except FileFault String) (t : FileTree) :
    (∀ (g : Generate) (f : Failure) (t' : FileTree),
      (g.run (hostReading input read)).run t = (.error f, t') ∧ f.IsRefusal ↔
        FirstFlaw g.settings (source input (read t) g.input) f ∧ t' = t) ∧
    (∀ (d : Dump) (f : Failure) (t' : FileTree),
      (d.run (hostReading input read)).run t = (.error f, t') ∧ f.IsRefusal ↔
        FirstFlaw d.settings (source input (read t) d.input) f ∧ t' = t) ∧
    ∀ (g : Generate) (paths : List String) (t' : FileTree),
      (g.run (hostReading input read)).run t = (.ok paths, t') →
        ∃ w c, Whitelist.ofList g.settings.whitelist = .ok w ∧
          IsCatalogue (source input (read t) g.input) c ∧
          paths = (filesOf g.directory (Generator.run ⟨g.settings, w⟩ c)).map Prod.fst ∧
          (g.directory ≠ "" → t'.isDirectory g.directory = true) ∧
          Changes (Path.directoriesTo g.directory)
            (filesOf g.directory (Generator.run ⟨g.settings, w⟩ c)) t t' := by
  refine ⟨fun g f t' => ?_, fun d f t' => ?_, fun g paths t' h => ?_⟩
  · rw [Generate.run_eq_prepare]
    exact refuses_iff fun p => g.neverRefuses_write _ p.1 p.2
  · rw [Dump.run_eq_prepare]
    exact refuses_iff fun p => d.neverRefuses_put _ _
  · rw [Generate.run_eq_prepare] at h
    obtain ⟨⟨c, ds⟩, s, hrun, h⟩ := exists_of_run_bind_eq_ok h
    rw [run_prepare] at hrun
    obtain ⟨hprepared, rfl⟩ := Prod.mk.inj hrun
    obtain ⟨w, hw, hc, rfl⟩ := prepared_eq_ok hprepared
    exact ⟨w, c, hw, hc, Generate.changes_of_write h⟩

/-- A file with a model that has no definitions. -/
def shelf : FileTree :=
  { nodes := [(["m.json"], .file "\x7b\"types\":[]\x7d")] }

/-- The model is declared in a directory inside another. -/
def shelved : Generate :=
  ⟨some "m.json", "a/b", { buildsIndex := true }⟩

/-- What comes of it. -/
def shelving : Except Failure (List String) × FileTree :=
  (shelved.run (hostReading (.ok "") FileTree.read)).run shelf

/-- The pattern is invalid, and the file is not there. -/
def misplaced : Dump :=
  ⟨some "n.json", none, false, { whitelist := ["("] }⟩

theorem files_exact_shelf :
    (misplaced.run (hostReading (.ok "") FileTree.read)).run shelf =
      (.error (.invalidPattern ⟨"(", .malformed⟩), shelf) ∧
    Flaw misplaced.settings (source (.ok "") shelf.read misplaced.input)
      (.unreadable "n.json" .notFound) ∧
    shelving.1 = .ok ["a/b/index.d.ts"] ∧
    ∃ w c, Whitelist.ofList [] = .ok w ∧ IsCatalogue (.ok "\x7b\"types\":[]\x7d") c ∧
      ["a/b/index.d.ts"] =
        (filesOf "a/b" (Generator.run ⟨shelved.settings, w⟩ c)).map Prod.fst ∧
      Changes ["a/b", "a"] (filesOf "a/b" (Generator.run ⟨shelved.settings, w⟩ c)) shelf
        shelving.2 := by
  obtain ⟨-, hdump, hgenerate⟩ := files_exact (.ok "") FileTree.read shelf
  have hpattern : Whitelist.ofList misplaced.settings.whitelist =
      .error ⟨"(", .malformed⟩ := by
    have hread : (Whitelist.ofList misplaced.settings.whitelist >>= fun _ => .ok ()) =
        .error ⟨"(", .malformed⟩ := by decide +kernel
    obtain h | ⟨_, _, h⟩ := bind_eq_error_iff.mp hread
    · exact h
    · cases h
  have hsource : source (.ok "") shelf.read misplaced.input =
      .error (.unreadable "n.json" .notFound) := by decide +kernel
  have hpaths : shelving.1 = .ok ["a/b/index.d.ts"] := by decide +kernel
  have hrun : shelving = (.ok ["a/b/index.d.ts"], shelving.2) := by rw [← hpaths]
  have hmodel : source (.ok "") shelf.read shelved.input =
      .ok "\x7b\"types\":[]\x7d" := by decide +kernel
  have hdirs : Path.directoriesTo shelved.directory = ["a/b", "a"] := by decide +kernel
  refine ⟨?_, .source hsource, hpaths, ?_⟩
  · exact ((hdump misplaced (.invalidPattern ⟨"(", .malformed⟩) shelf).mpr
      ⟨⟨.pattern hpattern, fun _ _ => Nat.zero_le _⟩, rfl⟩).1
  · obtain ⟨w, c, hw, hc, htold, -, hchanges⟩ := hgenerate shelved _ _ hrun
    rw [hmodel] at hc
    rw [hdirs] at hchanges
    exact ⟨w, c, hw, hc, htold, hchanges⟩

/-- The directory and the files that are told are not all: the directory around may be new. -/
theorem not_only_files :
    ¬∀ (g : Generate) (t t' : FileTree) (paths : List String),
      (g.run (hostReading (.ok "") FileTree.read)).run t = (.ok paths, t') →
        ∀ place, t'.node? place ≠ t.node? place →
          t'.LeadsTo g.directory place ∨ ∃ path ∈ paths, t'.LeadsTo path place := by
  intro h
  have hpaths : shelving.1 = .ok ["a/b/index.d.ts"] := by decide +kernel
  have hrun : shelving = (.ok ["a/b/index.d.ts"], shelving.2) := by rw [← hpaths]
  have hnew : shelving.2.node? ["a"] ≠ shelf.node? ["a"] := by decide +kernel
  have hnot : ¬(shelving.2.LeadsTo shelved.directory ["a"] ∨
      ∃ path ∈ ["a/b/index.d.ts"], shelving.2.LeadsTo path ["a"]) := by decide +kernel
  exact hnot (h shelved shelf shelving.2 _ hrun ["a"] hnew)

end Ambient.Command
