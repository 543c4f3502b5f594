/-
One command line for both commands.

Both commands read their words in the same way and differ in three long options only:
`--out-dir` is known for declarations alone, `--output` and `--compact` for a dump
alone.  So the words that ask for declarations serve for a dump as well, and mean the
same there, unless `--out-dir` is among them:

* `NamesDirectory` — the words name a directory by the long option;
* `Progress.meetWord_congr`, `meetWord_unknown` — what a step makes of a long option;
* `Progress.inputsOnly_meetWord` — two hyphens alone end the options;
* `Progress.ofWords_dump` — what is read of the words for a dump;
* `prepare` — what both commands do first;
* `Generate.run_eq_prepare`, `Dump.text_eq_prepare` — what each of them makes of it;
* `Request.read_dump` — the request for a dump that the words of the other command make.
-/
import Ambient.Command.Run
import Ambient.Proofs.Nesting

namespace Ambient

/-- A text ends before its first separator, or the separator follows there. -/
theorem Text.eq_takeWhile_or (sep : Char) (cs : List Char) :
    cs = cs.takeWhile (· ≠ sep) ∨ ∃ rest, cs = cs.takeWhile (· ≠ sep) ++ sep :: rest := by
  induction cs with
  | nil => exact .inl rfl
  | cons c cs ih =>
    by_cases hc : c = sep
    · exact .inr ⟨cs, by simp [hc]⟩
    · have htake : (c :: cs).takeWhile (· ≠ sep) = c :: cs.takeWhile (· ≠ sep) := by simp [hc]
      rw [htake]
      rcases ih with h | ⟨rest, h⟩
      · exact .inl (congrArg (c :: ·) h)
      · exact .inr ⟨rest, congrArg (c :: ·) h⟩

namespace Command

/-- What succeeds in two steps succeeds in each. -/
theorem exists_of_bind_eq_ok {ε α β : Type} {x : Except ε α} {f : α → Except ε β} {b : β}
    (h : x >>= f = .ok b) : ∃ a, x = .ok a ∧ f a = .ok b := by
  cases x with
  | error e => cases h
  | ok a => exact ⟨a, rfl, h⟩

/-! ### Long options -/

/-- The name in a word that is a long option. -/
def longName? (word : String) : Option String :=
  match word.toList with
  | '-' :: '-' :: c :: cs => some (String.ofList ((c :: cs).takeWhile (· ≠ '=')))
  | _ => none

/-- The word is the long option for the directory, perhaps with the directory attached. -/
def IsDirectoryOption (word : String) : Prop :=
  word = "--out-dir" ∨ ∃ text, word = "--out-dir=" ++ text

/-- Some word before two hyphens alone is the long option for the directory. -/
def NamesDirectory (words : List String) : Prop :=
  ∃ word ∈ words.takeWhile (· ≠ "--"), IsDirectoryOption word

theorem longName?_eq_iff {word : String} :
    longName? word = some "out-dir" ↔ IsDirectoryOption word := by
  constructor
  · intro h
    unfold longName? at h
    split at h
    next c cs hcs =>
      have hname : (c :: cs).takeWhile (· ≠ '=') = "out-dir".toList := by
        rw [← Option.some.inj h, String.toList_ofList]
      -- What follows the name is nothing, or begins with the sign that ends it.
      rcases Text.eq_takeWhile_or '=' (c :: cs) with hrest | ⟨text, hrest⟩
      · rw [hrest, hname] at hcs
        exact .inl (String.toList_inj.mp hcs)
      · rw [hrest, hname] at hcs
        have htext : (String.ofList text).toList = text := String.toList_ofList
        refine .inr ⟨String.ofList text, String.toList_inj.mp ?_⟩
        rw [hcs, String.toList_append, htext]
        rfl
    next => cases h
  · rintro (rfl | ⟨text, rfl⟩)
    · decide
    · have hword : ("--out-dir=" ++ text).toList =
          '-' :: '-' :: 'o' :: ("ut-dir".toList ++ '=' :: text.toList) := by
        rw [String.toList_append]
        rfl
      rw [longName?, hword]
      rfl

instance (word : String) : Decidable (IsDirectoryOption word) :=
  decidable_of_iff _ longName?_eq_iff

instance (words : List String) : Decidable (NamesDirectory words) :=
  inferInstanceAs (Decidable (∃ word ∈ _, IsDirectoryOption word))

theorem IsDirectoryOption.ne_dashes {word : String} (h : IsDirectoryOption word) : word ≠ "--" := by
  rintro rfl
  have hname := longName?_eq_iff.mpr h
  cases hname

theorem namesDirectory_cons {word : String} {words : List String} :
    NamesDirectory (word :: words) ↔
      IsDirectoryOption word ∨ (word ≠ "--" ∧ NamesDirectory words) := by
  rw [NamesDirectory, List.takeWhile_cons]
  split
  next h => simp [NamesDirectory, of_decide_eq_true h]
  next h =>
    have hdashes : word = "--" := by simpa using h
    have hword : ¬IsDirectoryOption word := fun h => h.ne_dashes hdashes
    simp [hdashes ▸ hword, hdashes]

/-- A dump knows the options for declarations, but for the one for the directory. -/
theorem Verb.long?_dump {name : String} {a : Argument} (h : Verb.generate.long? name = some a) :
    Verb.dump.long? name = if name = "out-dir" then none else some a := by
  rw [long?, List.lookup_append] at h ⊢
  cases hshared : sharedOptions.lookup name with
  | some b =>
    have hne : name ≠ "out-dir" := by
      rintro rfl
      cases hshared
    rw [hshared] at h
    rw [if_neg hne]
    exact h
  | none =>
    rw [hshared] at h
    by_cases hname : name = "out-dir"
    · rw [if_pos hname, hname]
      rfl
    · simp [ownOptions, List.lookup_cons, beq_eq_false_iff_ne.mpr hname] at h

namespace Progress

variable {v w : Verb} {p q : Progress} {a : Argument} {word : String}

/-- A word means the same for two commands that know the same of it as a long option. -/
theorem meetWord_congr (h : ∀ name, longName? word = some name → v.long? name = w.long? name) :
    p.meetWord v word = p.meetWord w word := by
  unfold meetWord
  split
  · rfl
  · split
    · rfl
    -- The command is asked about long options only, and two hyphens alone are none.
    next cs hne hcs =>
      obtain ⟨c, cs, rfl⟩ := List.exists_cons_of_ne_nil hne
      have hname : longName? word = some (String.ofList ((c :: cs).takeWhile (· ≠ '='))) := by
        rw [longName?, hcs]
        rfl
      simp only [meetLong, h _ hname]
    · rfl
    · rfl

/-- A command stops at a long option that it does not know. -/
theorem meetWord_unknown {name : String} (hp : p.inputsOnly = false)
    (hw : longName? word = some name) (hv : v.long? name = none) :
    p.meetWord v word = .error .unknownArgument := by
  unfold longName? at hw
  split at hw
  next c cs hcs =>
    obtain rfl := Option.some.inj hw
    simp only [meetWord, hp, hcs, meetLong, hv]
    rfl
  next => cases hw

/-! ### The end of the options -/

theorem inputsOnly_take {value : Option String} (h : p.take a value = .ok q) :
    q.inputsOnly = p.inputsOnly := by
  unfold take at h
  split at h
  · cases h
  · split at h
    · split at h
      · cases h
      · exact Except.ok.inj h ▸ rfl
    · cases h
    · split at h
      · cases h
      · split at h
        · cases h
        · exact Except.ok.inj h ▸ rfl
    · exact Except.ok.inj h ▸ rfl
    · exact Except.ok.inj h ▸ rfl

theorem inputsOnly_settle (h : p.settle = .ok q) : q.inputsOnly = p.inputsOnly := by
  unfold settle at h
  split at h
  · exact Except.ok.inj h ▸ rfl
  · exact (inputsOnly_take h :)

theorem inputsOnly_meet {attached : Option String} (h : p.meet a attached = .ok q) :
    q.inputsOnly = p.inputsOnly := by
  unfold meet at h
  split at h
  · cases h
  all_goals obtain ⟨r, hr, h⟩ := exists_of_bind_eq_ok h
  · exact (inputsOnly_take h).trans (inputsOnly_settle hr)
  · exact (inputsOnly_take h).trans (inputsOnly_settle hr)
  · exact (Except.ok.inj h ▸ rfl : q.inputsOnly = r.inputsOnly).trans (inputsOnly_settle hr)

theorem inputsOnly_meetShort {cs : List Char} (h : p.meetShort cs = .ok q) :
    q.inputsOnly = p.inputsOnly := by
  induction cs generalizing p with
  | nil => exact Except.ok.inj h ▸ rfl
  | cons c cs ih =>
    unfold meetShort at h
    split at h
    · cases h
    · split at h
      · obtain ⟨r, hr, h⟩ := exists_of_bind_eq_ok h
        exact (ih h).trans (inputsOnly_meet hr)
      · split at h <;> exact inputsOnly_meet h

theorem inputsOnly_meetLong {cs : List Char} (h : p.meetLong v cs = .ok q) :
    q.inputsOnly = p.inputsOnly := by
  cases hv : v.long? (String.ofList (cs.takeWhile (· ≠ '='))) with
  | none =>
    simp only [meetLong, hv] at h
    cases h
  | some a =>
    simp only [meetLong, hv] at h
    exact inputsOnly_meet h

theorem inputsOnly_meetInput (h : p.meetInput word = .ok q) : q.inputsOnly = p.inputsOnly := by
  unfold meetInput at h
  split at h
  · cases h
  · obtain ⟨r, hr, h⟩ := exists_of_bind_eq_ok h
    exact (Except.ok.inj h ▸ rfl : q.inputsOnly = r.inputsOnly).trans (inputsOnly_settle hr)

/-- Two hyphens alone end the options, and nothing else does. -/
theorem inputsOnly_meetWord (h : p.meetWord v word = .ok q) :
    q.inputsOnly = (p.inputsOnly || word = "--") := by
  have hword : word = "--" ↔ word.toList = ['-', '-'] := String.toList_inj.symm
  simp only [hword]
  unfold meetWord at h
  split at h
  next hp => rw [inputsOnly_meetInput h, hp, Bool.true_or]
  next hp =>
    rw [Bool.eq_false_iff.mpr hp, Bool.false_or]
    -- Only the first of the four kinds of words is two hyphens alone.
    split at h
    next hw => rw [← Except.ok.inj h, decide_eq_true hw]
    next cs hne hw =>
      rw [inputsOnly_meetLong h, hw]
      simpa [hp] using hne
    next c cs _ hne hw =>
      rw [inputsOnly_meetShort h, hw]
      simpa [hp] using fun hc => absurd hc hne
    next hne _ _ =>
      have hq : q.inputsOnly = p.inputsOnly := by
        split at h
        · exact Except.ok.inj h ▸ rfl
        · exact inputsOnly_meetInput h
      rw [hq, Bool.eq_false_iff.mpr hp, decide_eq_false hne]

/-! ### All words -/

/-- A dump takes a word like the other command, if it is not the option for the
directory. -/
theorem meetWord_dump (h : p.meetWord .generate word = .ok q)
    (hd : p.inputsOnly = false → ¬IsDirectoryOption word) : p.meetWord .dump word = .ok q := by
  cases hp : p.inputsOnly with
  | true =>
    rw [meetWord, if_pos hp] at h ⊢
    exact h
  | false =>
    rw [← h]
    refine meetWord_congr fun name hname => ?_
    cases hv : Verb.generate.long? name with
    | none =>
      -- The other command would have stopped here.
      rw [meetWord_unknown hp hname hv] at h
      cases h
    | some a =>
      rw [Verb.long?_dump hv, if_neg]
      rintro rfl
      exact hd hp (longName?_eq_iff.mp hname)

/-- A dump stops at the option for the directory. -/
theorem meetWord_dump_error (hp : p.inputsOnly = false) (hd : IsDirectoryOption word) :
    p.meetWord .dump word = .error .unknownArgument :=
  meetWord_unknown hp (longName?_eq_iff.mpr hd) rfl

/-- Words without that option come to the same for both commands. -/
theorem foldlM_meetWord_dump {words : List String}
    (h : words.foldlM (meetWord .generate) p = .ok q)
    (hd : p.inputsOnly = false → ¬NamesDirectory words) :
    words.foldlM (meetWord .dump) p = .ok q := by
  -- Once options have ended, the rest may name the directory: it is not read as an option.
  induction words generalizing p with
  | nil => exact h
  | cons word words ih =>
    rw [List.foldlM_cons] at h ⊢
    obtain ⟨r, hr, h⟩ := exists_of_bind_eq_ok h
    have hword : p.meetWord .dump word = .ok r :=
      meetWord_dump hr fun hp hword => hd hp (namesDirectory_cons.mpr (.inl hword))
    rw [hword]
    refine ih h fun hfree hwords => ?_
    -- Options may follow the word, so they might at it, and it did not end them.
    rw [inputsOnly_meetWord hr, Bool.or_eq_false_iff, decide_eq_false_iff_not] at hfree
    exact hd hfree.1 (namesDirectory_cons.mpr (.inr ⟨hfree.2, hwords⟩))

/-- A dump stops at that option, not earlier. -/
theorem foldlM_meetWord_dump_error {words : List String}
    (h : words.foldlM (meetWord .generate) p = .ok q) (hp : p.inputsOnly = false)
    (hd : NamesDirectory words) :
    words.foldlM (meetWord .dump) p = .error .unknownArgument := by
  induction words generalizing p with
  | nil =>
    obtain ⟨_, hmem, -⟩ := hd
    cases hmem
  | cons word words ih =>
    rw [List.foldlM_cons] at h ⊢
    obtain ⟨r, hr, h⟩ := exists_of_bind_eq_ok h
    by_cases hword : IsDirectoryOption word
    · rw [meetWord_dump_error hp hword]
      rfl
    · obtain ⟨hne, hwords⟩ := (namesDirectory_cons.mp hd).resolve_left hword
      rw [meetWord_dump hr fun _ => hword]
      refine ih h ?_ hwords
      rw [inputsOnly_meetWord hr, hp, decide_eq_false hne]
      rfl

/-- What the words of the one command give, they give for a dump, unless they name the
directory by the long option. -/
theorem ofWords_dump {words : List String} (h : ofWords .generate words = .ok q) :
    (¬NamesDirectory words → ofWords .dump words = .ok q) ∧
    (NamesDirectory words → ofWords .dump words = .error .unknownArgument) := by
  obtain ⟨r, hr, h⟩ := exists_of_bind_eq_ok h
  refine ⟨fun hd => ?_, fun hd => ?_⟩
  · rw [ofWords, foldlM_meetWord_dump hr fun _ => hd]
    exact h
  · rw [ofWords, foldlM_meetWord_dump_error hr rfl hd]
    rfl

end Progress

/-! ### What both commands do first -/

/-- The catalogue of the model and its definitions as they are to be declared. -/
def prepare {m : Type → Type} [Monad m] (h : Host m) (input : Option String) (s : Settings) :
    ExceptT Failure m (Catalogue × List Definition) := do
  let generator ← orFail .invalidPattern (Generator.ofSettings s)
  let catalogue ← loadCatalogue h input
  return (catalogue, generator.transform catalogue)

/-- Writes the declarations of the definitions. -/
def Generate.write {m : Type → Type} [Monad m] (h : Host m) (g : Generate) (c : Catalogue)
    (ds : List Definition) : ExceptT Failure m (List String) := do
  orFail (.unwritable g.directory) (← h.makeDirectories g.directory)
  writeUnits h g.directory (unitsOf g.settings
    ((modulesOf ds).map fun (module, ds) => (module, moduleText c g.settings module ds)))

/-- The text for the definitions. -/
def Dump.layout (d : Dump) (ds : List Definition) : String :=
  (if d.compact then (dumpDefinitions ds).compact else (dumpDefinitions ds).indented) ++ "\n"

section
variable {m : Type → Type} [Monad m] [LawfulMonad m] (h : Host m)

theorem orFail_ofSettings (s : Settings) :
    (orFail .invalidPattern (Generator.ofSettings s) : ExceptT Failure m Generator) =
      orFail .invalidPattern (Whitelist.ofList s.whitelist) >>= fun w => pure ⟨s, w⟩ := by
  rw [Generator.ofSettings]
  cases Whitelist.ofList s.whitelist with
  | error e =>
    show orFail .invalidPattern (.error e) = _
    exact ExceptT.ext (by simp [orFail])
  | ok w =>
    show orFail .invalidPattern (.ok (⟨s, w⟩ : Generator)) = _
    simp [orFail]

theorem prepare_eq (input : Option String) (s : Settings) :
    prepare h input s = orFail .invalidPattern (Whitelist.ofList s.whitelist) >>= fun w =>
      loadCatalogue h input >>= fun c => pure (c, Generator.transform ⟨s, w⟩ c) := by
  rw [prepare, orFail_ofSettings, bind_assoc]
  simp only [pure_bind]

/-- Declarations are written of what has been prepared. -/
theorem Generate.run_eq_prepare (g : Generate) :
    g.run h = prepare h g.input g.settings >>= fun (c, ds) => g.write h c ds := by
  rw [Generate.run, orFail_ofSettings, prepare_eq]
  simp [Generate.write, Generator.run]

/-- A dump shows what has been prepared. -/
theorem Dump.text_eq_prepare (d : Dump) :
    d.text h = prepare h d.input d.settings >>= fun (_, ds) => pure (d.layout ds) := by
  rw [Dump.text, prepare]
  simp [Dump.layout]

end

end Command

/-! ### What changes the definitions -/

/-- The choices that change definitions, with the defaults for all others. -/
def Settings.forDefinitions (s : Settings) : Settings where
  flattens := s.flattens
  forcesDocs := s.forcesDocs
  whitelist := s.whitelist
  rootTypes := s.rootTypes

/-- Other choices have no part in a definition. -/
theorem Generator.refine_forDefinitions (s : Settings) (w : Whitelist) (c : Catalogue)
    (d : Definition) : refine ⟨s.forDefinitions, w⟩ c d = refine ⟨s, w⟩ c d := by
  induction d using Definition.nesting_induction with
  | step d ih =>
    -- The definition itself is completed by the same choices, so only those in it matter.
    have hmembers : d.members.map (Member.mapNested (refine ⟨s.forDefinitions, w⟩ c)) =
        d.members.map (Member.mapNested (refine ⟨s, w⟩ c)) := by
      refine List.map_congr_left fun m hm => ?_
      cases m with
      | method m => rfl
      | field f => rfl
      | nested e => exact congrArg Member.nested (ih e (Definition.mem_nested_iff.mpr hm))
    rw [refine_eq, refine_eq, hmembers]
    rfl

theorem Generator.transform_forDefinitions (s : Settings) (w : Whitelist) (c : Catalogue) :
    transform ⟨s.forDefinitions, w⟩ c = transform ⟨s, w⟩ c :=
  List.map_congr_left fun d _ => refine_forDefinitions s w c d

namespace Command

theorem prepare_forDefinitions {m : Type → Type} [Monad m] [LawfulMonad m] (h : Host m)
    (input : Option String) (s : Settings) :
    prepare h input s.forDefinitions = prepare h input s := by
  rw [prepare_eq, prepare_eq]
  simp only [Generator.transform_forDefinitions]
  rfl

/-- **Words for declarations serve for a dump**, unless they name the directory by the long
option, which is then refused.  The dump has the same input and the same choices for
definitions, so it shows the definitions whose declarations the other command writes. -/
theorem Request.read_dump {words : List String} {g : Generate}
    (h : Request.read ("generate" :: words) = .ok (.generate g)) :
    (NamesDirectory words → Request.read ("dump" :: words) = .error .unknownArgument) ∧
    (¬NamesDirectory words → ∃ d, Request.read ("dump" :: words) = .ok (.dump d) ∧
      d.input = g.input ∧ d.settings = g.settings.forDefinitions ∧
      ∀ (m : Type → Type) [Monad m] [LawfulMonad m] (host : Host m),
        g.run host = prepare host g.input g.settings >>= (fun (c, ds) => g.write host c ds) ∧
        d.text host = prepare host g.input g.settings >>= fun (_, ds) => pure (d.layout ds)) := by
  obtain ⟨p, hp, hg⟩ := exists_of_bind_eq_ok h
  obtain ⟨hsame, hrefused⟩ := Progress.ofWords_dump hp
  obtain rfl := Request.generate.inj (Except.ok.inj hg)
  refine ⟨fun hd => ?_, fun hd => ?_⟩
  · rw [Request.read, hrefused hd]
    rfl
  · have hread : Request.read ("dump" :: words) = .ok (p.request .dump) := by
      rw [Request.read, hsame hd]
      rfl
    refine ⟨_, hread, rfl, rfl, fun m _ _ host => ⟨Generate.run_eq_prepare host _, ?_⟩⟩
    -- A dump leaves all other choices at their defaults.
    rw [Dump.text_eq_prepare]
    exact congrArg (· >>= _) (prepare_forDefinitions host (p.path? .input) p.settings)

/-- Words with each kind of option, two of which come after a value. -/
def sharedWords : List String :=
  ["model.json", "-otypes", "--flatten-types", "--root-types", "a.A,a.B", "--root-types=a.C",
    "--index", "--method-whitelist", ".*"]

theorem Request.read_dump_sharedWords :
    ∃ g d, Request.read ("generate" :: sharedWords) = .ok (.generate g) ∧
      ¬NamesDirectory sharedWords ∧ Request.read ("dump" :: sharedWords) = .ok (.dump d) ∧
      d.input = g.input ∧ d.settings = g.settings.forDefinitions ∧
      g.settings.rootTypes = ["a.A", "a.B", "a.C"] := by
  let settings : Settings :=
    { buildsIndex := true, flattens := true, whitelist := [".*"],
      rootTypes := ["a.A", "a.B", "a.C"] }
  have hg : Request.read ("generate" :: sharedWords) =
      .ok (.generate ⟨some "model.json", "types", settings⟩) := rfl
  have hd : ¬NamesDirectory sharedWords := by decide
  obtain ⟨d, hread, hinput, hsettings, -⟩ := (Request.read_dump hg).2 hd
  exact ⟨_, d, hg, hd, hread, hinput, hsettings, rfl⟩

/-- The long option for the directory is one for declarations only. -/
theorem Request.not_read_dump_directory :
    (∃ g, Request.read ["generate", "model.json", "--out-dir", "types"] = .ok (.generate g)) ∧
      Request.read ["dump", "model.json", "--out-dir", "types"] = .error .unknownArgument :=
  ⟨⟨⟨some "model.json", "types", {}⟩, rfl⟩, rfl⟩

end Command

end Ambient
