import GrammarForge.CommandLine.Commands
import GrammarForge.Proofs.Processing.GrammarLists

/-!
# Where the list of grammars comes from

There are three places in which grammars can be listed: an option for them, a setting with their
key, and the configuration file. The first one of these that says anything is the one that counts,
and in it what is said last. What other settings say makes no difference to a run. This holds
however arguments and configuration files are read.
-/

namespace GrammarForge

namespace Options

theorem get?_set_of_ne {key other : String} (h : other ≠ key) (value : String) (o : Options) :
    (o.set key value).get? other = o.get? other := by
  have hbeq : (other == key) = false := by simpa using h
  rw [get?, set, List.lookup_cons, hbeq, get?]
  induction o with
  | nil => rfl
  | cons entry rest ih =>
      rw [List.filter_cons, List.lookup_cons]
      split_ifs with hentry
      · rw [List.lookup_cons]
        cases other == entry.1 with
        | true => rfl
        | false => exact ih
      · have hkey : entry.1 = key := by simpa using hentry
        rw [hkey, hbeq]
        exact ih

/-- Of all values that are set under a key the last one counts. -/
theorem get?_setAll (key : String) (pairs : List (String × String)) (o : Options) :
    (o.setAll pairs).get? key =
      ((pairs.filter (·.1 = key)).getLast?.map (·.2)).or (o.get? key) := by
  induction pairs generalizing o with
  | nil => rfl
  | cons pair rest ih =>
      have hstep : o.setAll (pair :: rest) = (o.set pair.1 pair.2).setAll rest := rfl
      rw [hstep, ih, List.filter_cons]
      split_ifs with hpair
      · have hkey : pair.1 = key := by simpa using hpair
        rw [List.getLast?_cons, hkey, get?_set_self]
        cases (rest.filter (·.1 = key)).getLast? with
        | none => rfl
        | some last => rfl
      · rw [get?_set_of_ne (by simpa [eq_comm] using hpair)]

end Options

/-- A list that is read and written again is read as before. -/
theorem splitPaths_joinPaths_splitPaths (list : String) :
    splitPaths (joinPaths (splitPaths list)) = splitPaths list :=
  (splitPaths_joinPaths_eq_self_iff _).2 fun _ hpath => mem_splitPaths hpath

/-- A processor reads no other option than the list of grammars. -/
theorem Processor.initStandard_eq {δ σ : Type} [DiagnosticSink δ] {o o' : Options}
    (h : o'.get? Options.grammarsKey = o.get? Options.grammarsKey) (s : RunState δ σ) :
    initStandard o' s = initStandard o s := by
  unfold initStandard init
  rw [h]

namespace Generate

/-- The key of a setting: what stands before its first equals sign. -/
def settingKey (text : String) : String := String.ofList (text.toList.takeWhile (· ≠ '='))

/-- The value of a setting: what stands after its first equals sign. -/
def settingValue (text : String) : String :=
  String.ofList ((text.toList.dropWhile (· ≠ '=')).drop 1)

theorem eq_of_readSetting {text : String} {setting : String × String}
    (h : readSetting text = .ok setting) :
    setting = (settingKey text, settingValue text) := by
  unfold readSetting at h
  unfold settingKey settingValue
  cases hrest : text.toList.dropWhile (· ≠ '=') with
  | nil =>
      rw [hrest] at h
      cases h
  | cons sign value =>
      cases hkey : text.toList.takeWhile (· ≠ '=') with
      | nil =>
          rw [hrest, hkey] at h
          cases h
      | cons c key =>
          rw [hrest, hkey] at h
          cases h
          rfl

theorem eq_of_mapM_readSetting {texts : List String} {settings : List (String × String)}
    (h : texts.mapM readSetting = .ok settings) :
    settings = texts.map fun text => (settingKey text, settingValue text) := by
  induction texts generalizing settings with
  | nil =>
      cases h
      rfl
  | cons text rest ih =>
      rw [List.mapM_cons] at h
      obtain ⟨setting, hsetting, h⟩ := bind_eq_ok.1 h
      obtain ⟨settings, hsettings, h⟩ := bind_eq_ok.1 h
      cases h
      rw [eq_of_readSetting hsetting, ih hsettings, List.map_cons]

/-- The texts of the settings that list grammars. -/
def grammarSettings (given : Flags String) : List String :=
  given.settings.filter (settingKey · = Options.grammarsKey)

/-- What is said without the settings that have other keys. -/
def withoutOthers (given : Flags String) : Flags String :=
  { given with settings := grammarSettings given }

/-- The text of the list that counts, where the configuration file lists the grammars `listed`. -/
def chosenList (given : Flags String) (listed : List String) : String :=
  match given.grammars, (grammarSettings given).getLast? with
  | some list, _ => list
  | none, some text => settingValue text
  | none, none => joinPaths listed

section Read

variable {given : Flags String} {flags : Flags (String × String)} (h : given.read = .ok flags)

include h

theorem eq_of_read :
    flags = { given with
      settings := given.settings.map fun text => (settingKey text, settingValue text) } := by
  obtain ⟨settings, hsettings, h⟩ := bind_eq_ok.1 h
  cases h
  rw [eq_of_mapM_readSetting hsettings]

theorem getLast?_settings :
    (flags.settings.filter (·.1 = Options.grammarsKey)).getLast?.map (·.2) =
      (grammarSettings given).getLast?.map settingValue := by
  rw [eq_of_read h, grammarSettings, List.filter_map, List.getLast?_map, Option.map_map]
  rfl

/-- The list that is handed over to the processor. A list in an option of its own has been read and
written again. -/
theorem get?_optionsOf (config : Config) :
    (optionsOf flags config).get? Options.grammarsKey =
      some ((given.grammars.map fun list => joinPaths (splitPaths list)).getD
        (chosenList given config.grammars)) := by
  have hgrammars : flags.grammars = given.grammars := by rw [eq_of_read h]
  unfold optionsOf chosenList
  rw [hgrammars]
  cases given.grammars with
  | some list =>
      simp only [Option.map_some, Option.getD_some]
      exact Options.get?_set_self ..
  | none =>
      rw [Options.get?_setAll, getLast?_settings h]
      cases (grammarSettings given).getLast? with
      | none => rfl
      | some text => rfl

end Read

theorem splitPaths_getD (given : Flags String) (listed : List String) :
    splitPaths ((given.grammars.map fun list => joinPaths (splitPaths list)).getD
      (chosenList given listed)) = splitPaths (chosenList given listed) := by
  unfold chosenList
  cases given.grammars with
  | some list =>
      simp only [Option.map_some, Option.getD_some]
      exact splitPaths_joinPaths_splitPaths list
  | none => rfl

/-- The processor that a run makes before it starts. -/
def processorFor (settings : Settings) (files : FileSystem) :
    Processor (List Diagnostic) DirectoryStore :=
  .initStandard settings.options
    ⟨⟨DirectoryStore.new settings.outDirectory settings.sourceRoots, files⟩, []⟩

theorem queue_processorFor {given : Flags String} {flags : Flags (String × String)}
    (h : given.read = .ok flags) (config : Config) (files : FileSystem) :
    (processorFor (settingsOf flags config) files).queue =
      .ofList (chosenList given config.grammars) := by
  have hlist := get?_optionsOf h config
  have hqueue : (processorFor (settingsOf flags config) files).queue = .ofList _ :=
    Processor.queue_init hlist _ _ _
  rw [hqueue, GrammarQueue.ofList, splitPaths_getD, GrammarQueue.ofList]

section OtherOptions

variable {settings : Settings} {o : Options}
  (h : o.get? Options.grammarsKey = settings.options.get? Options.grammarsKey) (files : FileSystem)

include h

theorem processorFor_eq :
    processorFor { settings with options := o } files = processorFor settings files := by
  simp only [processorFor, Processor.initStandard_eq h]

theorem run_eq : run { settings with options := o } files = run settings files := by
  simp only [run, Processor.initStandard_eq h]

end OtherOptions

section OtherSettings

variable {given given' : Flags String} {flags flags' : Flags (String × String)}
  (h : given.read = .ok flags) (h' : given'.read = .ok flags')
  (hothers : withoutOthers given' = withoutOthers given)

include h h' hothers

theorem eq_of_withoutOthers : flags' = { flags with settings := flags'.settings } := by
  simp only [withoutOthers, Flags.mk.injEq] at hothers
  obtain ⟨hconfig, hgrammars, -, hout, hroots, hrounds⟩ := hothers
  rw [eq_of_read h, eq_of_read h', hconfig, hgrammars, hout, hroots, hrounds]

/-- Settings make no difference to where the configuration comes from. -/
theorem configOf_eq (read : String → Option Config) (files : FileSystem) :
    configOf read flags' files = configOf read flags files := by
  rw [configOf, configOf, eq_of_withoutOthers h h' hothers]

theorem get?_optionsOf_eq (config : Config) :
    (optionsOf flags' config).get? Options.grammarsKey =
      (optionsOf flags config).get? Options.grammarsKey := by
  simp only [withoutOthers, Flags.mk.injEq] at hothers
  obtain ⟨-, hgrammars, hsettings, -⟩ := hothers
  rw [get?_optionsOf h, get?_optionsOf h', chosenList, chosenList, hgrammars, hsettings]

/-- Settings with other keys make no difference but to the options. -/
theorem settingsOf_eq (config : Config) :
    settingsOf flags' config =
      { settingsOf flags config with options := optionsOf flags' config } := by
  rw [settingsOf, settingsOf, eq_of_withoutOthers h h' hothers]

end OtherSettings

/-- The configuration file, if there is one: the one that is given, or else the one that is
there. -/
def configFile? (given : Flags String) (files : FileSystem) : Option String :=
  given.config.or (if files.isFileAt Config.fileName then some Config.fileName else none)

section ConfigFile

variable (read : String → Option Config) {files : FileSystem} {config : Config}

/-- The grammars that a configuration file lists, relative to the directory of the file. Without a
file there are none. -/
def listedIn? (files : FileSystem) : Option String → Option (List String)
  | none => some []
  | some path => do
    let config ← read (← (files.readText path).toOption)
    return config.grammars.map (Path.join ((Path.parent? path).getD ""))

variable {read}

theorem listedIn?_of_load {path : String} (h : Config.load read files path = .ok config) :
    listedIn? read files (some path) = some config.grammars := by
  unfold Config.load at h
  unfold listedIn?
  cases htext : files.readText path with
  | error e =>
      rw [htext] at h
      cases h
  | ok text =>
      simp only [htext] at h
      cases hread : read text with
      | none =>
          rw [hread] at h
          cases h
      | some c =>
          rw [hread] at h
          cases h
          simp [htext, Except.toOption, hread, Config.resolve]

theorem listedIn?_configFile? {given : Flags String} {flags : Flags (String × String)}
    (hread : given.read = .ok flags) (h : configOf read flags files = .ok config) :
    listedIn? read files (configFile? given files) = some config.grammars := by
  have hflag : flags.config = given.config := by rw [eq_of_read hread]
  unfold configOf at h
  unfold configFile?
  rw [hflag] at h
  cases hfile : given.config with
  | some path =>
      rw [hfile] at h
      exact listedIn?_of_load h
  | none =>
      rw [hfile] at h
      by_cases hdefault : files.isFileAt Config.fileName = true
      · simp only [hdefault, if_true] at h
        simpa [hdefault] using listedIn?_of_load h
      · simp only [hdefault] at h
        cases h
        simp [hdefault, listedIn?, Config.standard]

end ConfigFile

open Program

/-- Arguments that are accepted, with a configuration that can be read, lead to a run. -/
theorem run_generate {lib : Libraries} {args : List String} {files : FileSystem}
    {given : Flags String} {flags : Flags (String × String)} {config : Config}
    (hargs : lib.command args = .ok (.generate given)) (hread : given.read = .ok flags)
    (hconfig : configOf lib.config flags files = .ok config) :
    Program.run lib args files =
      ⟨(run (settingsOf flags config) files).1.outputLines,
        (run (settingsOf flags config) files).1.problemLines,
        exitCode (run (settingsOf flags config) files).1.isSuccess,
        (run (settingsOf flags config) files).2⟩ := by
  simp only [Program.run, hargs, generate, hread, hconfig]

/-- The list of grammars that a run is about is the one of the option for lists, if that is given,
or else the one of the last setting for grammars, or else the one of the configuration file. Other
settings make no difference to a run. -/
theorem grammars_are_chosen_by_precedence {lib : Libraries} {args : List String}
    {files : FileSystem} {given : Flags String} {flags : Flags (String × String)} {config : Config}
    (hargs : lib.command args = .ok (.generate given)) (hread : given.read = .ok flags)
    (hconfig : configOf lib.config flags files = .ok config) :
    let settings := settingsOf flags config
    let p := processorFor settings files
    ((Program.run lib args files).output.head? = some s!"Grammars: {p.queue.pending.length}" ∧
      (Program.run lib args files).files = (p.runRounds settings.maxRounds).2.files) ∧
    (∃ listed, listedIn? lib.config files (configFile? given files) = some listed ∧
      p.queue = .ofList (chosenList given listed)) ∧
    ∀ args' given' flags', lib.command args' = .ok (.generate given') →
      given'.read = .ok flags' → withoutOthers given' = withoutOthers given →
        let settings' := settingsOf flags' config
        let p' := processorFor settings' files
        configOf lib.config flags' files = .ok config ∧ p' = p ∧
          p'.runRounds settings'.maxRounds = p.runRounds settings.maxRounds ∧
          Program.run lib args' files = Program.run lib args files := by
  intro settings p
  have hrun := run_generate hargs hread hconfig
  have houtcome : (Program.run lib args files).output.head? =
        some s!"Grammars: {p.queue.pending.length}" ∧
      (Program.run lib args files).files = (p.runRounds settings.maxRounds).2.files := by
    rw [hrun]
    exact ⟨rfl, rfl⟩
  refine ⟨houtcome, ⟨config.grammars, listedIn?_configFile? hread hconfig,
    queue_processorFor hread config files⟩, ?_⟩
  intro args' given' flags' hargs' hread' hothers settings' p'
  have hsettings := settingsOf_eq hread hread' hothers config
  have hoptions := get?_optionsOf_eq hread hread' hothers config
  have hprocessor : p' = p := by
    simp only [p', settings', hsettings]
    exact processorFor_eq hoptions files
  have hconfig' : configOf lib.config flags' files = .ok config :=
    (configOf_eq hread hread' hothers lib.config files).trans hconfig
  refine ⟨hconfig', hprocessor, ?_, ?_⟩
  · simp only [hprocessor, settings', hsettings]
    rfl
  · rw [hrun, run_generate hargs' hread' hconfig', hsettings, run_eq hoptions files]

/-- A project with a configuration file below the current directory. -/
def configuredProject : FileSystem :=
  ⟨["w"], [(["w"], .directory), (["w", "c"], .directory),
    (["w", "c", "g.toml"], .file (encodeText "processor.grammars = ['x.bnf', '/y.bnf']"))],
    by decide⟩

/-- Two settings list grammars, and so does the configuration file. The last setting has an equals
sign and a blank path in its list. Two more settings are added, one with a key that starts like the
one for grammars, and more is to be logged. -/
theorem last_setting_for_grammars_counts :
    let args := ["generate", "-cc/g.toml", "-A", "grammars=a.bnf", "-A=grammars=b=c.bnf: :d.bnf"]
    let args' := ["-v", "generate", "-A", "debug=grammars=z.bnf", "-cc/g.toml", "-A",
      "grammars=a.bnf", "-A=grammars=b=c.bnf: :d.bnf", "-Agrammars2=z.bnf"]
    ∃ given flags config, Libraries.standard.command args = .ok (.generate given) ∧
      given.read = .ok flags ∧
      configOf Libraries.standard.config flags configuredProject = .ok config ∧
      (processorFor (settingsOf flags config) configuredProject).queue =
        .ofPaths ["b=c.bnf", "d.bnf"] ∧
      Program.run .standard args' configuredProject =
        Program.run .standard args configuredProject := by
  intro args args'
  let texts := ["grammars=a.bnf", "grammars=b=c.bnf: :d.bnf"]
  let pairs := [("grammars", "a.bnf"), ("grammars", "b=c.bnf: :d.bnf")]
  let more := ("debug", "grammars=z.bnf") :: pairs ++ [("grammars2", "z.bnf")]
  have hargs : Libraries.standard.command args =
      .ok (.generate ⟨some "c/g.toml", none, texts, none, [], none⟩) := by
    decide +kernel
  have hread : Flags.read ⟨some "c/g.toml", none, texts, none, [], none⟩ =
      .ok ⟨some "c/g.toml", none, pairs, none, [], none⟩ := by
    decide +kernel
  have hconfig : configOf Libraries.standard.config
      ⟨some "c/g.toml", none, pairs, none, [], none⟩ configuredProject =
        .ok ⟨["c/x.bnf", "/y.bnf"], "c/gen", [], 8⟩ := by
    decide +kernel
  obtain ⟨-, ⟨listed, hlisted, hqueue⟩, hsame⟩ :=
    grammars_are_chosen_by_precedence hargs hread hconfig
  have hfile : listedIn? Libraries.standard.config configuredProject (some "c/g.toml") =
      some ["c/x.bnf", "/y.bnf"] := by
    decide +kernel
  obtain rfl := Option.some.inj (hlisted.symm.trans hfile)
  refine ⟨_, _, _, hargs, hread, hconfig, hqueue.trans (by decide +kernel), ?_⟩
  obtain ⟨-, -, -, houtcome⟩ := hsame args'
    ⟨some "c/g.toml", none, "debug=grammars=z.bnf" :: texts ++ ["grammars2=z.bnf"], none, [], none⟩
    ⟨some "c/g.toml", none, more, none, [], none⟩
    (by decide +kernel) (by decide +kernel) (by decide +kernel)
  exact houtcome

end Generate

end GrammarForge
