import Pluck.Proofs.Runs
import Pluck.Proofs.TextReaders

/-!
What accepted settings are good for.

Settings pass three checks, one after the other: the log level, the path, the selector. They are
accepted if they pass all of them (`Settings.Acceptable`), and refused for the first one that they
fail (`Settings.FirstFault`). A run goes on with accepted settings only, the usual ones included
(`startSettings_eq_ok`), so it never fails for a selector that is in them
(`run_failure_ne_settingsSelector`), and it warns of an empty selector exactly if the settings are
accepted with one (`Settings.ofToml_acceptable`).
-/

namespace Pluck
namespace Settings

/-- What stands for an output form in a table, if anything does. -/
inductive SpellsForm : Option Toml → OutputForm → Prop
  | missing : SpellsForm none .compact
  | name (form : OutputForm) : SpellsForm (some (.string form.name)) form
  | overTable (form : OutputForm) (outer inner : Toml.Origin) :
      SpellsForm (some (.table outer [(form.name, .table inner [])])) form
  | overArray (form : OutputForm) (outer : Toml.Origin) :
      SpellsForm (some (.table outer [(form.name, .array [])])) form

/-- The settings are those in the table; the log level and the output form have usual values if they
are missing there. -/
structure SpelledBy (settings : Settings) (table : Toml.Table) : Prop where
  logLevel : ∃ setting : Option String,
    Entries.get? "log_level" table = setting.map .string ∧ settings.logLevel = setting.getD "warn"
  output : SpellsForm (Entries.get? "output" table) settings.output
  selector : Entries.get? "selector" table = settings.selector.map .string
  input : Entries.get? "input" table = settings.input.map .string

/-- The text is more than blanks. -/
def HasText (text : String) : Prop := ∃ c ∈ text.toList, isBlank c = false

structure Acceptable (settings : Settings) : Prop where
  logLevel : HasText settings.logLevel
  input : ∀ path, settings.input = some path → HasText path
  selector : ∀ text, settings.selector = some text →
    ∃ selector, Selector.ofUserText text = .ok selector

/-- The settings fail a check, and pass those before it. -/
inductive FirstFault (settings : Settings) : Error → Prop
  | logLevel (h : ¬ HasText settings.logLevel) : FirstFault settings .blankLogLevel
  | input {path : String} (hlevel : HasText settings.logLevel)
      (hinput : settings.input = some path) (h : ¬ HasText path) : FirstFault settings .blankInput
  | selector {text message : String} (hlevel : HasText settings.logLevel)
      (hinput : ∀ path, settings.input = some path → HasText path)
      (hselector : settings.selector = some text) (h : Selector.ofUserText text = .error message) :
      FirstFault settings (.selector message)

/-- The selector is set, to a list without items. -/
def EmptySelector (settings : Settings) : Prop :=
  ∃ text, settings.selector = some text ∧ Selector.ofUserText text = .ok (.fields [])

def emptySelectorWarning : Event :=
  ⟨.warn, configTarget, "configured selector is empty; every extraction will yield \x7b\x7d"⟩

/-! ## Settings in a table -/

theorem stringSetting?_eq_some_iff {key : String} {table : Toml.Table} {setting : Option String} :
    stringSetting? key table = some setting ↔ Entries.get? key table = setting.map .string := by
  unfold stringSetting?
  cases Entries.get? key table with
  | none => cases setting <;> simp
  | some value => cases value <;> cases setting <;> simp

theorem outputSetting?_eq_some_iff {table : Toml.Table} {form : OutputForm} :
    outputSetting? table = some form ↔ SpellsForm (Entries.get? "output" table) form := by
  unfold outputSetting?
  constructor
  · intro h
    split at h
    · next hmissing =>
        cases h
        rw [hmissing]
        exact .missing
    · next hname =>
        rw [hname, OutputForm.ofName?_eq_some_iff.1 h]
        exact .name form
    · next htable =>
        rw [htable, OutputForm.ofName?_eq_some_iff.1 h]
        exact .overTable form _ _
    · next harray =>
        rw [harray, OutputForm.ofName?_eq_some_iff.1 h]
        exact .overArray form _
    · cases h
  · intro h
    have hform : OutputForm.ofName? form.name = some form := OutputForm.ofName?_eq_some_iff.2 rfl
    generalize Entries.get? "output" table = found at h
    cases h with
    | missing => rfl
    | name | overTable | overArray => exact hform

theorem ofTable?_eq_some_iff {table : Toml.Table} {settings : Settings} :
    ofTable? table = some settings ↔ settings.SpelledBy table := by
  unfold ofTable?
  simp only [Option.bind_eq_bind, Option.bind_eq_some_iff, stringSetting?_eq_some_iff,
    outputSetting?_eq_some_iff, pure, Option.some.injEq]
  constructor
  · rintro ⟨logLevel, hlevel, output, houtput, selector, hselector, input, hinput, rfl⟩
    exact ⟨⟨logLevel, hlevel, rfl⟩, houtput, hselector, hinput⟩
  · rintro ⟨⟨logLevel, hlevel, hlogLevel⟩, houtput, hselector, hinput⟩
    obtain ⟨_, output, selector, input⟩ := settings
    dsimp only at hlogLevel
    rw [hlogLevel]
    exact ⟨logLevel, hlevel, output, houtput, selector, hselector, input, hinput, rfl⟩

theorem decode?_eq_some_iff {text : String} {settings : Settings} :
    decode? text = some settings ↔
      ∃ table, Toml.read? text = some table ∧ settings.SpelledBy table := by
  simp only [decode?, Option.bind_eq_some_iff, ofTable?_eq_some_iff]

/-! ## The checks -/

theorem hasText_iff {text : String} : HasText text ↔ isBlankText text = false := by
  simp [HasText, isBlankText]

section Checks

variable {settings : Settings}

theorem hasText_input_iff :
    (∀ path, settings.input = some path → HasText path) ↔
      settings.input.any isBlankText = false := by
  cases settings.input <;> simp [hasText_iff]

theorem parsedSelector_eq_ok_iff {found : Option Selector} :
    settings.parsedSelector = .ok found ↔
      (settings.selector = none ∧ found = none) ∨
        ∃ text selector, settings.selector = some text ∧
          Selector.ofUserText text = .ok selector ∧ found = some selector := by
  unfold parsedSelector
  cases settings.selector with
  | none => simp [eq_comm]
  | some text => cases h : Selector.ofUserText text <;> simp [h, eq_comm]

theorem parsedSelector_eq_error_iff {e : Error} :
    settings.parsedSelector = .error e ↔
      ∃ text message, settings.selector = some text ∧ Selector.ofUserText text = .error message ∧
        e = .selector message := by
  unfold parsedSelector
  cases settings.selector with
  | none => simp
  | some text => cases h : Selector.ofUserText text <;> simp [h, eq_comm]

theorem fault?_eq_some_iff {e : Error} : settings.fault? = some e ↔ settings.FirstFault e := by
  -- one case for each check, in their order: a later one starts from what the earlier ones passed
  unfold fault?
  split
  · next hblank =>
      have hlevel : ¬ HasText settings.logLevel := by simp [hasText_iff, hblank]
      constructor
      · rintro ⟨⟩
        exact .logLevel hlevel
      · rintro (_ | ⟨h, -, -⟩ | ⟨h, -, -, -⟩)
        · rfl
        · exact absurd h hlevel
        · exact absurd h hlevel
  · next hlevel =>
      rw [Bool.not_eq_true, ← hasText_iff] at hlevel
      split
      · next hblank =>
          have hinput : ¬ ∀ path, settings.input = some path → HasText path := by
            simp [hasText_input_iff, hblank]
          constructor
          · rintro ⟨⟩
            obtain ⟨path, h⟩ := not_forall.1 hinput
            obtain ⟨hpath, hempty⟩ := Classical.not_imp.1 h
            exact .input hlevel hpath hempty
          · rintro (h | _ | ⟨-, h, -, -⟩)
            · exact absurd hlevel h
            · rfl
            · exact absurd h hinput
      · next hinput =>
          rw [Bool.not_eq_true, ← hasText_input_iff] at hinput
          have hfault : settings.FirstFault e ↔ settings.parsedSelector = .error e := by
            rw [parsedSelector_eq_error_iff]
            constructor
            · rintro (h | ⟨-, hpath, h⟩ | ⟨-, -, hselector, h⟩)
              · exact absurd hlevel h
              · exact absurd (hinput _ hpath) h
              · exact ⟨_, _, hselector, h, rfl⟩
            · rintro ⟨text, message, hselector, h, rfl⟩
              exact .selector hlevel hinput hselector h
          rw [hfault]
          cases settings.parsedSelector <;> simp

theorem acceptable_iff : settings.Acceptable ↔ ∀ e, ¬ settings.FirstFault e := by
  constructor
  · rintro ⟨hlevel, hinput, hselector⟩ e (h | ⟨-, hpath, h⟩ | ⟨-, -, htext, h⟩)
    · exact h hlevel
    · exact h (hinput _ hpath)
    · obtain ⟨selector, hread⟩ := hselector _ htext
      cases h.symm.trans hread
  · intro h
    have hlevel : HasText settings.logLevel := by
      by_contra hblank
      exact h _ (.logLevel hblank)
    have hinput : ∀ path, settings.input = some path → HasText path := by
      intro path hpath
      by_contra hblank
      exact h _ (.input hlevel hpath hblank)
    refine ⟨hlevel, hinput, fun text htext => ?_⟩
    cases hread : Selector.ofUserText text with
    | error message => exact absurd (.selector hlevel hinput htext hread) (h _)
    | ok selector => exact ⟨selector, rfl⟩

theorem fault?_eq_none_iff : settings.fault? = none ↔ settings.Acceptable := by
  simp only [Option.eq_none_iff_forall_ne_some, Ne, fault?_eq_some_iff, acceptable_iff]

/-- A selector in accepted settings can be read again. -/
theorem Acceptable.exists_parsedSelector (h : settings.Acceptable) :
    ∃ found, settings.parsedSelector = .ok found ∧ (found = none ↔ settings.selector = none) := by
  cases hselector : settings.selector with
  | none => exact ⟨none, parsedSelector_eq_ok_iff.2 (.inl ⟨hselector, rfl⟩), by simp⟩
  | some text =>
      obtain ⟨selector, hread⟩ := h.selector text hselector
      have hparsed : settings.parsedSelector = .ok (some selector) :=
        parsedSelector_eq_ok_iff.2 (.inr ⟨text, selector, hselector, hread, rfl⟩)
      exact ⟨some selector, hparsed, by simp⟩

theorem warnings_eq : (settings.warnings = [emptySelectorWarning] ∧ settings.EmptySelector) ∨
    (settings.warnings = [] ∧ ¬ settings.EmptySelector) := by
  have hempty : settings.EmptySelector ↔ settings.parsedSelector = .ok (some (.fields [])) := by
    rw [parsedSelector_eq_ok_iff]
    simp [EmptySelector]
  rw [hempty]
  unfold warnings
  split
  · next h => exact .inl ⟨rfl, h⟩
  · next h => exact .inr ⟨rfl, h⟩

end Checks

/-- The settings of a run without a file pass all checks. -/
theorem acceptable_usual : Acceptable {} := fault?_eq_none_iff.1 rfl

/-! ## Texts -/

section Texts

variable {tomlFault : String → String} {text : String}

theorem ofToml_eq_ok_iff {settings : Settings} :
    ofToml tomlFault text = .ok settings ↔ decode? text = some settings ∧ settings.Acceptable := by
  unfold ofToml
  rw [← fault?_eq_none_iff]
  cases decode? text with
  | none => simp
  | some found =>
      rw [Option.some.injEq]
      cases hfault : found.fault? with
      | none =>
          simp only [hfault, Except.ok.injEq, iff_self_and]
          rintro rfl
          exact hfault
      | some e =>
          simp only [hfault, reduceCtorEq, false_iff, not_and]
          rintro rfl hnone
          cases hfault.symm.trans hnone

theorem ofToml_eq_error_iff {e : Error} :
    ofToml tomlFault text = .error e ↔ (decode? text = none ∧ e = .notDecoded (tomlFault text)) ∨
      ∃ settings, decode? text = some settings ∧ settings.FirstFault e := by
  unfold ofToml
  simp only [← fault?_eq_some_iff]
  cases decode? text with
  | none => simp [eq_comm]
  | some found => cases hfault : found.fault? <;> simp [hfault]

end Texts

end Settings

namespace Command

variable {σ : Type} {around : Surroundings (StateM σ)}

/-! ## Runs -/

/-- The run reads its settings from a file with this text. -/
def ReadsSettings (around : Surroundings (StateM σ)) (start : σ) (args : List String)
    (text : String) : Prop :=
  ∃ arguments path, Request.ofList args = .ok (.run arguments) ∧ arguments.config = some path ∧
    ((around.readFile path).run start).1 = .ok text

theorem SettingsRead.acceptable {s t : σ} {path : Option String} {settings : Settings}
    (h : SettingsRead around s path settings t) : settings.Acceptable := by
  cases h with
  | usual => exact Settings.acceptable_usual
  | file _ haccepted => exact (Settings.ofToml_eq_ok_iff.1 haccepted).2

/-- A run goes on with accepted settings, and with the warnings that they deserve. -/
theorem startSettings_eq_ok {s t : σ} {arguments : Arguments} {settings : Settings}
    {early : List Event}
    (h : (startSettings around arguments).run s = (.ok (settings, early), t)) :
    settings.Acceptable ∧ early = settings.warnings := by
  refine ⟨(startSettings_eq_ok_iff.1 ⟨early, h⟩).acceptable, ?_⟩
  rw [startSettings] at h
  split at h
  · cases h
    rfl
  · rw [run_bind] at h
    split at h <;> cases h
    rfl

/-- Once its settings are read, a run goes on with the log set up. -/
theorem run_of_settingsRead {start t : σ} {args : List String} {arguments : Arguments}
    {settings : Settings} (hrequest : Request.ofList args = .ok (.run arguments))
    (hsettings : SettingsRead around start arguments.config settings t)
    (logLevel : Option String) :
    (run around args logLevel).run start =
      (runWith around arguments (arguments.apply settings)
        { early := settings.warnings
          log := some (Filter.ofText (logLevel.getD settings.logLevel)) }).run t := by
  obtain ⟨early, hstart⟩ := startSettings_eq_ok_iff.2 hsettings
  obtain ⟨-, rfl⟩ := startSettings_eq_ok hstart
  rw [run, hrequest]
  dsimp only
  rw [run_bind, hstart]

/-- A run reads its settings, or it ends before it has a log and not for a selector in them. -/
theorem run_cases (around : Surroundings (StateM σ)) (start : σ) (args : List String)
    (logLevel : Option String) :
    (∃ arguments settings t, Request.ofList args = .ok (.run arguments) ∧
      SettingsRead around start arguments.config settings t) ∨
    ((run around args logLevel).run start).1.log = none ∧
      ∀ e, ((run around args logLevel).run start).1.failure ≠ some (.settingsSelector e) := by
  unfold run
  cases hrequest : Request.ofList args with
  | error e => exact .inr ⟨rfl, nofun⟩
  | ok request =>
      cases request with
      | version | help => exact .inr ⟨rfl, nofun⟩
      | run arguments =>
          rcases hstart : (startSettings around arguments).run start with ⟨e | ⟨settings, early⟩, t⟩
          · right
            dsimp only
            rw [run_bind, hstart]
            exact ⟨rfl, nofun⟩
          · exact .inl ⟨arguments, settings, t, rfl, startSettings_eq_ok_iff.1 ⟨early, hstart⟩⟩

/-- Reading the input has failures of its own. -/
theorem readInput_ne_settingsSelector (s : σ) (path : Option String) (e : Settings.Error) :
    ((readInput around path).run s).1 ≠ .error (.settingsSelector e) := by
  cases path with
  | none =>
      rw [readInput, run_bind]
      cases (around.readStdin.run s).1 <;> rintro ⟨⟩
  | some path =>
      rw [readInput, run_bind]
      cases ((around.readFile path).run s).1 <;> rintro ⟨⟩

/-- Once the settings are read, the events of reading them stay as they are, and only the selector
in the settings can be at fault for their sake. -/
theorem runWith_keeps (s : σ) (arguments : Arguments) (settings : Settings) (outcome : Outcome) :
    ((runWith around arguments settings outcome).run s).1.early = outcome.early ∧
      ∀ e, ((runWith around arguments settings outcome).run s).1.failure =
          some (.settingsSelector e) →
        outcome.failure = some (.settingsSelector e) ∨ settings.parsedSelector = .error e := by
  unfold runWith
  cases hchoice : chooseSelector arguments settings with
  | error failure =>
      refine ⟨rfl, ?_⟩
      rintro e ⟨⟩
      right
      unfold chooseSelector at hchoice
      split at hchoice
      · split at hchoice <;> cases hchoice
      · split at hchoice
        · next hparsed =>
            cases hchoice
            exact hparsed
        · cases hchoice
        · cases hchoice
  | ok selector =>
      dsimp only
      rw [run_bind]
      cases hinput : ((readInput around settings.input).run s).1 with
      | error failure =>
          refine ⟨rfl, ?_⟩
          rintro e ⟨⟩
          exact absurd hinput (readInput_ne_settingsSelector s settings.input e)
      | ok text =>
          change (finish settings selector _ text).early = _ ∧
            ∀ e, (finish settings selector _ text).failure = _ → _
          unfold finish
          cases Json.read text with
          | error message => exact ⟨rfl, fun e h => by cases h⟩
          | ok input => exact ⟨rfl, fun e h => .inl h⟩

/-- A run never fails for a selector in its settings, since it goes on with accepted ones only. -/
theorem run_failure_ne_settingsSelector (around : Surroundings (StateM σ)) (start : σ)
    (args : List String) (logLevel : Option String) (e : Settings.Error) :
    ((run around args logLevel).run start).1.failure ≠ some (.settingsSelector e) := by
  obtain ⟨arguments, settings, t, hrequest, hsettings⟩ | ⟨-, hother⟩ :=
    run_cases around start args logLevel
  · rw [run_of_settingsRead hrequest hsettings]
    intro h
    obtain ⟨found, hparsed, -⟩ := hsettings.acceptable.exists_parsedSelector
    obtain hnone | herror := (runWith_keeps t arguments (arguments.apply settings) _).2 e h
    · cases hnone
    · -- what the arguments say does not touch the selector
      have hsame : (arguments.apply settings).parsedSelector = settings.parsedSelector := rfl
      cases hparsed.symm.trans (hsame.symm.trans herror)
  · exact hother e

theorem startSettings_of_read {s : σ} {arguments : Arguments} {path text : String}
    (hpath : arguments.config = some path) (hread : ((around.readFile path).run s).1 = .ok text) :
    ((startSettings around arguments).run s).1 =
      ((Settings.ofToml around.tomlFault text).mapError (.refused path)).map fun settings =>
        (settings, settings.warnings) := by
  have hload : ((loadSettings around path).run s).1 =
      (Settings.ofToml around.tomlFault text).mapError (.refused path) := by
    rw [loadSettings, run_bind, hread]
    dsimp only
    cases Settings.ofToml around.tomlFault text <;> rfl
  rw [startSettings, hpath]
  dsimp only
  rw [run_bind, hload]
  cases Settings.ofToml around.tomlFault text <;> rfl

/-- A run that reads its settings from a file has the warnings of the settings, if these are
accepted. -/
theorem early_run {start : σ} {args : List String} {text : String}
    (h : ReadsSettings around start args text) (logLevel : Option String) :
    ((run around args logLevel).run start).1.early =
      match Settings.ofToml around.tomlFault text with
      | .ok settings => settings.warnings
      | .error _ => [] := by
  obtain ⟨arguments, path, hrequest, hpath, hread⟩ := h
  have hstart := startSettings_of_read hpath hread
  rw [run, hrequest]
  dsimp only
  rw [run_bind]
  cases haccepted : Settings.ofToml around.tomlFault text with
  | error e =>
      rw [haccepted] at hstart
      rw [hstart]
      rfl
  | ok settings =>
      rw [haccepted] at hstart
      rw [hstart]
      exact (runWith_keeps _ arguments (arguments.apply settings) _).1

end Command

/-- **Acceptance of settings.** A text is accepted exactly if it spells settings that pass all
checks, and the settings are those that it spells; otherwise the first check that fails is reported.
The selector in accepted settings can be read again, so no run fails for it, whatever its files and
arguments are. A run that reads the text warns exactly if the settings are accepted with an empty
selector. -/
theorem Settings.ofToml_acceptable (tomlFault : String → String) (text : String) :
    (∀ settings, decode? text = some settings ↔
      ∃ table, Toml.read? text = some table ∧ settings.SpelledBy table) ∧
    (∀ settings, ofToml tomlFault text = .ok settings ↔
      decode? text = some settings ∧ settings.Acceptable) ∧
    (∀ e, ofToml tomlFault text = .error e ↔
      (decode? text = none ∧ e = .notDecoded (tomlFault text)) ∨
        ∃ settings, decode? text = some settings ∧ settings.FirstFault e) ∧
    (∀ settings, ofToml tomlFault text = .ok settings →
      ∃ found, settings.parsedSelector = .ok found ∧
        (found = none ↔ settings.selector = none)) ∧
    ∀ {σ : Type} (around : Command.Surroundings (StateM σ)) (start : σ) (args : List String)
      (logLevel : Option String),
      let outcome := ((Command.run around args logLevel).run start).1
      let warned := ∃ settings, decode? text = some settings ∧ settings.Acceptable ∧
        settings.EmptySelector
      (∀ e, outcome.failure ≠ some (.settingsSelector e)) ∧
      (Command.ReadsSettings around start args text →
        (outcome.early = [emptySelectorWarning] ∧ warned) ∨ (outcome.early = [] ∧ ¬ warned)) := by
  refine ⟨fun settings => decode?_eq_some_iff, fun settings => ofToml_eq_ok_iff,
    fun e => ofToml_eq_error_iff, fun settings h => ?_, ?_⟩
  · exact (ofToml_eq_ok_iff.1 h).2.exists_parsedSelector
  · intro σ around start args logLevel outcome warned
    refine ⟨Command.run_failure_ne_settingsSelector around start args logLevel, fun hreads => ?_⟩
    have hwarned : warned ↔ ∃ settings, ofToml around.tomlFault text = .ok settings ∧
        settings.EmptySelector := by
      simp only [warned, ofToml_eq_ok_iff, and_assoc]
    have hearly : outcome.early = _ := Command.early_run hreads logLevel
    rw [hwarned, hearly]
    cases ofToml around.tomlFault text with
    | error e => simp
    | ok settings => simpa using settings.warnings_eq

/-! An empty list with blanks in it, a list around an empty one, and settings that fail all
checks. -/

namespace Settings

def spacedList : String := "selector = ' [ ] '\n"

def listOfList : String := "selector = '[[]]'\n"

def failsAll : String := "selector = '['\ninput = ''\nlog_level = ' '\n"

def spacedSettings : Settings := { selector := some " [ ] " }

def listOfListSettings : Settings := { selector := some "[[]]" }

theorem ofToml_acceptable_spacedList :
    (ofToml Command.plainTomlFault spacedList = .ok spacedSettings ∧ spacedSettings.Acceptable ∧
      (∃ found, spacedSettings.parsedSelector = .ok found ∧
        (found = none ↔ spacedSettings.selector = none)) ∧
      (Command.runIn [("c", spacedList.toUTF8)] .empty ["--config", "c"] none).early =
        [emptySelectorWarning]) ∧
    (ofToml Command.plainTomlFault listOfList = .ok listOfListSettings ∧
      (Command.runIn [("c", listOfList.toUTF8)] .empty ["--config", "c"] none).early = []) ∧
    ofToml Command.plainTomlFault failsAll = .error .blankLogLevel ∧
      ∃ settings, decode? failsAll = some settings ∧ settings.FirstFault .blankLogLevel := by
  have hspaced : ofToml Command.plainTomlFault spacedList = .ok spacedSettings := by cbv
  have hlist : ofToml Command.plainTomlFault listOfList = .ok listOfListSettings := by cbv
  have hfails : ofToml Command.plainTomlFault failsAll = .error .blankLogLevel := by cbv
  have hempty : Selector.ofUserText " [ ] " = .ok (.fields []) := by cbv
  have hfull : Selector.ofUserText "[[]]" = .ok (.eachItem (.fields [])) := by cbv
  have hwarns : ∀ text : String,
      let early := (Command.runIn [("c", text.toUTF8)] .empty ["--config", "c"] none).early
      let warned := ∃ settings, decode? text = some settings ∧ settings.Acceptable ∧
        settings.EmptySelector
      (early = [emptySelectorWarning] ∧ warned) ∨ (early = [] ∧ ¬ warned) := by
    intro text
    rw [Command.runIn_eq]
    refine ((ofToml_acceptable Command.plainTomlFault text).2.2.2.2 _ _ _ none).2 ?_
    refine ⟨{ config := some "c" }, "c", by decide, rfl, ?_⟩
    rw [Command.readFile_of_lookup rfl .empty]
  obtain ⟨-, haccepts, -, hparsed, -⟩ := ofToml_acceptable _ spacedList
  obtain ⟨-, haccepts', -, -, -⟩ := ofToml_acceptable _ listOfList
  obtain ⟨-, -, hrefuses, -, -⟩ := ofToml_acceptable _ failsAll
  refine ⟨⟨hspaced, ((haccepts _).1 hspaced).2, hparsed _ hspaced, ?_⟩, ⟨hlist, ?_⟩, hfails, ?_⟩
  · obtain ⟨hearly, -⟩ | ⟨-, hquiet⟩ := hwarns spacedList
    · exact hearly
    · obtain ⟨hdecoded, hacceptable⟩ := (haccepts _).1 hspaced
      exact absurd ⟨_, hdecoded, hacceptable, _, rfl, hempty⟩ hquiet
  · obtain ⟨-, settings, hdecoded, -, text, htext, hread⟩ | ⟨hearly, -⟩ := hwarns listOfList
    · obtain rfl := Option.some.inj (((haccepts' _).1 hlist).1.symm.trans hdecoded)
      obtain rfl := Option.some.inj htext
      cases hfull.symm.trans hread
    · exact hearly
  · obtain ⟨-, hother⟩ | hfault := (hrefuses _).1 hfails
    · cases hother
    · exact hfault

end Settings
end Pluck
