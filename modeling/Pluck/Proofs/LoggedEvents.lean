import Pluck.Proofs.Acceptance

/-!
Which events of a run the log shows.

A run reads its settings first, because they may hold the level of the log, and sets up the log after
that. Nothing that comes later is lost: of the events of its other steps the log shows those that the
filter is for, in their order, on lines of their own (`run_log_shows`). The only event that can come
earlier is the warning of an empty selector, and no filter makes the log show it
(`run_log_shows_emptyList`).
-/

namespace Pluck

/-- The lines of a text that is written with a line end after it. -/
def writtenLines (text : String) : List String := textLines (text ++ "\n")

/-! ## Lines -/

theorem linesOfChars_eq_nil_iff {text : List Char} : linesOfChars text = [] ↔ text = [] := by
  refine ⟨fun h => ?_, fun h => by rw [h]; rfl⟩
  cases text with
  | nil => rfl
  | cons c rest =>
      unfold linesOfChars at h
      split at h
      · assumption
      · cases h
      · cases h
      · split at h <;> cases h

/-- A character that ends no line goes to the front of the first line. -/
theorem linesOfChars_cons_append {c : Char} {rest ys : List Char} (hfeed : c = '\n' → False)
    (hreturn : ∀ more, c = '\r' → rest = '\n' :: more → False)
    (hrest : linesOfChars (rest ++ '\n' :: ys) = linesOfChars (rest ++ ['\n']) ++ linesOfChars ys) :
    linesOfChars (c :: rest ++ '\n' :: ys) =
      linesOfChars (c :: rest ++ ['\n']) ++ linesOfChars ys := by
  by_cases hends : c = '\r' ∧ rest = []
  · obtain ⟨rfl, rfl⟩ := hends
    rfl
  · have hplain : ∀ zs more, c = '\r' → rest ++ '\n' :: zs = '\n' :: more → False := by
      intro zs more hc hstart
      cases rest with
      | nil => exact hends ⟨hc, rfl⟩
      | cons d rest =>
          obtain ⟨rfl, -⟩ := List.cons.inj hstart
          exact hreturn rest hc rfl
    have hsome : linesOfChars (rest ++ ['\n']) ≠ [] := by simp [linesOfChars_eq_nil_iff]
    obtain ⟨line, more, hlines⟩ := List.exists_cons_of_ne_nil hsome
    rw [List.cons_append, List.cons_append, linesOfChars.eq_4 c _ hfeed (hplain ys),
      linesOfChars.eq_4 c _ hfeed (hplain []), hrest, hlines]
    rfl

/-- A line feed ends a line, whatever follows it. -/
theorem linesOfChars_append (xs ys : List Char) :
    linesOfChars (xs ++ '\n' :: ys) = linesOfChars (xs ++ ['\n']) ++ linesOfChars ys := by
  induction xs using linesOfChars.induct with
  | case1 => rfl
  | case2 rest ih => exact congrArg ([] :: ·) ih
  | case3 rest ih => exact congrArg ([] :: ·) ih
  | case4 c rest hfeed hreturn _ ih => exact linesOfChars_cons_append hfeed hreturn ih
  | case5 c rest hfeed hreturn _ _ _ ih => exact linesOfChars_cons_append hfeed hreturn ih

theorem textLines_join (texts : List String) :
    textLines (String.join (texts.map (· ++ "\n"))) = texts.flatMap writtenLines := by
  induction texts with
  | nil => rfl
  | cons text rest ih =>
      have hsplit := linesOfChars_append text.toList (String.join (rest.map (· ++ "\n"))).toList
      rw [List.map_cons, String.join_cons, List.flatMap_cons, ← ih, writtenLines, textLines,
        textLines, textLines, ← List.map_append]
      simp only [String.toList_append, List.append_assoc]
      exact congrArg (List.map String.ofList) hsplit

namespace Command

/-- What a run does that it has events for. -/
inductive Step where
  | reading (settings : Settings)
  | choice (selector : Selector)
  /-- The text of the input is refused with a message. -/
  | refusal (message : String)
  | extraction (selector : Selector) (input : Json)

namespace Step

def events : Step → List Event
  | .reading settings => settings.warnings
  | .choice selector => [selectorEvent selector]
  | .refusal message => [⟨.error, commandTarget, notJsonMessage message⟩]
  | .extraction selector input => selector.extractionEvents input

end Step

variable {σ : Type}

/-- The steps of a run after its settings are read, from the text of its selector and the path of
its input. Each way to fail has its own case. -/
inductive Continues (around : Surroundings (StateM σ)) (s : σ) :
    Option String → Option String → List Step → Prop
  | noSelector {path : Option String} : Continues around s none path []
  | badSelector {text message : String} {path : Option String}
      (hselector : Selector.ofUserText text = .error message) :
      Continues around s (some text) path []
  | noInput {text : String} {path : Option String} {selector : Selector}
      (hselector : Selector.ofUserText text = .ok selector)
      (hinput : ∀ inputText, ¬ InputRead around s path inputText) :
      Continues around s (some text) path [.choice selector]
  | badInput {text inputText message : String} {path : Option String} {selector : Selector}
      (hselector : Selector.ofUserText text = .ok selector)
      (hinput : InputRead around s path inputText)
      (hvalue : Json.read inputText = .error message) :
      Continues around s (some text) path [.choice selector, .refusal message]
  | extracts {text inputText : String} {path : Option String} {selector : Selector} {input : Json}
      (hselector : Selector.ofUserText text = .ok selector)
      (hinput : InputRead around s path inputText)
      (hvalue : Json.read inputText = .ok input) :
      Continues around s (some text) path [.choice selector, .extraction selector input]

/-- The run sets up its log with a filter: it has read settings before and goes through some steps
afterwards. -/
inductive Logs (around : Surroundings (StateM σ)) (start : σ) (args : List String)
    (logLevel : Option String) : Settings → Filter → List Step → Prop
  | intro {arguments : Arguments} {settings : Settings} {t : σ} {steps : List Step}
      (hrequest : Request.ofList args = .ok (.run arguments))
      (hsettings : SettingsRead around start arguments.config settings t)
      (hsteps : Continues around t (arguments.selector.or settings.selector)
        (arguments.apply settings).input steps) :
      Logs around start args logLevel settings
        (Filter.ofText (logLevel.getD settings.logLevel)) steps

/-! ## Steps -/

section Steps

variable {around : Surroundings (StateM σ)}

theorem exists_continues (around : Surroundings (StateM σ)) (s : σ)
    (selectorText path : Option String) : ∃ steps, Continues around s selectorText path steps := by
  cases selectorText with
  | none => exact ⟨_, .noSelector⟩
  | some text =>
      cases hselector : Selector.ofUserText text with
      | error e => exact ⟨_, .badSelector hselector⟩
      | ok selector =>
          by_cases hinput : ∃ inputText, InputRead around s path inputText
          · obtain ⟨inputText, hinput⟩ := hinput
            cases hvalue : Json.read inputText with
            | error message => exact ⟨_, .badInput hselector hinput hvalue⟩
            | ok input => exact ⟨_, .extracts hselector hinput hvalue⟩
          · exact ⟨_, .noInput hselector (not_exists.1 hinput)⟩

/-- A run with settings has the events of its steps and nothing else. -/
theorem events_runWith {s : σ} {arguments : Arguments} {settings : Settings} {steps : List Step}
    {outcome : Outcome} (hnone : outcome.events = [])
    (h : Continues around s (arguments.selector.or settings.selector) settings.input steps) :
    ((runWith around arguments settings outcome).run s).1.events = steps.flatMap Step.events ∧
      ((runWith around arguments settings outcome).run s).1.log = outcome.log := by
  unfold runWith
  cases hchoice : chooseSelector arguments settings with
  | error e =>
      have hrefused : ∀ {text selector}, arguments.selector.or settings.selector = some text →
          Selector.ofUserText text ≠ .ok selector := by
        intro text selector htext hselector
        cases hchoice.symm.trans (chooseSelector_eq_ok_iff.2 ⟨text, htext, hselector⟩)
      generalize arguments.selector.or settings.selector = chosen at h hrefused
      cases h with
      | noSelector | badSelector => exact ⟨hnone, rfl⟩
      | noInput hselector | badInput hselector | extracts hselector =>
          exact absurd hselector (hrefused rfl)
  | ok selector =>
      obtain ⟨text, htext, hselector⟩ := chooseSelector_eq_ok_iff.1 hchoice
      rw [htext] at h
      dsimp only
      rw [run_bind]
      cases hread : ((readInput around settings.input).run s).1 with
      | error e =>
          have hunread : ∀ inputText, ¬ InputRead around s settings.input inputText := by
            intro inputText hinput
            cases hread.symm.trans (readInput_eq_ok_iff.2 hinput)
          cases h with
          | badSelector hother => cases hselector.symm.trans hother
          | noInput hother =>
              cases hselector.symm.trans hother
              exact ⟨rfl, rfl⟩
          | badInput _ hinput | extracts _ hinput => exact absurd hinput (hunread _)
      | ok inputText =>
          have hinput := readInput_eq_ok_iff.1 hread
          change (finish settings selector _ inputText).events = _ ∧
            (finish settings selector _ inputText).log = _
          unfold finish
          cases h with
          | badSelector hother => cases hselector.symm.trans hother
          | noInput _ hunread => exact absurd hinput (hunread inputText)
          | badInput hother hinput' hvalue =>
              cases hselector.symm.trans hother
              cases hread.symm.trans (readInput_eq_ok_iff.2 hinput')
              rw [hvalue]
              exact ⟨rfl, rfl⟩
          | extracts hother hinput' hvalue =>
              cases hselector.symm.trans hother
              cases hread.symm.trans (readInput_eq_ok_iff.2 hinput')
              rw [hvalue]
              exact ⟨by simp [Step.events], rfl⟩

section Logs

variable {start : σ} {args : List String} {logLevel : Option String} {settings : Settings}
  {filter : Filter} {steps : List Step}

/-- The log of a run is set up once its settings are read, and its later events are those of its
later steps. -/
theorem Logs.outcome (h : Logs around start args logLevel settings filter steps) :
    ((run around args logLevel).run start).1.events = steps.flatMap Step.events ∧
      ((run around args logLevel).run start).1.log = some filter := by
  obtain @⟨arguments, _, t, _, hrequest, hsettings, hsteps⟩ := h
  rw [run_of_settingsRead hrequest hsettings]
  have hcontinues : Continues around t (arguments.selector.or (arguments.apply settings).selector)
      (arguments.apply settings).input steps := hsteps
  exact events_runWith rfl hcontinues

theorem log_run_eq_some_iff :
    ((run around args logLevel).run start).1.log = some filter ↔
      ∃ settings steps, Logs around start args logLevel settings filter steps := by
  constructor
  · intro hlog
    obtain ⟨arguments, settings, t, hrequest, hsettings⟩ | ⟨hnone, -⟩ :=
      run_cases around start args logLevel
    · obtain ⟨steps, hsteps⟩ := exists_continues around t
        (arguments.selector.or settings.selector) (arguments.apply settings).input
      have hlogs : Logs around start args logLevel settings _ steps :=
        .intro hrequest hsettings hsteps
      obtain rfl := Option.some.inj (hlogs.outcome.2.symm.trans hlog)
      exact ⟨settings, steps, hlogs⟩
    · cases hnone.symm.trans hlog
  · rintro ⟨settings, steps, h⟩
    exact h.outcome.2

/-- What the log shows comes after what the filter did not understand and before why the run
fails. -/
theorem Logs.stderrLines (h : Logs around start args logLevel settings filter steps) :
    let outcome := ((run around args logLevel).run start).1
    outcome.stderrLines =
      (filter.complaints ++ ((steps.flatMap Step.events).filter filter.shows).map Event.line ++
        (outcome.failure.map Failure.message).toList).flatMap writtenLines := by
  intro outcome
  have hlog : outcome.log = some filter := h.outcome.2
  have hevents : outcome.events = steps.flatMap Step.events := h.outcome.1
  rw [Outcome.stderrLines, Outcome.stderr, textLines_join, Outcome.shown, hlog, hevents]
  rfl

end Logs

end Steps

/-- **The log of a run.** A run that reads its settings sets up the log, with the filter of the
environment or else of the settings. The log shows all events of the later steps that the filter is
for, in their order, and nothing else. The one event before it, the warning of an empty selector, is
never shown, although the filter may be for it. -/
theorem run_log_shows (around : Surroundings (StateM σ)) (start : σ) (args : List String)
    (logLevel : Option String) :
    let outcome := ((run around args logLevel).run start).1
    (∀ filter, outcome.log = some filter ↔
      ∃ settings steps, Logs around start args logLevel settings filter steps) ∧
    ∀ settings filter steps, Logs around start args logLevel settings filter steps →
      let enabled := ((Step.reading settings :: steps).flatMap Step.events).filter filter.shows
      let seen := (steps.flatMap Step.events).filter filter.shows
      let lost := settings.EmptySelector ∧ filter.shows Settings.emptySelectorWarning = true
      outcome.stderrLines =
        (filter.complaints ++ seen.map Event.line ++
          (outcome.failure.map Failure.message).toList).flatMap writtenLines ∧
      (¬ lost → seen = enabled) ∧ (lost → Settings.emptySelectorWarning :: seen = enabled) := by
  intro outcome
  refine ⟨fun filter => log_run_eq_some_iff, fun settings filter steps h => ?_⟩
  intro enabled seen lost
  have hsplit : enabled = settings.warnings.filter filter.shows ++ seen := List.filter_append _ _
  refine ⟨h.stderrLines, fun hkept => ?_, fun hlost => ?_⟩
  · obtain ⟨hwarns, hempty⟩ | ⟨hquiet, -⟩ := settings.warnings_eq
    · have hhidden : ¬ filter.shows Settings.emptySelectorWarning = true := fun hshows =>
        hkept ⟨hempty, hshows⟩
      rw [hsplit, hwarns, List.filter_cons_of_neg hhidden]
      rfl
    · rw [hsplit, hquiet]
      rfl
  · obtain ⟨hwarns, -⟩ | ⟨-, hfull⟩ := settings.warnings_eq
    · rw [hsplit, hwarns, List.filter_cons_of_pos hlost.2]
      rfl
    · exact absurd hlost.1 hfull

/-! Settings with an empty selector, of which the usual filter would show the warning. -/

def emptyList : String := "selector = '[]'\n"

def emptyListSettings : Settings := { selector := some "[]" }

def emptyListFiles : Directory := [("c", emptyList.toUTF8)]

def emptyListInput : ByteArray := "\x7b\x7d".toUTF8

def emptyListSteps : List Step := [.choice (.fields []), .extraction (.fields []) (.object [])]

theorem settingsRead_emptyList : SettingsRead emptyListFiles.surroundings emptyListInput (some "c")
    emptyListSettings emptyListInput := by
  have haccepted : Settings.ofToml plainTomlFault emptyList = .ok emptyListSettings := by cbv
  have hconfig : emptyListFiles.lookup "c" = some emptyList.toUTF8 := by rfl
  exact .file (readFile_of_lookup hconfig _) haccepted

theorem ofUserText_emptyList : Selector.ofUserText "[]" = .ok (.fields []) := by cbv

theorem read_emptyListInput : Json.read "\x7b\x7d" = .ok (.object []) := by cbv

theorem emptySelector_emptyList : emptyListSettings.EmptySelector :=
  ⟨"[]", rfl, ofUserText_emptyList⟩

theorem logs_emptyList : Logs emptyListFiles.surroundings emptyListInput ["--config", "c"] none
    emptyListSettings (Filter.ofText "warn") emptyListSteps := by
  have hrequest :
      Request.ofList ["--config", "c"] = .ok (.run { config := some "c" }) := by decide
  exact .intro hrequest settingsRead_emptyList
    (.extracts ofUserText_emptyList (.stdin (readStdin_toUTF8 _ _)) read_emptyListInput)

theorem prints_emptyList : Prints emptyListFiles.surroundings emptyListInput ["--config", "c"]
    "\x7b\x7d\n" := by
  have hline : ["--config", "c"] = lineOf [.config "c"] := rfl
  have htext : ((Selector.fields []).extract (.object [])).text ++ "\n" = "\x7b\x7d\n" := by
    decide +kernel
  rw [← htext]
  exact Prints.intro hline (by decide) settingsRead_emptyList (by decide)
    (.intro ofUserText_emptyList (.stdin (readStdin_toUTF8 _ _)) read_emptyListInput (.compact _))

/-- The run succeeds and writes nothing to standard error, although its filter is for warnings. -/
theorem run_log_shows_emptyList :
    Logs emptyListFiles.surroundings emptyListInput ["--config", "c"] none emptyListSettings
      (Filter.ofText "warn") emptyListSteps ∧
    (runIn emptyListFiles emptyListInput ["--config", "c"] none).failure = none ∧
    (runIn emptyListFiles emptyListInput ["--config", "c"] none).stderrLines = [] ∧
    ((Step.reading emptyListSettings :: emptyListSteps).flatMap Step.events).filter
      (Filter.ofText "warn").shows = [Settings.emptySelectorWarning] := by
  have hplain : ∀ word ∈ ["--version", "--help", "-h"], word ∉ ["--config", "c"] := by decide
  have hshows : (Filter.ofText "warn").shows Settings.emptySelectorWarning = true := by decide
  have hfilter : Filter.ofText "warn" = ⟨[⟨none, .all, 2⟩], []⟩ := by decide
  have hseen : (emptyListSteps.flatMap Step.events).filter (Filter.ofText "warn").shows = [] := by
    rw [hfilter]
    rfl
  have hcomplaints : (Filter.ofText "warn").complaints = [] := by
    rw [hfilter]
    rfl
  have hsuccess := ((run_reports emptyListInput hplain none).success _).2 prints_emptyList
  obtain ⟨hstderr, -, hlost⟩ :=
    (run_log_shows emptyListFiles.surroundings emptyListInput ["--config", "c"] none).2 _ _ _
      logs_emptyList
  rw [runIn_eq]
  refine ⟨logs_emptyList, hsuccess.1, ?_, ?_⟩
  · rw [hstderr, hcomplaints, hseen, hsuccess.1]
    rfl
  · rw [← hlost ⟨emptySelector_emptyList, hshows⟩, hseen]

end Command
end Pluck
