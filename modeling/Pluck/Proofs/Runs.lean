import Mathlib
import Pluck.Proofs.CommandLine
import Pluck.Proofs.Reading

/-!
Runs from their arguments to what they print.

A run goes through five stages: it takes in the arguments, reads the settings, chooses the selector,
reads the text of the input, and reads the value in it. Each of them can fail, and what has been
read is state of the surroundings, so that the stages cannot change places. `Prints` says what each
stage needs, in terms of the parts of the command line; `run_prints_iff` that a run succeeds, and
with which text, exactly when all this is there, and that it prints nothing otherwise.
-/

namespace Pluck
namespace Command

variable {σ : Type}

section Reading

variable (around : Surroundings (StateM σ)) (s : σ)

/-- The settings of the file that is named, or else the usual ones; reading leaves a state. -/
inductive SettingsRead : Option String → Settings → σ → Prop
  | usual : SettingsRead none {} s
  | file {path text : String} {settings : Settings} {t : σ}
      (hread : (around.readFile path).run s = (.ok text, t))
      (haccepted : Settings.ofToml around.tomlFault text = .ok settings) :
      SettingsRead (some path) settings t

/-- The text of the file that is named, or else of standard input. -/
inductive InputRead : Option String → String → Prop
  | file {path text : String} (hread : ((around.readFile path).run s).1 = .ok text) :
      InputRead (some path) text
  | stdin {text : String} (hread : (around.readStdin.run s).1 = .ok text) : InputRead none text

end Reading

/-- A value as it is printed: in one line or indented, and with a line end. -/
inductive PrintedAs : OutputForm → Json → String → Prop
  | compact (value : Json) : PrintedAs .compact value (value.text ++ "\n")
  | pretty (value : Json) : PrintedAs .pretty value (value.indentedText ++ "\n")

/-- What is printed once the settings are known. The selector is in the text that is given, the
input in the file or in standard input. -/
inductive Finishes (around : Surroundings (StateM σ)) (s : σ) :
    Option String → Option String → OutputForm → String → Prop
  | intro {selectorText inputText printed : String} {path : Option String} {form : OutputForm}
      {selector : Selector} {input : Json}
      (hselector : Selector.ofUserText selectorText = .ok selector)
      (hinput : InputRead around s path inputText) (hvalue : Json.read inputText = .ok input)
      (hprinted : PrintedAs form (selector.extract input) printed) :
      Finishes around s (some selectorText) path form printed

/-- What a run needs in order to succeed, and what it prints then. What the parts of the command
line say goes before what the settings say. -/
inductive Prints (around : Surroundings (StateM σ)) (start : σ) (args : List String) :
    String → Prop
  | intro {parts : List Part} {settings : Settings} {t : σ} {form : OutputForm} {printed : String}
      (hargs : args = lineOf parts) (hinputs : (inputsOf parts).length ≤ 1)
      (hsettings : SettingsRead around start (configsOf parts).getLast? settings t)
      (hform : form = .pretty ↔ .pretty ∈ parts ∨ settings.output = .pretty)
      (hfinish : Finishes around t ((selectorsOf parts).getLast?.or settings.selector)
        ((inputsOf parts).head?.or settings.input) form printed) :
      Prints around start args printed

/-! ## The stages -/

section Stages

variable {around : Surroundings (StateM σ)} {s t : σ}

theorem run_bind {α β : Type} (x : StateM σ α) (go : α → StateM σ β) (s : σ) :
    (x >>= go).run s = (go (x.run s).1).run (x.run s).2 := rfl

theorem loadSettings_eq_ok_iff {path : String} {settings : Settings} :
    (loadSettings around path).run s = (.ok settings, t) ↔
      ∃ text, (around.readFile path).run s = (.ok text, t) ∧
        Settings.ofToml around.tomlFault text = .ok settings := by
  rw [loadSettings, run_bind]
  rcases (around.readFile path).run s with ⟨e | text, u⟩
  · constructor
    · intro h
      cases h
    · rintro ⟨text, h, -⟩
      cases h
  · constructor
    · intro h
      dsimp only at h
      split at h
      · cases h
      · next haccepted =>
          cases h
          exact ⟨text, rfl, haccepted⟩
    · rintro ⟨_, ⟨⟩, haccepted⟩
      simp only [haccepted]
      rfl

theorem startSettings_eq_ok_iff {arguments : Arguments} {settings : Settings} :
    (∃ early, (startSettings around arguments).run s = (.ok (settings, early), t)) ↔
      SettingsRead around s arguments.config settings t := by
  rw [startSettings]
  cases arguments.config with
  | none =>
      constructor
      · rintro ⟨early, h⟩
        cases h
        exact SettingsRead.usual
      · rintro ⟨⟩
        exact ⟨[], rfl⟩
  | some path =>
      have hread : SettingsRead around s (some path) settings t ↔
          (loadSettings around path).run s = (.ok settings, t) := by
        rw [loadSettings_eq_ok_iff]
        constructor
        · rintro (_ | ⟨hread, haccepted⟩)
          exact ⟨_, hread, haccepted⟩
        · rintro ⟨text, hread, haccepted⟩
          exact SettingsRead.file hread haccepted
      rw [hread]
      dsimp only
      rw [run_bind]
      rcases (loadSettings around path).run s with ⟨e | found, u⟩
      · constructor
        · rintro ⟨early, h⟩
          cases h
        · intro h
          cases h
      · constructor
        · rintro ⟨early, h⟩
          cases h
          rfl
        · intro h
          cases h
          exact ⟨_, rfl⟩

theorem readInput_eq_ok_iff {path : Option String} {text : String} :
    ((readInput around path).run s).1 = .ok text ↔ InputRead around s path text := by
  cases path with
  | none =>
      have hmap : ((readInput around none).run s).1 =
          (around.readStdin.run s).1.mapError .stdin := by
        rw [readInput, run_bind]
        cases (around.readStdin.run s).1 <;> rfl
      rw [hmap, mapError_eq_ok_iff]
      constructor
      · exact InputRead.stdin
      · rintro (_ | hread)
        exact hread
  | some path =>
      have hmap : ((readInput around (some path)).run s).1 =
          ((around.readFile path).run s).1.mapError (.inputFile path) := by
        rw [readInput, run_bind]
        cases ((around.readFile path).run s).1 <;> rfl
      rw [hmap, mapError_eq_ok_iff]
      constructor
      · exact InputRead.file
      · rintro (hread | _)
        exact hread

theorem chooseSelector_eq_ok_iff {arguments : Arguments} {settings : Settings}
    {selector : Selector} :
    chooseSelector arguments settings = .ok selector ↔
      ∃ text, arguments.selector.or settings.selector = some text ∧
        Selector.ofUserText text = .ok selector := by
  unfold chooseSelector Settings.parsedSelector
  cases arguments.selector with
  | some text => cases h : Selector.ofUserText text <;> simp [h]
  | none =>
      cases settings.selector with
      | none => simp
      | some text => cases h : Selector.ofUserText text <;> simp [h]

theorem printedAs_iff {form : OutputForm} {value : Json} {printed : String} :
    PrintedAs form value printed ↔ render form value ++ "\n" = printed := by
  constructor
  · rintro (_ | _) <;> rfl
  · rintro rfl
    cases form with
    | compact => exact .compact value
    | pretty => exact .pretty value

end Stages

/-! ## Outcomes -/

/-- The outcome is a success, with the text that `P` holds of, or a failure that prints nothing. -/
structure Outcome.Reports (outcome : Outcome) (P : String → Prop) : Prop where
  success : ∀ printed, outcome.failure = none ∧ outcome.stdout = printed ↔ P printed
  silence : outcome.failure ≠ none → outcome.stdout = ""

section Reports

variable {outcome : Outcome} {P Q : String → Prop}

theorem Outcome.Reports.of_failure {e : Failure} (hfailure : outcome.failure = some e)
    (hstdout : outcome.stdout = "") (hnone : ∀ printed, ¬ P printed) : outcome.Reports P where
  success printed := by simp [hfailure, hnone printed]
  silence _ := hstdout

theorem Outcome.Reports.of_success {text : String} (hfailure : outcome.failure = none)
    (hstdout : outcome.stdout = text) (honly : ∀ printed, P printed ↔ text = printed) :
    outcome.Reports P where
  success printed := by simp [hfailure, hstdout, honly printed]
  silence h := absurd hfailure h

theorem Outcome.Reports.congr (h : outcome.Reports P) (hPQ : ∀ printed, P printed ↔ Q printed) :
    outcome.Reports Q where
  success printed := (h.success printed).trans (hPQ printed)
  silence := h.silence

end Reports

section Run

variable {around : Surroundings (StateM σ)}

theorem runWith_reports (s : σ) (arguments : Arguments) (settings : Settings) {outcome : Outcome}
    (hfailure : outcome.failure = none) (hstdout : outcome.stdout = "") :
    ((runWith around arguments settings outcome).run s).1.Reports
      (Finishes around s (arguments.selector.or settings.selector) settings.input
        settings.output) := by
  unfold runWith
  cases hchoice : chooseSelector arguments settings with
  | error e =>
      refine Outcome.Reports.of_failure rfl hstdout ?_
      generalize htext : arguments.selector.or settings.selector = chosen
      rintro _ ⟨hselector, -, -, -⟩
      cases hchoice.symm.trans (chooseSelector_eq_ok_iff.2 ⟨_, htext, hselector⟩)
  | ok selector =>
      obtain ⟨selectorText, htext, hselector⟩ := chooseSelector_eq_ok_iff.1 hchoice
      rw [htext]
      dsimp only
      rw [run_bind]
      cases hread : ((readInput around settings.input).run s).1 with
      | error e =>
          refine Outcome.Reports.of_failure rfl hstdout ?_
          rintro _ ⟨-, hinput, -, -⟩
          cases hread.symm.trans (readInput_eq_ok_iff.2 hinput)
      | ok text =>
          change (finish settings selector _ text).Reports _
          unfold finish
          cases hvalue : Json.read text with
          | error message =>
              refine Outcome.Reports.of_failure rfl hstdout ?_
              rintro _ ⟨-, hinput, hother, -⟩
              cases hread.symm.trans (readInput_eq_ok_iff.2 hinput)
              cases hvalue.symm.trans hother
          | ok input =>
              refine Outcome.Reports.of_success hfailure rfl fun printed => ⟨?_, ?_⟩
              · rintro ⟨hother, hinput, hvalue', hprinted⟩
                cases hselector.symm.trans hother
                cases hread.symm.trans (readInput_eq_ok_iff.2 hinput)
                cases hvalue.symm.trans hvalue'
                exact printedAs_iff.1 hprinted
              · intro hprinted
                exact Finishes.intro hselector (readInput_eq_ok_iff.1 hread) hvalue
                  (printedAs_iff.2 hprinted)

theorem eq_ite_pretty_iff {form output : OutputForm} {p : Prop} [Decidable p] :
    form = (if p then .pretty else output) ↔ (form = .pretty ↔ p ∨ output = .pretty) := by
  by_cases hp : p <;> cases form <;> cases output <;> simp [hp]

theorem Arguments.output_apply_ofParts (parts : List Part) (settings : Settings) :
    ((Arguments.ofParts parts).apply settings).output =
      if Part.pretty ∈ parts then .pretty else settings.output := by
  simp [apply, ofParts]

theorem prints_iff {start : σ} {args : List String} {printed : String} :
    Prints around start args printed ↔ ∃ arguments settings t,
      Arguments.ofList {} args = .ok arguments ∧
      SettingsRead around start arguments.config settings t ∧
      Finishes around t (arguments.selector.or settings.selector) (arguments.apply settings).input
        (arguments.apply settings).output printed := by
  constructor
  · rintro @⟨parts, settings, t, form, _, hargs, hinputs, hsettings, hform, hfinish⟩
    have hout := eq_ite_pretty_iff.2 hform
    rw [← Arguments.output_apply_ofParts] at hout
    refine ⟨.ofParts parts, settings, t, ?_, hsettings, hout ▸ hfinish⟩
    exact Arguments.ofList_eq_ok_iff.2 ⟨parts, hargs, hinputs, rfl⟩
  · rintro ⟨arguments, settings, t, hargs, hsettings, hfinish⟩
    obtain ⟨parts, hparts, hinputs, rfl⟩ := Arguments.ofList_eq_ok_iff.1 hargs
    refine Prints.intro hparts hinputs hsettings (eq_ite_pretty_iff.1 ?_) hfinish
    exact Arguments.output_apply_ofParts parts settings

theorem run_reports (start : σ) {args : List String}
    (hplain : ∀ word ∈ ["--version", "--help", "-h"], word ∉ args) (logLevel : Option String) :
    ((run around args logLevel).run start).1.Reports (Prints around start args) := by
  have hrequest : Request.ofList args = (Arguments.ofList {} args).map .run := by
    have hversion := hplain "--version" (by simp)
    have hhelp := hplain "--help" (by simp)
    have hh := hplain "-h" (by simp)
    rw [Request.ofList, if_neg hversion, if_neg (by simp [hhelp, hh])]
    cases Arguments.ofList {} args <;> rfl
  rw [run, hrequest]
  refine Outcome.Reports.congr ?_ fun _ => prints_iff.symm
  cases hargs : Arguments.ofList {} args with
  | error e => exact Outcome.Reports.of_failure rfl rfl (by simp)
  | ok arguments =>
      dsimp only [Except.map]
      rw [run_bind]
      rcases hstart : (startSettings around arguments).run start with ⟨e | ⟨settings, early⟩, t⟩
      · refine Outcome.Reports.of_failure rfl rfl ?_
        rintro printed ⟨_, settings, t, ⟨⟩, hsettings, -⟩
        obtain ⟨early, h⟩ := startSettings_eq_ok_iff.2 hsettings
        cases hstart.symm.trans h
      · refine (runWith_reports t arguments (arguments.apply settings) rfl rfl).congr
          fun printed => ⟨?_, ?_⟩
        · intro h
          exact ⟨arguments, settings, t, rfl, startSettings_eq_ok_iff.1 ⟨early, hstart⟩, h⟩
        · rintro ⟨_, other, u, ⟨⟩, hsettings, h⟩
          obtain ⟨_, hother⟩ := startSettings_eq_ok_iff.2 hsettings
          cases hstart.symm.trans hother
          exact h

end Run

theorem decodeText_toUTF8 (text : String) : decodeText text.toUTF8 = .ok text := by
  have hvalid : String.fromUTF8? text.toUTF8 = some text := dif_pos text.isValidUTF8
  rw [decodeText, hvalid]

theorem readFile_of_lookup {directory : Directory} {path text : String}
    (h : directory.lookup path = some text.toUTF8) (unread : ByteArray) :
    (directory.surroundings.readFile path).run unread = (.ok text, unread) := by
  simp only [Directory.surroundings, Directory.readFile, h, decodeText_toUTF8]
  rfl

theorem readStdin_toUTF8 (directory : Directory) (text : String) :
    (directory.surroundings.readStdin.run text.toUTF8).1 = .ok text := decodeText_toUTF8 text

theorem runIn_eq (directory : Directory) (stdin : ByteArray) (args : List String)
    (logLevel : Option String) :
    runIn directory stdin args logLevel =
      ((run directory.surroundings args logLevel).run stdin).1 := rfl

/-! Options that come again, and a path in the settings that gives way to another; then no settings,
so that the same result is printed in one line. -/

end Command
end Pluck
