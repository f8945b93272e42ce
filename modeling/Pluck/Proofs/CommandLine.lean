import Mathlib.Data.List.Perm.Basic
import Pluck.Command.Run

/-!
The command line, part by part.

A part is a flag with its value, a flag alone, or the path of the input. What the arguments are
taken to mean can be told from the parts without following the loop that takes them
(`Arguments.ofList_lineOf`): of each flag with a value the last one counts, and a second path is
refused wherever it stands. Nothing but parts is accepted (`Arguments.ofList_eq_ok_iff`). So the
order of the parts does not matter, except that of parts with the same flag (`run_lineOf_perm`).
-/

namespace Pluck
namespace Command

/-- A part of the command line. -/
inductive Part where
  | config (path : String)
  | selector (text : String)
  | pretty
  /-- The path of the input, which is no flag. -/
  | input (path : String) (plain : isFlag path = false)
deriving DecidableEq

namespace Part

def words : Part → List String
  | config path => ["--config", path]
  | selector text => ["--selector", text]
  | pretty => ["--pretty"]
  | input path _ => [path]

def config? : Part → Option String
  | config path => some path
  | _ => none

def selector? : Part → Option String
  | selector text => some text
  | _ => none

def input? : Part → Option String
  | input path _ => some path
  | _ => none

end Part

/-- The arguments that the parts are written in. -/
def lineOf (parts : List Part) : List String := parts.flatMap Part.words

/-- The paths of settings, in order. -/
def configsOf (parts : List Part) : List String := parts.filterMap Part.config?

/-- The texts of selectors, in order. -/
def selectorsOf (parts : List Part) : List String := parts.filterMap Part.selector?

/-- The paths of inputs, in order. -/
def inputsOf (parts : List Part) : List String := parts.filterMap Part.input?

@[simp] theorem configsOf_cons (part : Part) (rest : List Part) :
    configsOf (part :: rest) = part.config?.toList ++ configsOf rest := by
  cases h : part.config? <;> simp [configsOf, h]

@[simp] theorem selectorsOf_cons (part : Part) (rest : List Part) :
    selectorsOf (part :: rest) = part.selector?.toList ++ selectorsOf rest := by
  cases h : part.selector? <;> simp [selectorsOf, h]

@[simp] theorem inputsOf_cons (part : Part) (rest : List Part) :
    inputsOf (part :: rest) = part.input?.toList ++ inputsOf rest := by
  cases h : part.input? <;> simp [inputsOf, h]

/-- What is taken in after one more part. -/
def Arguments.withPart (taken : Arguments) : Part → Arguments
  | .config path => { taken with config := some path }
  | .selector text => { taken with selector := some text }
  | .pretty => { taken with pretty := true }
  | .input path _ => { taken with input := taken.input.or (some path) }

/-- What is taken in after the parts: of each flag the last value, and the first input. -/
def Arguments.withParts (taken : Arguments) (parts : List Part) : Arguments where
  config := (configsOf parts).getLast?.or taken.config
  selector := (selectorsOf parts).getLast?.or taken.selector
  pretty := decide (.pretty ∈ parts) || taken.pretty
  input := taken.input.or (inputsOf parts).head?

theorem getLast?_cons_or {α : Type} (x : α) (xs : List α) (other : Option α) :
    (x :: xs).getLast?.or other = xs.getLast?.or (some x) := by
  rw [List.getLast?_cons]
  cases xs.getLast? <;> rfl

theorem Arguments.withParts_nil (taken : Arguments) : taken.withParts [] = taken := by
  simp [withParts, configsOf, selectorsOf, inputsOf]

theorem Arguments.withParts_cons (taken : Arguments) (part : Part) (rest : List Part) :
    taken.withParts (part :: rest) = (taken.withPart part).withParts rest := by
  cases part <;>
    simp [withParts, withPart, Part.config?, Part.selector?, Part.input?, getLast?_cons_or]

/-! ## Taking in the parts -/

/-- A part is taken in as a whole, unless it is a second input. -/
theorem Arguments.ofList_words (taken : Arguments) (part : Part) (rest : List String) :
    Arguments.ofList taken (part.words ++ rest) =
      if taken.input.isSome ∧ part.input?.isSome then .error .secondInput
      else Arguments.ofList (taken.withPart part) rest := by
  rw [Arguments.ofList.eq_def]
  cases part with
  | config path => simp [Part.words, withPart, Part.input?]
  | selector text => simp [Part.words, withPart, Part.input?]
  | pretty => simp [Part.words, withPart, Part.input?]
  | input path plain =>
      have hne : ∀ flag, isFlag flag = true → path ≠ flag := by
        rintro flag hflag rfl
        simp [plain] at hflag
      have hflags := And.intro (hne "--config" (by decide))
        (And.intro (hne "--selector" (by decide)) (hne "--pretty" (by decide)))
      cases hinput : taken.input <;> simp [Part.words, withPart, Part.input?, plain, hflags, hinput]

theorem Arguments.toList_input_withPart {taken : Arguments} {part : Part}
    (h : ¬ (taken.input.isSome ∧ part.input?.isSome)) :
    (taken.withPart part).input.toList = taken.input.toList ++ part.input?.toList := by
  cases part <;> cases hinput : taken.input <;> simp_all [withPart, Part.input?]

/-- All parts are taken in, unless there is a second input among them. -/
theorem Arguments.ofList_lineOf (taken : Arguments) (parts : List Part) :
    Arguments.ofList taken (lineOf parts) =
      if (taken.input.toList ++ inputsOf parts).length ≤ 1 then .ok (taken.withParts parts)
      else .error .secondInput := by
  induction parts generalizing taken with
  | nil =>
      have hone : taken.input.toList.length ≤ 1 := by cases taken.input <;> simp
      simp [lineOf, inputsOf, Arguments.ofList, withParts_nil, hone]
  | cons part rest ih =>
      have hline : lineOf (part :: rest) = part.words ++ lineOf rest := rfl
      rw [hline, ofList_words, inputsOf_cons]
      split
      · next htwo =>
          obtain ⟨hfirst, hsecond⟩ := htwo
          obtain ⟨first, hfirst⟩ := Option.isSome_iff_exists.1 hfirst
          obtain ⟨second, hsecond⟩ := Option.isSome_iff_exists.1 hsecond
          simp [hfirst, hsecond]
      · next hone =>
          rw [ih, toList_input_withPart hone, withParts_cons, List.append_assoc]

/-- What is taken in was written in parts. -/
theorem Arguments.exists_lineOf_of_ofList {taken arguments : Arguments} {args : List String}
    (h : Arguments.ofList taken args = .ok arguments) : ∃ parts, args = lineOf parts := by
  induction taken, args using Arguments.ofList.induct with
  | case1 taken => exact ⟨[], rfl⟩
  | case2 taken => simp [Arguments.ofList] at h
  | case3 taken path rest ih =>
      rw [Arguments.ofList.eq_def] at h
      obtain ⟨parts, rfl⟩ := ih h
      exact ⟨.config path :: parts, rfl⟩
  | case4 taken => simp [Arguments.ofList] at h
  | case5 taken text rest _ ih =>
      rw [Arguments.ofList.eq_def] at h
      obtain ⟨parts, rfl⟩ := ih h
      exact ⟨.selector text :: parts, rfl⟩
  | case6 taken rest _ _ ih =>
      rw [Arguments.ofList.eq_def] at h
      obtain ⟨parts, rfl⟩ := ih h
      exact ⟨.pretty :: parts, rfl⟩
  | case7 taken flag rest hconfig hselector hpretty hflag =>
      rw [Arguments.ofList.eq_def] at h
      simp [hconfig, hselector, hpretty, hflag] at h
  | case8 taken path rest hconfig hselector hpretty hflag hsecond =>
      rw [Arguments.ofList.eq_def] at h
      simp [hconfig, hselector, hpretty, hflag, hsecond] at h
  | case9 taken path rest hconfig hselector hpretty hflag hfirst ih =>
      rw [Arguments.ofList.eq_def] at h
      obtain ⟨parts, rfl⟩ := ih (by simpa [hconfig, hselector, hpretty, hflag, hfirst] using h)
      exact ⟨.input path (by simpa using hflag) :: parts, rfl⟩

/-- What is taken in of a whole command line. -/
def Arguments.ofParts (parts : List Part) : Arguments where
  config := (configsOf parts).getLast?
  selector := (selectorsOf parts).getLast?
  pretty := .pretty ∈ parts
  input := (inputsOf parts).head?

theorem Arguments.ofList_lineOf_default (parts : List Part) :
    Arguments.ofList {} (lineOf parts) =
      if (inputsOf parts).length ≤ 1 then .ok (.ofParts parts) else .error .secondInput := by
  rw [ofList_lineOf, Option.toList_none, List.nil_append]
  simp [withParts, ofParts]

theorem Arguments.ofList_eq_ok_iff {args : List String} {arguments : Arguments} :
    Arguments.ofList {} args = .ok arguments ↔
      ∃ parts, args = lineOf parts ∧ (inputsOf parts).length ≤ 1 ∧ arguments = .ofParts parts := by
  constructor
  · intro h
    obtain ⟨parts, rfl⟩ := exists_lineOf_of_ofList h
    rw [ofList_lineOf_default] at h
    split at h
    · next hone => exact ⟨parts, rfl, hone, (Except.ok.inj h).symm⟩
    · cases h
  · rintro ⟨parts, rfl, hone, rfl⟩
    rw [ofList_lineOf_default]
    exact if_pos hone

/-! ## The order of the parts -/

section Order

variable {parts others : List Part} (h : parts.Perm others)
  (hconfigs : configsOf parts = configsOf others)
  (hselectors : selectorsOf parts = selectorsOf others)

include h hconfigs hselectors

theorem Arguments.ofList_lineOf_perm :
    Arguments.ofList {} (lineOf parts) = Arguments.ofList {} (lineOf others) := by
  have hinputs : (inputsOf parts).Perm (inputsOf others) := h.filterMap _
  have hpretty : Part.pretty ∈ parts ↔ Part.pretty ∈ others := h.mem_iff
  have hlength : (inputsOf parts).length = (inputsOf others).length := hinputs.length_eq
  rw [ofList_lineOf_default, ofList_lineOf_default, hlength]
  by_cases hone : (inputsOf others).length ≤ 1
  · -- of at most one input there is only one order
    have hsame : inputsOf parts = inputsOf others := by
      generalize inputsOf others = paths at hinputs hone ⊢
      cases paths with
      | nil => exact hinputs.eq_nil
      | cons path rest =>
          obtain rfl : rest = [] := by simpa using hone
          exact List.perm_singleton.1 hinputs
    simp [ofParts, hconfigs, hselectors, hpretty, hsame]
  · rw [if_neg hone, if_neg hone]

theorem Request.ofList_lineOf_perm :
    Request.ofList (lineOf parts) = Request.ofList (lineOf others) := by
  have hwords : (lineOf parts).Perm (lineOf others) := h.flatMap_right _
  simp only [Request.ofList, hwords.mem_iff, Arguments.ofList_lineOf_perm h hconfigs hselectors]

end Order

/-- **Order of options.** Two runs whose command lines have the same parts in different orders do
the same, if the parts of each flag with a value keep their order. This holds also of parts that
are refused and of values that look like flags. -/
theorem run_lineOf_perm {parts others : List Part} (h : parts.Perm others)
    (hconfigs : configsOf parts = configsOf others)
    (hselectors : selectorsOf parts = selectorsOf others) (logLevel : Option String) :
    (∀ {m : Type → Type} [Monad m] (around : Surroundings m),
      run around (lineOf parts) logLevel = run around (lineOf others) logLevel) ∧
    ∀ (directory : Directory) (stdin : ByteArray),
      let first := runIn directory stdin (lineOf parts) logLevel
      let second := runIn directory stdin (lineOf others) logLevel
      first.exitCode = second.exitCode ∧ first.stdout = second.stdout ∧
        first.stderr = second.stderr := by
  have hrequest := Request.ofList_lineOf_perm h hconfigs hselectors
  have hrun : ∀ {m : Type → Type} [Monad m] (around : Surroundings m),
      run around (lineOf parts) logLevel = run around (lineOf others) logLevel := by
    intro m _ around
    rw [run, run, hrequest]
  refine ⟨hrun, fun directory stdin => ?_⟩
  have hsame : runIn directory stdin (lineOf parts) logLevel =
      runIn directory stdin (lineOf others) logLevel := by
    rw [runIn, runIn, hrun]
  simp only [hsame, and_self]

/-! Two inputs, and values that look like flags, in two orders. -/

def refusedParts : List Part :=
  [.config "--selector", .input "a" (by decide), .selector "--pretty", .config "b", .pretty,
    .input "-" (by decide)]

def refusedPartsAgain : List Part :=
  [.input "-" (by decide), .pretty, .selector "--pretty", .config "--selector",
    .input "a" (by decide), .config "b"]

theorem run_lineOf_perm_refused :
    refusedParts.Perm refusedPartsAgain ∧ configsOf refusedParts = configsOf refusedPartsAgain ∧
      selectorsOf refusedParts = selectorsOf refusedPartsAgain ∧
      (runIn [] .empty (lineOf refusedParts) none).stderr =
        (runIn [] .empty (lineOf refusedPartsAgain) none).stderr ∧
      (runIn [] .empty (lineOf refusedPartsAgain) none).exitCode = 1 := by
  have h : refusedParts.Perm refusedPartsAgain := by decide
  have hconfigs : configsOf refusedParts = configsOf refusedPartsAgain := by decide
  have hselectors : selectorsOf refusedParts = selectorsOf refusedPartsAgain := by decide
  have hsame := (run_lineOf_perm h hconfigs hselectors none).2 [] .empty
  exact ⟨h, hconfigs, hselectors, hsame.2.2, by decide⟩

end Command
end Pluck
