import Pluck.Proofs.TextRoundTrip
import Pluck.Settings.Json

/-!
Settings read back from their JSON text.

The text of settings is an object of strings, laid out with or without blanks. The reader takes in
one member after the other (`Members.Takes`) until it comes to the closing brace
(`readMoreMembers_membersAfter`), where it makes settings of what it has. What was not written is
not set then, so that the settings come back as they were (`ofJson_text_toJson`).
-/

namespace Pluck
namespace Settings

/-- The blanks that a printer puts around the members of an object. -/
structure Layout where
  beforeKey : List Char
  beforeValue : List Char
  beforeEnd : List Char
  blank : (beforeKey ++ beforeValue ++ beforeEnd).all Json.isSpace = true

namespace Layout

def compact : Layout := ⟨[], [], [], rfl⟩

def indented : Layout := ⟨Json.newLine 1, [' '], Json.newLine 0, rfl⟩

/-- A member with the blanks in it. -/
def member (layout : Layout) (key value : String) : List Char :=
  Json.quotedChars key ++ ':' :: (layout.beforeValue ++ Json.quotedChars value)

/-- The rest of an object once a member is written. -/
def membersAfter (layout : Layout) : List (String × String) → List Char
  | [] => layout.beforeEnd ++ ['\x7d']
  | (key, value) :: rest =>
      ',' :: (layout.beforeKey ++ layout.member key value ++ layout.membersAfter rest)

theorem blank_beforeKey (layout : Layout) : ∀ c ∈ layout.beforeKey, Json.isSpace c = true :=
  fun c hc => List.all_eq_true.1 layout.blank c (by simp [hc])

theorem blank_beforeValue (layout : Layout) : ∀ c ∈ layout.beforeValue, Json.isSpace c = true :=
  fun c hc => List.all_eq_true.1 layout.blank c (by simp [hc])

theorem blank_beforeEnd (layout : Layout) : ∀ c ∈ layout.beforeEnd, Json.isSpace c = true :=
  fun c hc => List.all_eq_true.1 layout.blank c (by simp [hc])

end Layout

/-- The settings that are set, as strings. -/
def texts (settings : Settings) : List (String × String) :=
  [("log_level", settings.logLevel), ("output", settings.output.name)] ++
    (settings.selector.map fun text => ("selector", text)).toList ++
    (settings.input.map fun path => ("input", path)).toList

theorem toJson_eq (settings : Settings) :
    settings.toJson = .object (settings.texts.map fun member => (member.1, .string member.2)) := by
  unfold toJson texts
  cases settings.selector <;> cases settings.input <;> rfl

/-! ## Printed texts -/

theorem charsAfterEntry_eq (members : List (String × String)) :
    Json.charsAfterEntry (members.map fun member => (member.1, .string member.2)) =
      Layout.compact.membersAfter members := by
  induction members with
  | nil => rfl
  | cons member rest ih =>
      simp [Json.charsAfterEntry, Layout.membersAfter, Layout.member, Layout.compact, Json.chars,
        ih]

theorem indentedEntries_eq (members : List (String × String)) :
    Json.indentedEntries 0 (members.map fun member => (member.1, .string member.2)) =
      Layout.indented.membersAfter members := by
  induction members with
  | nil => rfl
  | cons member rest ih =>
      simp [Json.indentedEntries, Layout.membersAfter, Layout.member, Layout.indented,
        Json.indentedChars, ih]

theorem toList_text (settings : Settings) :
    settings.toJson.text.toList = '\x7b' :: (Layout.compact.beforeKey ++
      Layout.compact.member "log_level" settings.logLevel ++
      Layout.compact.membersAfter settings.texts.tail) := by
  rw [toJson_eq, Json.text, String.toList_ofList, ← charsAfterEntry_eq]
  simp [texts, Json.chars, Layout.member, Layout.compact]

theorem toList_indentedText (settings : Settings) :
    settings.toJson.indentedText.toList = '\x7b' :: (Layout.indented.beforeKey ++
      Layout.indented.member "log_level" settings.logLevel ++
      Layout.indented.membersAfter settings.texts.tail) := by
  rw [toJson_eq, Json.indentedText, String.toList_ofList, ← indentedEntries_eq]
  simp [texts, Json.indentedChars, Layout.member, Layout.indented]

/-! ## Values of members -/

theorem skipSpace_blank {blank : List Char} (hblank : ∀ c ∈ blank, Json.isSpace c = true)
    {c : Char} (hc : Json.isSpace c = false) (rest : List Char) :
    Json.skipSpace (blank ++ c :: rest) = c :: rest := by
  rw [Json.skipSpace, List.dropWhile_append_of_pos hblank]
  exact Json.skipSpace_cons hc rest

section Values

variable {blank : List Char} (hblank : ∀ c ∈ blank, Json.isSpace c = true) (rest : List Char)

include hblank

theorem skipSpace_quoted (value : String) :
    Json.skipSpace (blank ++ (Json.quotedChars value ++ rest)) =
      '"' :: (value.toList.flatMap Json.escapedChar ++ '"' :: rest) := by
  have hquoted : Json.quotedChars value ++ rest =
      '"' :: (value.toList.flatMap Json.escapedChar ++ '"' :: rest) := by
    simp [Json.quotedChars]
  rw [hquoted]
  exact skipSpace_blank hblank rfl _

theorem readText_quoted (value : String) :
    readText (blank ++ (Json.quotedChars value ++ rest)) = .ok (value, rest) := by
  unfold readText
  rw [skipSpace_quoted hblank]
  dsimp only
  rw [if_pos rfl, Json.readString_quoted]
  rfl

theorem readOptionalText_quoted (value : String) :
    readOptionalText (blank ++ (Json.quotedChars value ++ rest)) = .ok (some value, rest) := by
  have htext := readText_quoted (List.forall_mem_nil (fun c => Json.isSpace c = true)) rest value
  unfold readOptionalText
  rw [skipSpace_quoted hblank]
  have hquoted : '"' :: (value.toList.flatMap Json.escapedChar ++ '"' :: rest) =
      [] ++ (Json.quotedChars value ++ rest) := by
    simp [Json.quotedChars]
  split
  · next e => cases e
  · rw [hquoted, htext]
    rfl

theorem readForm_quoted (form : OutputForm) :
    readForm (blank ++ (Json.quotedChars form.name ++ rest)) = .ok (form, rest) := by
  have hname : OutputForm.ofName? form.name = some form := OutputForm.ofName?_eq_some_iff.2 rfl
  unfold readForm readFormName
  rw [skipSpace_quoted hblank]
  simp only [Json.readString_quoted, ofJsonReading, Reading.andThen, hname]

end Values

/-! ## Members -/

/-- The member is taken in, whatever comes after it. -/
def Members.Takes (members : Members) (member : String × String) (taken : Members) : Prop :=
  ∀ (layout : Layout) (rest : List Char),
    readKeyedMember members (layout.member member.1 member.2 ++ rest) = .ok (taken, rest)

namespace Members

/-- A member is taken in if the reader of its values takes it. -/
theorem takes_of_read {members taken : Members} {key value : String}
    (h : ∀ blank, (∀ c ∈ blank, Json.isSpace c = true) → ∀ rest,
      readMember members key (':' :: (blank ++ (Json.quotedChars value ++ rest))) =
        .ok (taken, rest)) : members.Takes (key, value) taken := by
  intro layout rest
  have hmember : layout.member key value ++ rest = '"' :: (key.toList.flatMap Json.escapedChar ++
      '"' :: ':' :: (layout.beforeValue ++ (Json.quotedChars value ++ rest))) := by
    simp [Layout.member, Json.quotedChars]
  rw [hmember, readKeyedMember, Json.readString_quoted]
  exact h layout.beforeValue layout.blank_beforeValue rest

theorem readColon_cons (rest : List Char) : readColon (':' :: rest) = .ok ((), rest) := rfl

section Takes

variable {members : Members}

theorem takes_logLevel (h : members.logLevel = none) (value : String) :
    members.Takes ("log_level", value) { members with logLevel := some value } := by
  refine takes_of_read fun blank hblank rest => ?_
  simp [readMember, h, readColon_cons, Reading.andThen, readText_quoted hblank]

theorem takes_output (h : members.output = none) (form : OutputForm) :
    members.Takes ("output", form.name) { members with output := some form } := by
  refine takes_of_read fun blank hblank rest => ?_
  simp [readMember, h, readColon_cons, Reading.andThen, readForm_quoted hblank]

theorem takes_selector (h : members.selector = none) (value : String) :
    members.Takes ("selector", value) { members with selector := some (some value) } := by
  refine takes_of_read fun blank hblank rest => ?_
  simp [readMember, h, readColon_cons, Reading.andThen, readOptionalText_quoted hblank]

theorem takes_input (h : members.input = none) (value : String) :
    members.Takes ("input", value) { members with input := some (some value) } := by
  refine takes_of_read fun blank hblank rest => ?_
  simp [readMember, h, readColon_cons, Reading.andThen, readOptionalText_quoted hblank]

end Takes

/-- The members are taken in one after the other. -/
inductive TakesAll : Members → List (String × String) → Members → Prop
  | nil (members : Members) : TakesAll members [] members
  | cons {members next taken : Members} {member : String × String} {rest : List (String × String)}
      (hmember : members.Takes member next) (hrest : TakesAll next rest taken) :
      TakesAll members (member :: rest) taken

/-- What is left unset by the settings is left unset by their strings. -/
theorem takesAll_texts (settings : Settings) :
    TakesAll {} settings.texts ⟨some settings.logLevel, some settings.output,
      settings.selector.map some, settings.input.map some⟩ := by
  refine .cons (takes_logLevel rfl settings.logLevel) (.cons (takes_output rfl settings.output) ?_)
  cases settings.selector with
  | none => cases settings.input with
    | none => exact .nil _
    | some path => exact .cons (takes_input rfl path) (.nil _)
  | some text => cases settings.input with
    | none => exact .cons (takes_selector rfl text) (.nil _)
    | some path => exact .cons (takes_selector rfl text) (.cons (takes_input rfl path) (.nil _))

end Members

/-! ## Objects -/

theorem Layout.skipSpace_member (layout : Layout) (key value : String) (rest : List Char) :
    Json.skipSpace (layout.beforeKey ++ (layout.member key value ++ rest)) =
      layout.member key value ++ rest := by
  have hmember : layout.member key value ++ rest =
      '"' :: (layout.member key value ++ rest).tail := by
    simp [member, Json.quotedChars]
  rw [hmember]
  exact skipSpace_blank layout.blank_beforeKey rfl _

theorem readMoreMembers_membersAfter {members taken : Members} {texts : List (String × String)}
    (h : members.TakesAll texts taken) (layout : Layout) {fuel : Nat} (hfuel : texts.length < fuel)
    (rest : List Char) :
    readMoreMembers members fuel (layout.membersAfter texts ++ rest) =
      ofMembers taken ('\x7d' :: rest) := by
  -- each member uses up some fuel, and the text is longer than there are members
  induction h generalizing fuel with
  | nil members =>
      obtain ⟨fuel, rfl⟩ := Nat.exists_eq_succ_of_ne_zero (Nat.ne_of_gt hfuel)
      have hend : Json.skipSpace (layout.beforeEnd ++ '\x7d' :: rest) = '\x7d' :: rest :=
        skipSpace_blank layout.blank_beforeEnd rfl rest
      rw [Layout.membersAfter, List.append_assoc, List.singleton_append, readMoreMembers, hend]
      rfl
  | @cons members next taken member more hmember _ ih =>
      obtain ⟨fuel, rfl⟩ := Nat.exists_eq_succ_of_ne_zero (Nat.ne_of_gt (Nat.zero_lt_of_lt hfuel))
      have hmore := ih (Nat.lt_of_succ_lt_succ hfuel)
      have htaken := hmember layout (layout.membersAfter more ++ rest)
      have hcomma : ∀ text, Json.skipSpace (',' :: text) = ',' :: text :=
        Json.skipSpace_cons rfl
      rw [Layout.membersAfter, List.cons_append, List.append_assoc, List.append_assoc,
        readMoreMembers, hcomma]
      simp only [layout.skipSpace_member, htaken, Reading.andThen, hmore]

theorem length_lt_length_membersAfter (layout : Layout) (texts : List (String × String)) :
    texts.length < (layout.membersAfter texts).length := by
  induction texts with
  | nil => simp [Layout.membersAfter]
  | cons member rest ih =>
      simp only [Layout.membersAfter, List.length_cons, List.length_append]
      omega

theorem readObject_laidOut {taken : Members} {member : String × String}
    {texts : List (String × String)} (h : Members.TakesAll {} (member :: texts) taken)
    (layout : Layout) (rest : List Char) :
    readObject (layout.beforeKey ++ (layout.member member.1 member.2 ++
      (layout.membersAfter texts ++ rest))) = ofMembers taken ('\x7d' :: rest) := by
  cases h with
  | cons hmember hrest =>
      have htaken := hmember layout (layout.membersAfter texts ++ rest)
      have hfuel : texts.length < (layout.membersAfter texts ++ rest).length + 1 := by
        have hlength := length_lt_length_membersAfter layout texts
        rw [List.length_append]
        omega
      have hmore := readMoreMembers_membersAfter hrest layout hfuel rest
      unfold readObject
      rw [layout.skipSpace_member]
      -- the text starts with the quote of a key
      split
      · next e => simp [Layout.member, Json.quotedChars] at e
      · next e => simp [Layout.member, Json.quotedChars] at e
      · rw [htaken]
        exact hmore

/-- Settings are read from their strings, however these are laid out. -/
theorem readSettings_laidOut (settings : Settings) (layout : Layout) :
    readSettings ('\x7b' :: (layout.beforeKey ++ layout.member "log_level" settings.logLevel ++
      layout.membersAfter settings.texts.tail)) = .ok (settings, []) := by
  have htakes : Members.TakesAll {} (("log_level", settings.logLevel) :: settings.texts.tail)
      ⟨some settings.logLevel, some settings.output, settings.selector.map some,
        settings.input.map some⟩ := Members.takesAll_texts settings
  have hobject := readObject_laidOut htakes layout []
  have hsettings : ofMembers ⟨some settings.logLevel, some settings.output,
      settings.selector.map some, settings.input.map some⟩ ['\x7d'] = .ok (settings, []) := by
    obtain ⟨logLevel, output, selector, input⟩ := settings
    cases selector <;> cases input <;> rfl
  rw [List.append_nil, ← List.append_assoc, hsettings] at hobject
  exact hobject

/-- **Round trip of settings.** Settings are read back from their JSON text, compact or indented. -/
theorem ofJson_text_toJson (settings : Settings) :
    ofJson settings.toJson.text = .ok settings ∧
      ofJson settings.toJson.indentedText = .ok settings := by
  constructor
  · rw [ofJson, toList_text, readSettings_laidOut]
    rfl
  · rw [ofJson, toList_indentedText, readSettings_laidOut]
    rfl

end Settings
end Pluck
