import Mathlib
import Pluck.Proofs.NumberTexts
import Pluck.Proofs.Reading

/-!
The readers of selector texts agree.

A text may be read as a whole (`Selector.ofText`), also for a user who is told what is wrong in one
message (`Selector.ofUserText`), or by a decoder that looks at the end of the text last
(`Selector.decode`). All three take the same texts for the same selectors, and they refuse a text for
the same reason (`ofText_agrees`). Only where a text has two faults, a broken selector and more text
after it, the decoder tells the one that the others miss.
-/

namespace Pluck

/-- A text is not JSON because of the value in front, or because of what follows it. -/
theorem Json.read_eq_error_iff {text message : String} :
    read text = .error message ↔
      (∃ fault, readValue maxDepth text.toList = .error fault ∧
        message = fault.message Flaw.message text.toList) ∨
      ∃ v rest fault, readValue maxDepth text.toList = .ok (v, rest) ∧
        readEnd rest = .error fault ∧ message = fault.message Flaw.message text.toList := by
  unfold read readChars?
  cases readValue maxDepth text.toList with
  | error fault => simp [bind, Except.bind, eq_comm]
  | ok found =>
      obtain ⟨v, rest⟩ := found
      cases hend : readEnd rest with
      | error fault => simp [bind, Except.bind, hend, eq_comm]
      | ok => simp [bind, Except.bind, pure, Except.pure, hend]

namespace Selector

/-- The value in front of the text is no selector, and more than blanks come after it. -/
def BrokenInFront (text : String) (e : SelectorError) : Prop :=
  ∃ pointer rest, Json.readValue Json.maxDepth text.toList = .ok (pointer, rest) ∧
    Json.skipSpace rest ≠ [] ∧ Selector.ofJson pointer = .error e

/-! ## The decoder -/

/-- Where nothing but blanks follows the value, it does not matter what is looked at first. -/
theorem decode_of_read {text : String} {pointer : Json} (h : Json.read text = .ok pointer) :
    decode text = (ofJson pointer).mapError SelectorError.message := by
  obtain ⟨rest, hvalue, hrest⟩ := Json.read_eq_ok_iff.1 h
  unfold decode
  simp only [hvalue, Json.readEnd_eq_ok_iff.2 hrest]
  cases ofJson pointer <;> rfl

/-- The end of the text is seen only after a selector. -/
theorem decode_of_not_read {text message : String} (h : Json.read text = .error message) :
    decode text = .error message ∨
      ∃ e, BrokenInFront text e ∧ decode text = .error e.message := by
  unfold decode
  obtain ⟨fault, hvalue, rfl⟩ | ⟨pointer, rest, fault, hvalue, hend, rfl⟩ :=
    Json.read_eq_error_iff.1 h
  · left
    simp only [hvalue]
  · cases hpointer : ofJson pointer with
    | ok selector =>
        left
        simp only [hvalue, hpointer, hend]
    | error e =>
        have hrest : Json.skipSpace rest ≠ [] := by
          intro hblank
          rw [Json.readEnd_eq_ok_iff.2 hblank] at hend
          cases hend
        right
        refine ⟨e, ⟨pointer, rest, hvalue, hrest, hpointer⟩, ?_⟩
        simp only [hvalue, hpointer]

theorem decode_eq_ok_iff {text : String} {selector : Selector} :
    decode text = .ok selector ↔
      ∃ pointer, Json.read text = .ok pointer ∧ ofJson pointer = .ok selector := by
  cases hread : Json.read text with
  | ok pointer => simp [decode_of_read hread, mapError_eq_ok_iff]
  | error message =>
      obtain hdecode | ⟨e, -, hdecode⟩ := decode_of_not_read hread <;> simp [hdecode]

/-! ## Errors -/

section Errors

variable {text : String}

/-- A text that is refused for the selector in it is JSON. -/
theorem ofText_eq_invalid_iff {e : SelectorError} :
    ofText text = .error (.invalid e) ↔
      ∃ pointer, Json.read text = .ok pointer ∧ ofJson pointer = .error e := by
  unfold ofText
  cases hread : Json.read text with
  | ok pointer => simp [readWith_of_read hread, mapError_eq_error_iff]
  | error message => simp [readWith_of_not_read hread]

theorem ofText_eq_notJson_iff {message : String} :
    ofText text = .error (.notJson message) ↔ Json.read text = .error message := by
  unfold ofText
  cases hread : Json.read text with
  | ok pointer => simp [readWith_of_read hread, mapError_eq_error_iff]
  | error other => simp [readWith_of_not_read hread]

end Errors

/-- **Readers of texts.** The readers take the same texts for the same selectors. A JSON text that
is no selector is refused with the error of the selector, any other text with the message of the
JSON reader; only the decoder may come upon a broken selector before that. -/
theorem ofText_agrees (text : String) :
    (∀ selector, (ofText text = .ok selector ↔ ofUserText text = .ok selector) ∧
      (ofUserText text = .ok selector ↔ decode text = .ok selector)) ∧
    (∀ e, ofText text = .error (.invalid e) →
      ofUserText text = .error e.toJson.text ∧ decode text = .error e.message) ∧
    (∀ message, ofText text = .error (.notJson message) →
      Json.read text = .error message ∧
      ofUserText text = .error ("Selector is not valid JSON: " ++ message) ∧
      (decode text = .error message ∨
        ∃ e, BrokenInFront text e ∧ decode text = .error e.message)) := by
  refine ⟨fun selector => ?_, fun e he => ?_, fun message hmessage => ?_⟩
  · exact ⟨readWith_eq_ok_iff.trans readWith_eq_ok_iff.symm,
      readWith_eq_ok_iff.trans decode_eq_ok_iff.symm⟩
  · obtain ⟨pointer, hread, hpointer⟩ := ofText_eq_invalid_iff.1 he
    rw [ofUserText, readWith_of_read hread, decode_of_read hread, hpointer]
    exact ⟨rfl, rfl⟩
  · have hread := ofText_eq_notJson_iff.1 hmessage
    exact ⟨hread, readWith_of_not_read hread, decode_of_not_read hread⟩

/-! A selector that is broken inside, and one that is broken in front of more text. -/

def brokenInside : String := "[\x7b\"a\": [true]\x7d]"

def brokenInsideFault : SelectorError :=
  .within (.array [.object [("a", .array [.bool true])]])
    (.within (.array [.bool true]) (.invalid (.bool true)))

def brokenInFront : String := "[true] x"

theorem ofText_agrees_broken :
    (ofText brokenInside = .error (.invalid brokenInsideFault) ∧
      ofUserText brokenInside = .error brokenInsideFault.toJson.text ∧
      decode brokenInside = .error "Sub-selector error") ∧
    (ofText brokenInFront = .error (.notJson "trailing characters at line 1 column 8") ∧
      ofUserText brokenInFront = .error
        ("Selector is not valid JSON: " ++ "trailing characters at line 1 column 8") ∧
      decode brokenInFront = .error "Sub-selector error") := by
  have hinside : ofText brokenInside = .error (.invalid brokenInsideFault) := by
    cbv
  have hfront : ofText brokenInFront =
      .error (.notJson "trailing characters at line 1 column 8") := by
    cbv
  have hdecode : decode brokenInFront = .error "Sub-selector error" := by
    cbv
  obtain ⟨-, hinvalid, -⟩ := ofText_agrees brokenInside
  exact ⟨⟨hinside, hinvalid _ hinside⟩, hfront,
    ((ofText_agrees brokenInFront).2.2 _ hfront).2.1, hdecode⟩

end Selector
end Pluck
