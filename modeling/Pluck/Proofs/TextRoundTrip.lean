import Pluck.Proofs.NumberTexts
import Pluck.Proofs.Projection
import Pluck.Proofs.Quotation
import Pluck.Proofs.RoundTrip

/-!
Reading values and selectors back from their texts.

The reader of a value takes back the text of any value whose objects hold no key twice and whose
numbers are read back, whatever follows, given levels enough (`Json.readValue_chars`). Elements and
entries are read one by one; each has a text that does not start like the end of its container.
Selectors that were read are such values, so `ofText_text` is left with what their rendering gives.
-/

namespace Pluck
namespace Json

theorem ends_cons {c : Char} (h : c.isDigit = false ∧ c ≠ '.' ∧ c ≠ 'e' ∧ c ≠ 'E')
    (rest : List Char) : Ends (c :: rest) := by
  rintro d ⟨⟩
  exact h

/-- The text of a value starts neither with a blank nor with the end of a container. -/
theorem exists_chars_eq_cons (v : Json) :
    ∃ c tail, v.chars = c :: tail ∧ isSpace c = false ∧ c ≠ ']' ∧ c ≠ '\x7d' := by
  cases v with
  | null => exact ⟨'n', _, rfl, by decide⟩
  | bool b => cases b with
    | true => exact ⟨'t', _, rfl, by decide⟩
    | false => exact ⟨'f', _, rfl, by decide⟩
  | string s => exact ⟨'"', _, rfl, by decide⟩
  | array elements => cases elements with
    | nil => exact ⟨'[', _, rfl, by decide⟩
    | cons x rest => exact ⟨'[', _, rfl, by decide⟩
  | object entries => cases entries with
    | nil => exact ⟨'\x7b', _, rfl, by decide⟩
    | cons entry rest => exact ⟨'\x7b', _, rfl, by decide⟩
  | number n =>
      obtain ⟨negative, c, tail, hchars, hc, hspace⟩ := n.exists_chars_eq
      rw [chars, hchars]
      cases negative with
      | true => exact ⟨'-', _, rfl, by decide⟩
      | false =>
          exact ⟨c, tail, rfl, hspace c List.mem_cons_self, ne_of_isDigit hc rfl,
            ne_of_isDigit hc rfl⟩

theorem skipSpace_cons {c : Char} (h : isSpace c = false) (rest : List Char) :
    skipSpace (c :: rest) = c :: rest :=
  List.dropWhile_cons_of_neg (by simp [h])

/-! ## Elements of an array -/

section Elements

variable {element : List Char → Reading Flaw Json} {text rest : List Char} {x : Json}

theorem readElements_last (h : element text = .ok (x, ']' :: rest)) (before : List Json)
    (fuel : Nat) : readElements element before (fuel + 1) text =
      .ok (before.reverse ++ [x], rest) := by
  have hclose : skipSpace (']' :: rest) = ']' :: rest := skipSpace_cons rfl rest
  rw [readElements, h]
  simp only [Reading.andThen, hclose, List.reverse_cons]

theorem readElements_more {c : Char} (h : element text = .ok (x, ',' :: c :: rest))
    (hspace : isSpace c = false) (hc : c ≠ ']') (before : List Json) (fuel : Nat) :
    readElements element before (fuel + 1) text =
      readElements element (x :: before) fuel (c :: rest) := by
  have hcomma : skipSpace (',' :: c :: rest) = ',' :: c :: rest := skipSpace_cons rfl _
  rw [readElements, h]
  simp only [Reading.andThen, hcomma, skipSpace_cons hspace]
  split
  · next e => cases e
  · next e => exact absurd (List.cons.inj e).1 hc
  · rfl

end Elements

/-- The reader reads every value back from its text, whatever follows. -/
def ReadsAll (reader : List Char → Reading Flaw Json) (values : List Json) : Prop :=
  ∀ x ∈ values, ∀ rest, Ends rest → reader (x.chars ++ rest) = .ok (x, rest)

theorem readElements_chars {element : List Char → Reading Flaw Json} {x : Json} {xs : List Json}
    (h : ReadsAll element (x :: xs)) {fuel : Nat} (hfuel : xs.length < fuel)
    (before : List Json) (rest : List Char) :
    readElements element before fuel (x.chars ++ (charsAfterElement xs ++ rest)) =
      .ok (before.reverse ++ x :: xs, rest) := by
  induction xs generalizing x before fuel with
  | nil =>
      obtain ⟨fuel, rfl⟩ := Nat.exists_eq_succ_of_ne_zero (Nat.ne_of_gt hfuel)
      exact readElements_last (h x List.mem_cons_self _ (ends_cons (by decide) _)) before fuel
  | cons y ys ih =>
      obtain ⟨fuel, rfl⟩ := Nat.exists_eq_succ_of_ne_zero (Nat.ne_of_gt (Nat.zero_lt_of_lt hfuel))
      obtain ⟨c, tail, hchars, hspace, hclose, -⟩ := exists_chars_eq_cons y
      have hx := h x List.mem_cons_self (charsAfterElement (y :: ys) ++ rest)
        (ends_cons (by decide) _)
      have hys := ih (fun z hz => h z (List.mem_cons_of_mem _ hz)) (Nat.lt_of_succ_lt_succ hfuel)
        (x :: before)
      have hmore : charsAfterElement (y :: ys) ++ rest =
          ',' :: c :: (tail ++ (charsAfterElement ys ++ rest)) := by
        simp [charsAfterElement, hchars]
      rw [hchars] at hys
      rw [hmore] at hx ⊢
      rw [readElements_more hx hspace hclose]
      simpa using hys

/-! ## Entries of an object -/

theorem readKey_chars (key : String) (rest : List Char) :
    readKey (quotedChars key ++ ':' :: rest) = .ok (key, rest) := by
  have hcolon : skipSpace (':' :: rest) = ':' :: rest := skipSpace_cons rfl rest
  have hquoted : quotedChars key ++ ':' :: rest =
      '"' :: (key.toList.flatMap escapedChar ++ '"' :: ':' :: rest) := by
    simp [quotedChars]
  rw [hquoted, readKey, readString_quoted]
  simp only [Reading.andThen, hcolon]

section Entries

variable {value : List Char → Reading Flaw Json} {text rest : List Char} {key : String} {x : Json}

theorem readEntries_last {more : List Char} (hkey : readKey text = .ok (key, more))
    (h : value more = .ok (x, '\x7d' :: rest)) (before : Entries Json) (fuel : Nat) :
    readEntries value before (fuel + 1) text = .ok (Entries.insert key x before, rest) := by
  have hclose : skipSpace ('\x7d' :: rest) = '\x7d' :: rest := skipSpace_cons rfl rest
  rw [readEntries, hkey]
  simp only [Reading.andThen, h, hclose]

theorem readEntries_more {more : List Char} (hkey : readKey text = .ok (key, more))
    (h : value more = .ok (x, ',' :: '"' :: rest)) (before : Entries Json) (fuel : Nat) :
    readEntries value before (fuel + 1) text =
      readEntries value (Entries.insert key x before) fuel ('"' :: rest) := by
  have hcomma : skipSpace (',' :: '"' :: rest) = ',' :: '"' :: rest := skipSpace_cons rfl _
  have hquote : skipSpace ('"' :: rest) = '"' :: rest := skipSpace_cons rfl _
  rw [readEntries, hkey]
  simp only [Reading.andThen, h, hcomma, hquote]
  rfl

end Entries

theorem readEntries_chars {value : List Char → Reading Flaw Json} {entry : String × Json}
    {entries : List (String × Json)} (h : ReadsAll value ((entry :: entries).map Prod.snd))
    {fuel : Nat} (hfuel : entries.length < fuel) (before : Entries Json) (rest : List Char) :
    readEntries value before fuel
        (quotedChars entry.1 ++ ':' :: (entry.2.chars ++ (charsAfterEntry entries ++ rest))) =
      .ok (Entries.insertAll before (entry :: entries), rest) := by
  induction entries generalizing entry before fuel with
  | nil =>
      obtain ⟨fuel, rfl⟩ := Nat.exists_eq_succ_of_ne_zero (Nat.ne_of_gt hfuel)
      exact readEntries_last (readKey_chars entry.1 _)
        (h entry.2 (by simp) _ (ends_cons (by decide) _)) before fuel
  | cons next entries ih =>
      obtain ⟨fuel, rfl⟩ := Nat.exists_eq_succ_of_ne_zero (Nat.ne_of_gt (Nat.zero_lt_of_lt hfuel))
      have hx := h entry.2 (by simp) (charsAfterEntry (next :: entries) ++ rest)
        (ends_cons (by decide) _)
      have hnext := ih (fun z hz => h z (List.mem_cons_of_mem _ hz)) (Nat.lt_of_succ_lt_succ hfuel)
        (Entries.insert entry.1 entry.2 before)
      have hmore : charsAfterEntry (next :: entries) ++ rest = ',' ::
          (quotedChars next.1 ++ ':' :: (next.2.chars ++ (charsAfterEntry entries ++ rest))) := by
        simp [charsAfterEntry]
      rw [hmore] at hx ⊢
      exact (readEntries_more (readKey_chars entry.1 _) hx before fuel).trans hnext

/-! ## Values -/

theorem length_lt_length_charsAfterElement (elements : List Json) :
    elements.length < (charsAfterElement elements).length := by
  induction elements with
  | nil => simp [charsAfterElement]
  | cons x rest ih =>
      simp only [charsAfterElement, List.length_cons, List.length_append]
      omega

theorem length_lt_length_charsAfterEntry (entries : List (String × Json)) :
    entries.length < (charsAfterEntry entries).length := by
  induction entries with
  | nil => simp [charsAfterEntry]
  | cons entry rest ih =>
      simp only [charsAfterEntry, List.length_cons, List.length_append]
      omega

theorem readArray_chars {element : List Char → Reading Flaw Json} {x : Json} {xs : List Json}
    (h : ReadsAll element (x :: xs)) (rest : List Char) :
    readArray element (x.chars ++ (charsAfterElement xs ++ rest)) =
      .ok (.array (x :: xs), rest) := by
  obtain ⟨c, tail, hchars, hspace, hclose, -⟩ := exists_chars_eq_cons x
  have hfuel : xs.length < (x.chars ++ (charsAfterElement xs ++ rest)).length + 1 := by
    have hlength := length_lt_length_charsAfterElement xs
    simp only [List.length_append]
    omega
  have helements := readElements_chars h hfuel [] rest
  rw [hchars, List.cons_append] at helements ⊢
  unfold readArray
  rw [skipSpace_cons hspace]
  split
  · next e => cases e
  · next e => exact absurd (List.cons.inj e).1 hclose
  · rw [helements]
    rfl

theorem readObject_chars {value : List Char → Reading Flaw Json} {entry : String × Json}
    {entries : List (String × Json)} (h : ReadsAll value ((entry :: entries).map Prod.snd))
    (hn : (Entries.keys (entry :: entries)).Nodup) (rest : List Char) :
    readObject value
        (quotedChars entry.1 ++ ':' :: (entry.2.chars ++ (charsAfterEntry entries ++ rest))) =
      .ok (.object (entry :: entries), rest) := by
  have hfuel : entries.length < (quotedChars entry.1 ++
      ':' :: (entry.2.chars ++ (charsAfterEntry entries ++ rest))).length + 1 := by
    have hlength := length_lt_length_charsAfterEntry entries
    simp only [List.length_append, List.length_cons]
    omega
  have hentries := readEntries_chars h hfuel [] rest
  have hwritten : Entries.insertAll [] (entry :: entries) = entry :: entries :=
    Entries.ofPairs_eq_self hn
  rw [hwritten] at hentries
  exact congrArg (Reading.map Json.object) hentries

/-- A value is read back from its text, whatever follows, if its numbers are and enough levels are
allowed. -/
theorem readValue_chars {v : Json} (hv : v.WellFormed) (hnumbers : v.EveryNumber Number.ReadsBack)
    {levels : Nat} (hlevels : v.nesting ≤ levels) {rest : List Char} (hrest : Ends rest) :
    readValue levels (v.chars ++ rest) = .ok (v, rest) := by
  induction v using Json.induction generalizing levels rest with
  | null => exact readValue_scalar rfl (by decide) (by decide) levels _
  | bool b => cases b with
    | true => exact readValue_scalar rfl (by decide) (by decide) levels _
    | false => exact readValue_scalar rfl (by decide) (by decide) levels _
  | number n =>
      cases hnumbers with
      | number h => exact readValue_of_read h.read_text levels hrest
  | string s =>
      have hquoted : quotedChars s ++ rest =
          '"' :: (s.toList.flatMap escapedChar ++ '"' :: rest) := by
        simp [quotedChars]
      have hscalar : readScalar '"' (s.toList.flatMap escapedChar ++ '"' :: rest) =
          (readString (s.toList.flatMap escapedChar ++ '"' :: rest)).map .string := rfl
      rw [chars, hquoted, readValue_scalar rfl (by decide) (by decide), hscalar, readString_quoted]
      rfl
  | array elements ih =>
      cases levels with
      | zero => simp [nesting] at hlevels
      | succ levels =>
          rw [wellFormed_array_iff] at hv
          rw [nesting_array_le_iff] at hlevels
          cases hnumbers with
          | array hnumbers =>
              have hall : ReadsAll (readValue levels) elements := fun x hx rest hrest =>
                ih x hx (hv x hx) (hnumbers x hx) (hlevels x hx) hrest
              cases elements with
              | nil => rfl
              | cons x xs =>
                  have harray := readArray_chars hall rest
                  rw [chars, List.cons_append, List.append_assoc]
                  exact harray
  | object entries ih =>
      cases levels with
      | zero => simp [nesting] at hlevels
      | succ levels =>
          obtain ⟨hn, hv⟩ := (wellFormed_object_iff entries).1 hv
          rw [nesting_object_le_iff] at hlevels
          cases hnumbers with
          | object hnumbers =>
              have hall : ReadsAll (readValue levels) (entries.map Prod.snd) := by
                intro x hx rest hrest
                obtain ⟨entry, he, rfl⟩ := List.mem_map.1 hx
                exact ih entry he (hv entry he) (hnumbers entry he) (hlevels entry he) hrest
              cases entries with
              | nil => rfl
              | cons entry entries =>
                  have hobject := readObject_chars hall hn rest
                  rw [chars, List.cons_append, List.append_assoc, List.cons_append,
                    List.append_assoc]
                  exact hobject

theorem readValue_text {v : Json} (hv : v.WellFormed) (hnumbers : v.EveryNumber Number.ReadsBack)
    (hnesting : v.nesting ≤ maxDepth) :
    readValue maxDepth v.text.toList = .ok (v, []) := by
  have hnil : Ends [] := by
    rintro c ⟨⟩
  have hread := readValue_chars hv hnumbers hnesting hnil
  rwa [List.append_nil, ← String.toList_ofList (l := v.chars)] at hread

/-- A value is read back from its text, if its numbers are and it is not nested too deep. -/
theorem read_text {v : Json} (hv : v.WellFormed) (hnumbers : v.EveryNumber Number.ReadsBack)
    (hnesting : v.nesting ≤ maxDepth) : read v.text = .ok v :=
  read_eq_ok_iff.2 ⟨[], readValue_text hv hnumbers hnesting, rfl⟩

end Json

/-! ## Selectors -/

/-- The numbers in the JSON form of a selector are those of its fields. -/
theorem Selector.everyNumber_toJson {P : Number → Prop} {selector : Selector}
    (h : selector.EveryField fun field => ∀ n, field = .index n → P n) :
    selector.toJson.EveryNumber P := by
  induction selector using Selector.induction with
  | fields items ih =>
      obtain ⟨here, below⟩ := (Selector.everywhere_fields_iff _ items).1 h
      rw [Selector.toJson, Item.listToJson_eq_map]
      refine Json.EveryNumber.array fun x hx => ?_
      obtain ⟨item, hi, rfl⟩ := List.mem_map.1 hx
      cases item with
      | field field => cases field with
        | name key => exact Json.EveryNumber.string key
        | index n => exact Json.EveryNumber.number (here _ hi _ rfl n rfl)
      | nested pairs =>
          rw [Item.toJson, Item.pairsToJson_eq_mapValues]
          refine Json.EveryNumber.object fun entry he => ?_
          obtain ⟨pair, hp, rfl⟩ := List.mem_map.1 (Entries.mem_of_mem_ofPairs he)
          exact ih pairs hi pair hp (below pairs hi pair hp)
  | eachItem inner ih =>
      rw [Selector.toJson]
      refine Json.EveryNumber.array fun x hx => ?_
      obtain rfl := List.mem_singleton.1 hx
      exact ih ((Selector.everywhere_eachItem_iff _ inner).1 h)

/-- **Text round trip.** A selector that was read is read back from its text, by each of the
readers of texts and by the decoder, if it is nested no deeper than readers go and the floating-point
numbers among its fields are read back. -/
theorem ofText_text {v : Json} {selector : Selector} (hv : v.WellFormed)
    (h : Selector.ofJson v = .ok selector) (hnesting : selector.toJson.nesting ≤ 127)
    (hfloats : selector.EveryField fun field =>
      ∀ x, field = .index (.float x) → (Number.float x).ReadsBack) :
    Selector.ofText selector.text = .ok selector ∧
      Selector.ofUserText selector.text = .ok selector ∧
      Selector.decode selector.text = .ok selector := by
  have hnumbers : selector.toJson.EveryNumber Number.ReadsBack := by
    refine Selector.everyNumber_toJson (hfloats.imp fun _ hitem field hfield n hn => ?_)
    cases n with
    | whole n => exact Number.readsBack_whole n
    | float x => exact hitem field hfield x hn
  obtain ⟨rfl, -⟩ := toJson_of_ofJson hv h
  have hread : Json.read selector.text = .ok selector.toJson :=
    Json.read_text hv hnumbers hnesting
  refine ⟨Selector.readWith_eq_ok_iff.2 ⟨_, hread, h⟩,
    Selector.readWith_eq_ok_iff.2 ⟨_, hread, h⟩, ?_⟩
  rw [Selector.decode, Selector.text, Json.readValue_text hv hnumbers hnesting]
  simp only [h]
  rfl

/-! Keys and names with quotes, backslashes, control characters and others, and numbers of both
kinds. -/

def half : Binary64 := ⟨false, 1022 * 2 ^ 52, by decide⟩

theorem readsBack_half : (Number.float half).ReadsBack := by
  have hchars : (Number.float half).text.toList = signChars false ++ ['0', '.', '5'] := by
    decide +kernel
  have hvalue : (Binary64.ofInt (Json.digitValue '5')).bind (Json.scale · (-1)) = some half := by
    have hsignificand : Binary64.ofInt (Json.digitValue '5') =
        some ⟨false, 1025 * 2 ^ 52 + 2 ^ 50, by decide⟩ := by
      decide +kernel
    rw [hsignificand, Option.bind_some, Json.scale, if_pos (by decide)]
    decide +kernel
  refine ⟨.float half, Json.read_eq_ok_iff.2 ⟨[], ?_, rfl⟩, Number.equal_iff.2 (Or.inl rfl)⟩
  rw [hchars, Json.readValue_signed rfl, Json.readNumber_tenths rfl,
    Json.floatOfParts_of_eq hvalue]
  rfl

def escapedPointer : Json :=
  .array [.string "\"\\/\n\x00é𝄞",
    .object [("\x1f\"", .array [.array [.number (.float half)]]), ("", .array [])],
    .number (.float (Binary64.zero true)), .number (.whole ⟨-7, by decide, by decide⟩)]

def escapedSelector : Selector :=
  .fields [.field (.name "\"\\/\n\x00é𝄞"),
    .nested [("\x1f\"", .eachItem (.fields [.field (.index (.float half))])), ("", .fields [])],
    .field (.index (.float (Binary64.zero true))),
    .field (.index (.whole ⟨-7, by decide, by decide⟩))]

theorem ofText_text_escapedSelector :
    Selector.ofJson escapedPointer = .ok escapedSelector ∧
      Selector.ofText escapedSelector.text = .ok escapedSelector ∧
      Selector.ofUserText escapedSelector.text = .ok escapedSelector ∧
      Selector.decode escapedSelector.text = .ok escapedSelector := by
  have hv : escapedPointer.WellFormed := by
    simp [escapedPointer, Json.WellFormed, Json.WellFormedElements, Json.WellFormedEntries,
      Entries.keys]
  have hread : Selector.ofJson escapedPointer = .ok escapedSelector := by rfl
  have hnesting : escapedSelector.toJson.nesting ≤ 127 := by decide
  have hzero : (Number.float (Binary64.zero true)).ReadsBack :=
    ⟨_, Number.read_text_zero true, Number.equal_iff.2 (Or.inl rfl)⟩
  have hfloats : escapedSelector.EveryField fun field =>
      ∀ x, field = .index (.float x) → (Number.float x).ReadsBack := by
    simp [Selector.EveryField, escapedSelector, Selector.everywhere_fields_iff,
      Selector.everywhere_eachItem_iff, hzero, readsBack_half, -Prod.forall]
  exact ⟨hread, ofText_text hv hread hnesting hfloats⟩

end Pluck
