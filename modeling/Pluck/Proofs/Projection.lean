import Mathlib.Data.List.Forall2
import Pluck.Proofs.Lookups

/-!
Extraction by names is a projection.

Let every field of a selector be a plain name: neither `length` nor `-`, and no integer in front.
Then extracting from a result gives the result again (`extract_extract`), with all keys in their
places. Nested items may look up any keys.

The result of a first run has only keys that the input has, and no value in it counts as false
(`Reflects`). So at every item the second run finds a value where the first one did, and the pair
of a nested item that counted goes on to count. A value that is overwritten later may differ in
the second run; the one that stays under its key does not (`Repeats`).
-/

namespace Pluck

/-- The key can only be found as it is: it is no word for a count or a last element, and no
integer stands at its front. -/
def Field.IsName (field : Field) : Prop :=
  field.key ≠ "length" ∧ field.key ≠ "-" ∧ leadingInteger? field.key = none

instance (field : Field) : Decidable field.IsName :=
  inferInstanceAs (Decidable (_ ∧ _ ∧ _))

/-- `P` holds of every field, at whatever depth. -/
def Selector.EveryField (P : Field → Prop) : Selector → Prop :=
  Selector.Everywhere fun item => ∀ field, item = .field field → P field

/-! ## Lookup by names -/

theorem Json.resolveKey?_of_no_integer {key : String} (h : leadingInteger? key = none)
    (input : Json) : input.resolveKey? key = input.present? key := by
  rw [resolveKey?_eq, h]
  exact Option.or_none

theorem Field.IsName.resolve? {field : Field} (h : field.IsName) (input : Json) :
    input.resolve? field.key = input.present? field.key := by
  obtain ⟨hlength, hlast, hinteger⟩ := h
  rw [Json.resolve?_eq_resolveKey? input hlength hlast]
  exact Json.resolveKey?_of_no_integer hinteger input

theorem Field.IsName.contribution {field : Field} (h : field.IsName) (input : Json) :
    field.contribution input = (input.present? field.key).map fun value => (field.key, value) := by
  unfold Field.contribution
  rw [h.resolve?]
  cases hv : input.present? field.key with
  | none => rfl
  | some value =>
      have ht := (Json.present?_eq_some_iff.1 hv).2
      cases value with
      | null => simp [Json.isTruthy] at ht
      | _ => rfl

/-! ## What a first run leaves -/

/-- The keys of `result` have values in `input`, and no value of `result` counts as false. -/
structure Reflects (input : Json) (result : Entries Json) : Prop where
  present : ∀ key ∈ Entries.keys result, ∃ value, input.present? key = some value
  truthy : ∀ key value, Entries.get? key result = some value → value.isTruthy = true

theorem Reflects.present?_object {input : Json} {result : Entries Json}
    (h : Reflects input result) (key : String) :
    (Json.object result).present? key = Entries.get? key result := by
  change (Entries.get? key result).filter Json.isTruthy = Entries.get? key result
  cases hv : Entries.get? key result with
  | none => rfl
  | some value => simp [h.truthy key value hv]

theorem Reflects.absent {input : Json} {result : Entries Json} (h : Reflects input result)
    {key : String} (hnone : input.present? key = none) :
    (Json.object result).present? key = none := by
  rw [h.present?_object, Entries.get?_eq_none_iff]
  intro hm
  obtain ⟨value, hv⟩ := h.present key hm
  rw [hnone] at hv
  cases hv

theorem Item.pairsContribution_present {pairs : List (String × Selector)} {input : Json}
    {written : String × Json} (h : Item.pairsContribution pairs input = some written) :
    (∃ value, input.present? written.1 = some value) ∧ written.2.isTruthy = true := by
  obtain ⟨pair, -, value, hv, rfl⟩ := Item.exists_of_pairsContribution h
  exact ⟨⟨value, hv⟩, pair.2.isTruthy_extract value⟩

theorem Item.contribution_present {item : Item}
    (hname : ∀ field, item = .field field → field.IsName) {input : Json} {pair : String × Json}
    (h : item.contribution input = some pair) :
    (∃ value, input.present? pair.1 = some value) ∧ pair.2.isTruthy = true := by
  cases item with
  | field field =>
      have hc := (hname field rfl).contribution input
      obtain ⟨value, hv, hp⟩ := Option.map_eq_some_iff.1 (hc.symm.trans h)
      subst hp
      exact ⟨⟨value, hv⟩, (Json.present?_eq_some_iff.1 hv).2⟩
  | nested pairs => exact Item.pairsContribution_present h

/-- What the items write reflects the input they read. -/
theorem reflects_contributions {items : List Item} (input : Json)
    (hname : ∀ item ∈ items, ∀ field, item = .field field → field.IsName) :
    Reflects input (Entries.ofPairs (Item.contributions items input)) := by
  have hall : ∀ pair ∈ Item.contributions items input,
      (∃ value, input.present? pair.1 = some value) ∧ pair.2.isTruthy = true := by
    intro pair hp
    rw [Item.contributions_eq_filterMap] at hp
    obtain ⟨item, hi, hc⟩ := List.mem_filterMap.1 hp
    exact Item.contribution_present (hname item hi) hc
  constructor
  · intro key hk
    obtain ⟨pair, hp, rfl⟩ := List.mem_map.1 ((Entries.mem_keys_ofPairs key _).1 hk)
    exact (hall pair hp).1
  · intro key value hv
    exact (hall _ (Entries.mem_of_mem_ofPairs (Entries.mem_of_get? hv))).2

/-! ## The second run -/

/-- A second run writes the same key, and the same value where that is the one in the result. -/
def Repeats (result : Entries Json) (first second : String × Json) : Prop :=
  second.1 = first.1 ∧ (Entries.get? first.1 result = some first.2 → second.2 = first.2)

/-- What is made of the value under a key is written again, if making it twice is like once. -/
theorem Reflects.repeats_lookup {input : Json} {result : Entries Json}
    (h : Reflects input result) {key : String} {make : Json → Json}
    (htwice : ∀ value, make (make value) = make value)
    (hkey : ∀ value, input.present? key = some value → key ∈ Entries.keys result) :
    Option.Rel (Repeats result) ((input.present? key).map fun value => (key, make value))
      (((Json.object result).present? key).map fun value => (key, make value)) := by
  cases hv : input.present? key with
  | none =>
      rw [h.absent hv]
      exact Option.Rel.none
  | some value =>
      obtain ⟨again, ha⟩ := (Entries.mem_keys_iff key result).1 (hkey value hv)
      rw [h.present?_object, ha]
      refine Option.Rel.some ⟨rfl, fun hstays => ?_⟩
      have he : again = make value := Option.some.inj (ha.symm.trans hstays)
      calc
        make again = make (make value) := by rw [he]
        _ = make value := htwice value

theorem Reflects.repeats_field {input : Json} {result : Entries Json} (h : Reflects input result)
    {field : Field} (hname : field.IsName)
    (hkey : ∀ pair, field.contribution input = some pair → pair.1 ∈ Entries.keys result) :
    Option.Rel (Repeats result) (field.contribution input)
      (field.contribution (.object result)) := by
  rw [hname.contribution] at hkey ⊢
  rw [hname.contribution]
  refine h.repeats_lookup (fun _ => rfl) fun value hv => ?_
  exact hkey (field.key, value) (by rw [hv]; rfl)

theorem Reflects.repeats_pairs {input : Json} {result : Entries Json} (h : Reflects input result)
    {pairs : List (String × Selector)}
    (hproj : ∀ pair ∈ pairs, ∀ v, pair.2.extract (pair.2.extract v) = pair.2.extract v)
    (hkey : ∀ written, Item.pairsContribution pairs input = some written →
      written.1 ∈ Entries.keys result) :
    Option.Rel (Repeats result) (Item.pairsContribution pairs input)
      (Item.pairsContribution pairs (.object result)) := by
  induction pairs with
  | nil => exact Option.Rel.none
  | cons pair rest ih =>
      simp only [Item.pairsContribution_cons] at hkey ⊢
      have hrest := ih (fun other ho => hproj other (List.mem_cons_of_mem _ ho))
        (fun written hw => hkey written (by rw [hw]; rfl))
      -- either a later pair counts in both runs or none does
      generalize Item.pairsContribution rest input = first at hrest hkey ⊢
      generalize Item.pairsContribution rest (.object result) = second at hrest ⊢
      cases hrest with
      | some hlater => exact Option.Rel.some hlater
      | none =>
          refine h.repeats_lookup (hproj pair List.mem_cons_self) fun value hv => ?_
          exact hkey (pair.1, pair.2.extract value) (by rw [hv]; rfl)

theorem contributions_rel {R : String × Json → String × Json → Prop} {items : List Item}
    {first second : Json}
    (h : ∀ item ∈ items, Option.Rel R (item.contribution first) (item.contribution second)) :
    List.Forall₂ R (Item.contributions items first) (Item.contributions items second) := by
  have hsame : List.Forall₂ (fun item other => item = other ∧ item ∈ items) items items :=
    List.forall₂_same.2 fun item hi => ⟨rfl, hi⟩
  rw [Item.contributions_eq_filterMap, Item.contributions_eq_filterMap]
  refine List.rel_filterMap ?_ hsame
  rintro item _ ⟨rfl, hi⟩
  exact h item hi

theorem get?_of_repeats {result : Entries Json} {first second : List (String × Json)}
    (h : List.Forall₂ (Repeats result) first second) (key : String)
    (hresult : Entries.get? key first = Entries.get? key result) :
    Entries.get? key second = Entries.get? key first := by
  induction h with
  | nil => rfl
  | @cons pair pair' first second hpair _ ih =>
      obtain ⟨hfst, hsnd⟩ := hpair
      by_cases hk : pair.1 = key
      · have hstays : Entries.get? pair.1 result = some pair.2 := by
          rw [hk, ← hresult]
          simp [Entries.get?, hk]
        simp [Entries.get?, hfst, hk, hsnd hstays]
      · have htail := ih (by simpa [Entries.get?, hk] using hresult)
        simpa [Entries.get?, hfst, hk] using htail

theorem Entries.keys_of_forall₂ {R : String × Json → String × Json → Prop}
    (hR : ∀ first second, R first second → second.1 = first.1) {ps qs : List (String × Json)}
    (h : List.Forall₂ R ps qs) : keys qs = keys ps := by
  induction h with
  | nil => rfl
  | cons hpair _ ih =>
      simp only [keys, List.map_cons] at ih ⊢
      rw [hR _ _ hpair, ih]

/-- Pairs that repeat those of a result leave the same result. -/
theorem ofPairs_of_repeats {first second : List (String × Json)}
    (h : List.Forall₂ (Repeats (Entries.ofPairs first)) first second) :
    Entries.ofPairs second = Entries.ofPairs first := by
  refine Entries.ext_get? (Entries.nodup_keys_ofPairs second) ?_ ?_
  · rw [Entries.keys_ofPairs, Entries.keys_ofPairs,
      Entries.keys_of_forall₂ (fun _ _ hpair => hpair.1) h]
  · intro key
    rw [Entries.get?_ofPairs, Entries.get?_ofPairs]
    exact get?_of_repeats (List.rel_reverse h) key (Entries.get?_ofPairs key first).symm

/-- **Projection law.** Extracting again from what was extracted changes nothing. -/
theorem extract_extract (selector : Selector) (hname : selector.EveryField Field.IsName)
    (input : Json) : selector.extract (selector.extract input) = selector.extract input := by
  induction selector using Selector.induction generalizing input with
  | fields items ih =>
      obtain ⟨here, below⟩ := (Selector.everywhere_fields_iff _ items).1 hname
      have hreflects := reflects_contributions input here
      generalize hresult : Entries.ofPairs (Item.contributions items input) = result at hreflects
      have hrepeats : List.Forall₂ (Repeats result) (Item.contributions items input)
          (Item.contributions items (.object result)) := by
        refine contributions_rel fun item hi => ?_
        have hkey : ∀ pair, item.contribution input = some pair →
            pair.1 ∈ Entries.keys result := by
          intro pair hp
          rw [← hresult, Entries.mem_keys_ofPairs, Item.contributions_eq_filterMap]
          exact List.mem_map_of_mem (List.mem_filterMap.2 ⟨item, hi, hp⟩)
        cases item with
        | field field => exact hreflects.repeats_field (here _ hi field rfl) hkey
        | nested pairs =>
            exact hreflects.repeats_pairs
              (fun pair hp v => ih pairs hi pair hp (below pairs hi pair hp) v) hkey
      subst hresult
      exact congrArg Json.object (ofPairs_of_repeats hrepeats)
  | eachItem inner ih =>
      have hinner := (Selector.everywhere_eachItem_iff _ inner).1 hname
      cases input with
      | array elements =>
          simp only [Selector.extract, List.map_map]
          refine congrArg Json.array (List.map_congr_left fun element _ => ?_)
          exact ih hinner element
      | _ => rfl

/-- Two items write `length`, which the first run counts and the second one finds as a key. -/
def lengthTwice : Selector :=
  .fields
    [.nested [("0", .eachItem (.fields [])), ("length", .fields [])],
      .field (.name "b"), .nested [("length", .eachItem (.fields [.field (.name "c")]))]]

theorem extract_extract_lengthTwice :
    lengthTwice.EveryField Field.IsName ∧
      lengthTwice.extract (.array [.null]) = .object [("length", .array [])] ∧
      lengthTwice.extract (lengthTwice.extract (.array [.null])) =
        lengthTwice.extract (.array [.null]) := by
  have hname : lengthTwice.EveryField Field.IsName := by
    have hb : (Field.name "b").IsName := by decide
    have hc : (Field.name "c").IsName := by decide
    simp [Selector.EveryField, lengthTwice, Selector.everywhere_fields_iff,
      Selector.everywhere_eachItem_iff, hb, hc, -Prod.forall]
  exact ⟨hname, by rfl, extract_extract lengthTwice hname _⟩

end Pluck
