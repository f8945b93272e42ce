import Pluck.Proofs.ErrorChains
import Pluck.Proofs.Reading

/-!
Errors locate the first fault.

The path of an error goes down from list to list, each one found under a key of an object in the
list before, and its root cause is the fragment at fault (`Locates`). All that precedes the fault in
the order of the text is accepted: earlier items of each list on the path, and earlier entries of
each object (`FirstItem`, `FirstValue`). Arrays around single arrays leave no trace on the path
(`Json.strip`). The root cause is of one of two kinds (`built_of_ofJson_eq_error`), so errors of
reading are told apart by their JSON forms.
-/

namespace Pluck

/-- The array that stands inside arrays with a single element. -/
def Json.strip : Json → Json
  | .array [.array elements] => strip (.array elements)
  | v => v

theorem Json.strip_list {xs : List Json} (h : ∀ elements, xs ≠ [.array elements]) :
    (Json.array xs).strip = .array xs := by
  rw [Json.strip]
  intro elements e
  exact h elements (Json.array.inj e)

/-- `x` is refused as an item of `list`, after others that are accepted. -/
def FirstItem (list x : Json) : Prop :=
  ∃ before after, list = .array (before ++ x :: after) ∧
    (∀ y ∈ before, ∃ item, Item.ofJson y = .ok item) ∧ ∃ e, Item.ofJson x = .error e

/-- `w` is refused under a key of the first object refused in `list`, after other values that are
accepted. -/
def FirstValue (list w : Json) : Prop :=
  ∃ before key after, FirstItem list (.object (before ++ (key, w) :: after)) ∧
    (∀ entry ∈ before, ∃ selector, Selector.ofJson entry.2 = .ok selector) ∧
    ∃ e, Selector.ofJson w = .error e

/-- A fragment is of a kind that cannot stand in its place: the whole value or a value under a key
is no array, or an item is null or a boolean. -/
def InvalidRoot (v : Json) (path : List Json) (c : Json) : Prop :=
  (path = [] ∧ c = v ∧ c.isArray = false) ∨
    ∃ list ∈ path.getLast?, (FirstItem list c ∧ (c = .null ∨ ∃ b, c = .bool b)) ∨
      (FirstValue list c ∧ c.isArray = false)

/-- An array has neighbours in a list that stands for the whole value or for a value under a key. -/
def MixedRoot (v : Json) (path : List Json) (c : Json) : Prop :=
  ((path = [] ∧ c = v.strip) ∨ ∃ list ∈ path.getLast?, ∃ w, FirstValue list w ∧ c = w.strip) ∧
    ∃ xs, c = .array xs ∧ 2 ≤ xs.length ∧ ∃ x ∈ xs, x.isArray = true

/-- The error points to the first fault of `v`. -/
structure Locates (v : Json) (e : SelectorError) : Prop where
  head : ∀ list ∈ e.path.head?, list = v.strip
  flat : ∀ list ∈ e.path, ∃ xs, list = .array xs ∧ ∀ x ∈ xs, x.isArray = false
  descends : e.path.IsChain fun list next => ∃ w, FirstValue list w ∧ next = w.strip
  root :
    (e.rootCause.message = "Invalid selector" ∧ InvalidRoot v e.path e.rootCause.context) ∨
      (e.rootCause.message = "An each-item array selector can't be mixed with other selectors." ∧
        MixedRoot v e.path e.rootCause.context)

/-! ## The errors of a single level -/

theorem two_le_length_of_mixed {xs : List Json} (hxs : ∀ elements, xs ≠ [.array elements])
    (hany : xs.any Json.isArray = true) : 2 ≤ xs.length := by
  cases xs with
  | nil => simp at hany
  | cons x rest =>
      cases rest with
      | cons y rest => simp
      | nil =>
          cases x with
          | array elements => exact absurd rfl (hxs elements)
          | _ => simp [Json.isArray] at hany

/-- A value is no array, or what it strips to mixes arrays with other items, or an item is
refused. -/
theorem Selector.ofJson_error_cases {v : Json} {e : SelectorError}
    (h : Selector.ofJson v = .error e) :
    (v.isArray = false ∧ e = .invalid v) ∨ ∃ xs, v.strip = .array xs ∧
      ((2 ≤ xs.length ∧ xs.any Json.isArray = true ∧ e = .mixed v.strip) ∨
        (xs.any Json.isArray = false ∧
          ∃ fault, xs.mapM Item.ofJson = .error fault ∧ e = .within v.strip fault)) := by
  induction v using Selector.ofJson_induction with
  | scalar v hscalar =>
      rw [Selector.ofJson_of_not_isArray hscalar] at h
      exact Or.inl ⟨hscalar, (Except.error.inj h).symm⟩
  | single elements ih =>
      rcases ih (Selector.ofJson_single_eq_error_iff.1 h) with ⟨hscalar, -⟩ | hlist
      · cases hscalar
      · rw [Json.strip]
        exact Or.inr hlist
  | list xs hxs _ =>
      rw [Json.strip_list hxs]
      rcases (Selector.ofJson_list_eq_error_iff hxs).1 h with ⟨hany, he⟩ | hitem
      · exact Or.inr ⟨xs, rfl, Or.inl ⟨two_le_length_of_mixed hxs hany, hany, he⟩⟩
      · exact Or.inr ⟨xs, rfl, Or.inr hitem⟩

/-- An item that is refused is null, a boolean or an array, or an object with a value refused. -/
theorem Item.ofJson_error_cases {x : Json} {e : SelectorError} (h : Item.ofJson x = .error e) :
    (e = .invalid x ∧ (x = .null ∨ (∃ b, x = .bool b) ∨ x.isArray = true)) ∨
      ∃ before key w after, x = .object (before ++ (key, w) :: after) ∧
        (∀ entry ∈ before, ∃ selector, Selector.ofJson entry.2 = .ok selector) ∧
        Selector.ofJson w = .error e := by
  cases x with
  | null => exact Or.inl ⟨(Except.error.inj h).symm, Or.inl rfl⟩
  | bool b => exact Or.inl ⟨(Except.error.inj h).symm, Or.inr (Or.inl ⟨b, rfl⟩)⟩
  | array elements => exact Or.inl ⟨(Except.error.inj h).symm, Or.inr (Or.inr rfl)⟩
  | number n => cases h
  | string s => cases h
  | object entries =>
      obtain ⟨before, entry, after, rfl, hbefore, he⟩ :=
        mapM_eq_error_iff.1 (Item.ofJson_object_eq_error_iff.1 h)
      refine Or.inr ⟨before, entry.1, entry.2, after, rfl, ?_, Item.entryOfJson_eq_error_iff.1 he⟩
      intro other ho
      obtain ⟨pair, hp⟩ := hbefore other ho
      exact ⟨pair.2, (Item.entryOfJson_eq_ok_iff.1 hp).2⟩

/-- To prove something of all errors of reading, prove it of those of the whole value and of an item
of its list, and for a value under a key take it up from that value. -/
theorem Selector.ofJson_error_induction {motive : Json → SelectorError → Prop}
    (invalid : ∀ v, v.isArray = false → motive v (.invalid v))
    (mixed : ∀ v xs, v.strip = .array xs → 2 ≤ xs.length → xs.any Json.isArray = true →
      motive v (.mixed v.strip))
    (item : ∀ v xs x, v.strip = .array xs → (∀ y ∈ xs, y.isArray = false) → FirstItem v.strip x →
      (x = .null ∨ ∃ b, x = .bool b) → motive v (.within v.strip (.invalid x)))
    (value : ∀ v xs w fault, v.strip = .array xs → (∀ y ∈ xs, y.isArray = false) →
      FirstValue v.strip w → motive w fault → motive v (.within v.strip fault))
    {v : Json} {e : SelectorError} (h : Selector.ofJson v = .error e) : motive v e := by
  -- the induction is on the wrappers; each stands for one list on the way to the fault
  induction e generalizing v with
  | root message c =>
      rcases Selector.ofJson_error_cases h with
        ⟨hscalar, he⟩ | ⟨xs, hv, ⟨hlength, hany, he⟩ | ⟨-, _, -, he⟩⟩
      · rw [he]
        exact invalid v hscalar
      · rw [he]
        exact mixed v xs hv hlength hany
      · cases he
  | within list fault ih =>
      rcases Selector.ofJson_error_cases h with
        ⟨-, he⟩ | ⟨xs, hv, ⟨-, -, he⟩ | ⟨hnone, _, hfault, he⟩⟩
      · cases he
      · cases he
      · obtain ⟨rfl, rfl⟩ := SelectorError.within.inj he
        have hflat : ∀ x ∈ xs, x.isArray = false := by simpa using hnone
        obtain ⟨before, x, after, hxs, hbefore, hx⟩ := mapM_eq_error_iff.1 hfault
        have hitem : FirstItem v.strip x := ⟨before, after, hxs ▸ hv, hbefore, fault, hx⟩
        rcases Item.ofJson_error_cases hx with
          ⟨rfl, hkind⟩ | ⟨front, key, w, back, rfl, hfront, hw⟩
        · refine item v xs x hv hflat hitem ?_
          rcases hkind with hnull | hbool | harray
          · exact Or.inl hnull
          · exact Or.inr hbool
          · have hnot : x.isArray = false := hflat x (by simp [hxs])
            rw [hnot] at harray
            cases harray
        · have hvalue : FirstValue v.strip w := ⟨front, key, back, hitem, hfront, fault, hw⟩
          exact value v xs w fault hv hflat hvalue (ih hw)

/-- Every error of reading is built from an invalid fragment or a mixed list. -/
theorem built_of_ofJson_eq_error {v : Json} {e : SelectorError}
    (h : Selector.ofJson v = .error e) : e.Built := by
  refine Selector.ofJson_error_induction (motive := fun _ e => e.Built) ?invalid ?mixed ?item
    ?value h
  case invalid =>
    intro v _
    exact .invalid v
  case mixed =>
    intro v _ _ _ _
    exact .mixed v.strip
  case item =>
    intro v _ x _ _ _ _
    exact .within v.strip (.invalid x)
  case value =>
    intro v _ _ _ _ _ _ ih
    exact .within v.strip ih

/-! ## From one level to the next -/

theorem Locates.invalid {v : Json} (hscalar : v.isArray = false) : Locates v (.invalid v) where
  head := by simp
  flat := by simp
  descends := by simp
  root := Or.inl ⟨rfl, Or.inl ⟨rfl, rfl, hscalar⟩⟩

theorem Locates.mixed {v : Json} {xs : List Json} (hv : v.strip = .array xs)
    (hlength : 2 ≤ xs.length) (hany : xs.any Json.isArray = true) :
    Locates v (.mixed v.strip) where
  head := by simp
  flat := by simp
  descends := by simp
  root := Or.inr ⟨rfl, Or.inl ⟨rfl, rfl⟩, xs, hv, hlength, List.any_eq_true.1 hany⟩

section Level

variable {v : Json} {xs : List Json} (hv : v.strip = .array xs)
  (hflat : ∀ x ∈ xs, x.isArray = false)

include hv hflat

theorem Locates.within_item {x : Json} (hx : FirstItem v.strip x)
    (hkind : x = .null ∨ ∃ b, x = .bool b) : Locates v (.within v.strip (.invalid x)) where
  head := by simp [SelectorError.path]
  flat := by simpa [SelectorError.path] using ⟨xs, hv, hflat⟩
  descends := by simp [SelectorError.path]
  root := Or.inl ⟨rfl, Or.inr ⟨v.strip, by simp [SelectorError.path], Or.inl ⟨hx, hkind⟩⟩⟩

/-- What locates a fault in a value under a key locates it, one level up, in the whole. -/
theorem Locates.within_value {w : Json} {fault : SelectorError} (hw : FirstValue v.strip w)
    (h : Locates w fault) : Locates v (.within v.strip fault) where
  head := by simp [SelectorError.path]
  flat := by
    intro list hlist
    rcases List.mem_cons.1 hlist with rfl | hrest
    · exact ⟨xs, hv, hflat⟩
    · exact h.flat list hrest
  descends := by
    refine h.descends.cons ?_
    intro next hnext
    exact ⟨w, hw, h.head next hnext⟩
  root := by
    have hlast : ∀ list ∈ fault.path.getLast?, list ∈ (v.strip :: fault.path).getLast? := by
      intro list hlist
      rw [List.getLast?_cons, Option.mem_def.1 hlist]
      exact rfl
    refine h.root.imp (And.imp_right ?_) (And.imp_right ?_)
    · rintro (⟨hnil, hc, hscalar⟩ | ⟨list, hlist, hroot⟩)
      · refine Or.inr ⟨v.strip, by simp [SelectorError.path, hnil], Or.inr ⟨?_, hscalar⟩⟩
        exact hc ▸ hw
      · exact Or.inr ⟨list, hlast list hlist, hroot⟩
    · rintro ⟨⟨hnil, hc⟩ | ⟨list, hlist, hroot⟩, hmixed⟩
      · exact ⟨Or.inr ⟨v.strip, by simp [SelectorError.path, hnil], w, hw, hc⟩, hmixed⟩
      · exact ⟨Or.inr ⟨list, hlast list hlist, hroot⟩, hmixed⟩

end Level

/-- **First fault.** Every error of reading locates the first fault. -/
theorem locates_of_ofJson_eq_error {v : Json} {e : SelectorError}
    (h : Selector.ofJson v = .error e) : Locates v e := by
  refine Selector.ofJson_error_induction ?invalid ?mixed ?item ?value h
  case invalid =>
    intro v hscalar
    exact Locates.invalid hscalar
  case mixed =>
    intro v xs hv hlength hany
    exact Locates.mixed hv hlength hany
  case item =>
    intro v xs x hv hflat hx hkind
    exact Locates.within_item hv hflat hx hkind
  case value =>
    intro v xs w fault hv hflat hw ih
    exact Locates.within_value hv hflat hw ih

/-! Three lists inside each other, the first two of them in further arrays; the last one holds a
null. -/

def lastList : Json := .array [.string "c", .null]

def middleList : Json := .array [.object [("z", lastList)]]

def outerList : Json := .array [.string "a", .object [("x", .array []), ("y", .array [middleList])]]

theorem locates_null_in_lastList :
    Selector.ofJson (.array [outerList]) =
        .error (.within outerList (.within middleList (.within lastList (.invalid .null)))) ∧
      Locates (.array [outerList])
        (.within outerList (.within middleList (.within lastList (.invalid .null)))) := by
  have h : Selector.ofJson (.array [outerList]) =
      .error (.within outerList (.within middleList (.within lastList (.invalid .null)))) := by
    rfl
  exact ⟨h, locates_of_ofJson_eq_error h⟩

end Pluck
