import Mathlib.Data.List.Perm.Subperm
import Pluck.Proofs.Overwriting
import Pluck.Proofs.Projection

/-!
The order of the entries in an input.

Two values are similar if nothing but the order of entries tells them apart, at whatever depth
(`Json.Similar`); this is the equality of values (`Json.equal_iff_similar`). In similar values every
lookup finds similar values, and so extraction from them gives similar results (`similar_extract`).
Where a result is built by items (`Selector.Builds`) even the order of its keys is the same: the
order of an input is only seen in what is copied from it.
-/

namespace Pluck

/-- The values differ in the order of entries at most. Numbers are compared by value, so the two
zeros are one. -/
inductive Json.Similar : Json → Json → Prop
  | null : Similar .null .null
  | bool (b : Bool) : Similar (.bool b) (.bool b)
  | number {m n : Number} (h : m.equal n = true) : Similar (.number m) (.number n)
  | string (s : String) : Similar (.string s) (.string s)
  | array {xs ys : List Json} (hlength : xs.length = ys.length)
      (h : ∀ (i : Nat) (x y : Json), xs[i]? = some x → ys[i]? = some y → Similar x y) :
      Similar (.array xs) (.array ys)
  | object {es fs : List (String × Json)} (hkeys : (Entries.keys es).Perm (Entries.keys fs))
      (h : ∀ key x y, Entries.get? key es = some x → Entries.get? key fs = some y → Similar x y) :
      Similar (.object es) (.object fs)

/-! ## Similarity is the equality of values -/

namespace Json

theorem Similar.refl (v : Json) : v.Similar v := by
  induction v using Json.induction with
  | null => exact Similar.null
  | bool b => exact Similar.bool b
  | number n => exact Similar.number (Number.equal_iff.2 (Or.inl rfl))
  | string s => exact Similar.string s
  | array elements ih =>
      refine Similar.array rfl fun i x y hx hy => ?_
      obtain rfl := Option.some.inj (hx.symm.trans hy)
      exact ih x (List.mem_of_getElem? hx)
  | object entries ih =>
      refine Similar.object (List.Perm.refl _) fun key x y hx hy => ?_
      obtain rfl := Option.some.inj (hx.symm.trans hy)
      exact ih (key, x) (Entries.mem_of_get? hx)

theorem equalElements_iff {xs ys : List Json} :
    equalElements xs ys = true ↔ List.Forall₂ (fun x y => x.equal y = true) xs ys := by
  induction xs generalizing ys with
  | nil => cases ys <;> simp [equalElements]
  | cons x xs ih => cases ys <;> simp [equalElements, ih]

theorem equalEntries_iff {es fs : Entries Json} :
    equalEntries es fs = true ↔
      ∀ entry ∈ es, ∃ y, Entries.get? entry.1 fs = some y ∧ entry.2.equal y = true := by
  induction es with
  | nil => simp [equalEntries]
  | cons entry rest ih =>
      rw [equalEntries, Bool.and_eq_true, List.forall_mem_cons, ih]
      cases Entries.get? entry.1 fs <;> simp

theorem similar_of_equal {a b : Json} (ha : a.WellFormed) (hb : b.WellFormed)
    (h : a.equal b = true) : a.Similar b := by
  induction a using Json.induction generalizing b with
  | array xs ih =>
      cases b with
      | array ys =>
          rw [wellFormed_array_iff] at ha hb
          rw [equal, equalElements_iff, List.forall₂_iff_get] at h
          obtain ⟨hlength, helements⟩ := h
          refine Similar.array hlength fun i x y hx hy => ?_
          obtain ⟨hi, rfl⟩ := List.getElem?_eq_some_iff.1 hx
          obtain ⟨hj, rfl⟩ := List.getElem?_eq_some_iff.1 hy
          have hwx := ha xs[i] (List.getElem_mem hi)
          have hwy := hb ys[i] (List.getElem_mem hj)
          exact ih xs[i] (List.getElem_mem hi) hwx hwy (helements i hi hj)
      | _ => simp [equal] at h
  | object es ih =>
      cases b with
      | object fs =>
          obtain ⟨honce, hvalues⟩ := (wellFormed_object_iff es).1 ha
          have hvalues' := ((wellFormed_object_iff fs).1 hb).2
          rw [equal, Bool.and_eq_true, beq_iff_eq, equalEntries_iff] at h
          obtain ⟨hlength, hentries⟩ := h
          have hkeys : Entries.keys es ⊆ Entries.keys fs := by
            intro key hkey
            obtain ⟨entry, he, rfl⟩ := List.mem_map.1 hkey
            obtain ⟨y, hy, -⟩ := hentries entry he
            exact (Entries.mem_keys_iff entry.1 fs).2 ⟨y, hy⟩
          refine Similar.object ?_ fun key x y hx hy => ?_
          · exact (honce.subperm hkeys).perm_of_length_le (by simp [Entries.keys, hlength])
          · have hmem := Entries.mem_of_get? hx
            obtain ⟨z, hz, hxz⟩ := hentries (key, x) hmem
            obtain rfl := Option.some.inj (hz.symm.trans hy)
            have hwz := hvalues' (key, z) (Entries.mem_of_get? hy)
            exact ih (key, x) hmem (hvalues _ hmem) hwz hxz
      | _ => simp [equal] at h
  | null => cases b with
    | null => exact Similar.null
    | _ => simp [equal] at h
  | bool p => cases b with
    | bool q =>
        obtain rfl := beq_iff_eq.1 h
        exact Similar.bool p
    | _ => simp [equal] at h
  | number m => cases b with
    | number n => exact Similar.number h
    | _ => simp [equal] at h
  | string s => cases b with
    | string t =>
        obtain rfl := beq_iff_eq.1 h
        exact Similar.string s
    | _ => simp [equal] at h

theorem equal_of_similar {a b : Json} (ha : a.WellFormed) (h : a.Similar b) :
    a.equal b = true := by
  induction h with
  | null => rfl
  | bool b => simp [equal]
  | number h => exact h
  | string s => simp [equal]
  | @array xs ys hlength _ ih =>
      rw [wellFormed_array_iff] at ha
      rw [equal, equalElements_iff, List.forall₂_iff_get]
      refine ⟨hlength, fun i hi hj => ?_⟩
      exact ih i xs[i] ys[i] (List.getElem?_eq_getElem hi) (List.getElem?_eq_getElem hj)
        (ha xs[i] (List.getElem_mem hi))
  | @object es fs hkeys _ ih =>
      obtain ⟨honce, hvalues⟩ := (wellFormed_object_iff es).1 ha
      rw [equal, Bool.and_eq_true, beq_iff_eq, equalEntries_iff]
      refine ⟨by simpa [Entries.keys] using hkeys.length_eq, fun entry he => ?_⟩
      have hkey : entry.1 ∈ Entries.keys fs := hkeys.subset (List.mem_map_of_mem he)
      obtain ⟨y, hy⟩ := (Entries.mem_keys_iff entry.1 fs).1 hkey
      exact ⟨y, hy, ih entry.1 entry.2 y (Entries.get?_of_mem honce he) hy (hvalues entry he)⟩

/-- Similarity is the equality of values. -/
theorem equal_iff_similar {a b : Json} (ha : a.WellFormed) (hb : b.WellFormed) :
    a.equal b = true ↔ a.Similar b :=
  ⟨similar_of_equal ha hb, equal_of_similar ha⟩

end Json

/-! ## Lookups -/

section Related

variable {α β : Type} {R : β → β → Prop}

theorem Option.rel_or {x x' y y' : Option β} (h : Option.Rel R x x') (h' : Option.Rel R y y') :
    Option.Rel R (x.or y) (x'.or y') := by
  cases h with
  | some hx => exact Option.Rel.some hx
  | none => exact h'

theorem Option.rel_bind {f g : α → Option β} (h : ∀ a, Option.Rel R (f a) (g a)) (o : Option α) :
    Option.Rel R (o.bind f) (o.bind g) := by
  cases o with
  | none => exact Option.Rel.none
  | some a => exact h a

theorem Option.rel_map {S : α → α → Prop} {f g : β → α} (hfg : ∀ x y, R x y → S (f x) (g y))
    {x y : Option β} (h : Option.Rel R x y) : Option.Rel S (x.map f) (y.map g) := by
  cases h with
  | some hxy => exact Option.Rel.some (hfg _ _ hxy)
  | none => exact Option.Rel.none

theorem Option.rel_filter {p : β → Bool} (hp : ∀ x y, R x y → p x = p y) {x y : Option β}
    (h : Option.Rel R x y) : Option.Rel R (x.filter p) (y.filter p) := by
  cases h with
  | none => exact Option.Rel.none
  | @some x y hxy =>
      rw [Option.filter_some, Option.filter_some, hp x y hxy]
      split
      · exact Option.Rel.some hxy
      · exact Option.Rel.none

end Related

/-- Zeros of either sign have the same sums, but for the sign of a zero, which is not spelled. -/
theorem Binary64.key_add_of_isZero {x y : Binary64} (hx : x.isZero = true) (hy : y.isZero = true)
    (z : Binary64) : ((x.add z).bind fun sum => some (Number.float sum).key) =
      (y.add z).bind fun sum => some (Number.float sum).key := by
  have hunits : ∀ w : Binary64, w.isZero = true → w.signedUnits = 0 := by
    intro w hw
    have hrank : w.rank = 0 := beq_iff_eq.1 hw
    simp [signedUnits, units, hrank, unitsOfRank, significandOfRank]
  have hzero : ∀ negative, (Number.float (zero negative)).key = "0" := by decide +kernel
  rw [add, add, hunits x hx, hunits y hy]
  by_cases hz : (0 : Int) + z.signedUnits = 0
  · simp only [if_pos hz, Option.bind_some, hzero]
  · simp only [if_neg hz]

theorem Number.bind_key_of_equal {m n : Number} (h : m.equal n = true) (index : Option Binary64) :
    (do let place ← (← m.toBinary64).add (← index); some (Number.float place).key) =
      (do let place ← (← n.toBinary64).add (← index); some (Number.float place).key) := by
  rcases Number.equal_iff.1 h with rfl | ⟨x, y, rfl, rfl, hx, hy⟩
  · rfl
  · simp only [toBinary64, Option.bind_eq_bind, Option.bind_some]
    exact Option.bind_congr fun z _ => Binary64.key_add_of_isZero hx hy z

namespace Json

theorem Similar.isTruthy {a b : Json} (h : a.Similar b) : a.isTruthy = b.isTruthy := by
  cases h with
  | number hmn =>
      rcases Number.equal_iff.1 hmn with rfl | ⟨x, y, rfl, rfl, hx, hy⟩
      · rfl
      · simp [Json.isTruthy, Number.isZero, hx, hy]
  | _ => rfl

theorem Similar.rel_refl (found : Option Json) : Option.Rel Similar found found := by
  cases found with
  | none => exact Option.Rel.none
  | some v => exact Option.Rel.some (Similar.refl v)

theorem Similar.elements {xs : List Json} {b : Json} (h : (Json.array xs).Similar b) :
    ∃ ys, b = .array ys ∧ xs.length = ys.length ∧
      ∀ i : Nat, Option.Rel Similar xs[i]? ys[i]? := by
  cases h with
  | @array _ ys hlength h =>
      refine ⟨ys, rfl, hlength, fun i => ?_⟩
      by_cases hi : i < xs.length
      · have hx := List.getElem?_eq_getElem hi
        have hy := List.getElem?_eq_getElem (hlength ▸ hi)
        rw [hx, hy]
        exact Option.Rel.some (h i _ _ hx hy)
      · rw [List.getElem?_eq_none (by omega), List.getElem?_eq_none (by omega)]
        exact Option.Rel.none

theorem Similar.entries {es : Entries Json} {b : Json} (h : (Json.object es).Similar b) :
    ∃ fs, b = .object fs ∧
      ∀ key, Option.Rel Similar (Entries.get? key es) (Entries.get? key fs) := by
  cases h with
  | @object _ fs hkeys h =>
      refine ⟨fs, rfl, fun key => ?_⟩
      have hmem : key ∈ Entries.keys es ↔ key ∈ Entries.keys fs := hkeys.mem_iff
      rw [Entries.mem_keys_iff, Entries.mem_keys_iff] at hmem
      cases hx : Entries.get? key es with
      | none =>
          cases hy : Entries.get? key fs with
          | none => exact Option.Rel.none
          | some y => simp [hx, hy] at hmem
      | some x =>
          cases hy : Entries.get? key fs with
          | none => simp [hx, hy] at hmem
          | some y => exact Option.Rel.some (h key x y hx hy)

theorem Similar.property? {a b : Json} (h : a.Similar b) (key : String) :
    Option.Rel Similar (a.property? key) (b.property? key) := by
  cases a with
  | object es =>
      obtain ⟨fs, rfl, hvalues⟩ := h.entries
      exact hvalues key
  | array xs =>
      obtain ⟨ys, rfl, hlength, helements⟩ := h.elements
      rw [Json.property?, Json.property?, hlength]
      split
      · exact Similar.rel_refl _
      · exact Option.rel_bind helements _
  | null | bool | number | string =>
      cases h
      exact Similar.rel_refl _

theorem Similar.present? {a b : Json} (h : a.Similar b) (key : String) :
    Option.Rel Similar (a.present? key) (b.present? key) :=
  Option.rel_filter (fun _ _ hxy => hxy.isTruthy) (h.property? key)

theorem Similar.indexKey? {es fs : Entries Json}
    (h : Option.Rel Similar (Entries.get? "length" es) (Entries.get? "length" fs)) (index : Int) :
    es.indexKey? index = fs.indexKey? index := by
  unfold Entries.indexKey?
  generalize Entries.get? "length" es = first at h
  generalize Entries.get? "length" fs = second at h
  by_cases hi : 0 ≤ index
  · rw [if_pos hi, if_pos hi]
  · rw [if_neg hi, if_neg hi]
    cases h with
    | none => rfl
    | some hxy => cases hxy with
      | number hmn => simp only [Number.bind_key_of_equal hmn]
      | _ => rfl

theorem Similar.elementAt? {a b : Json} (h : a.Similar b) (index : Int) :
    Option.Rel Similar (a.elementAt? index) (b.elementAt? index) := by
  cases a with
  | object es =>
      obtain ⟨fs, rfl, hvalues⟩ := h.entries
      rw [elementAt?_object, elementAt?_object, Similar.indexKey? (hvalues "length")]
      exact Option.rel_bind hvalues _
  | array xs =>
      obtain ⟨ys, rfl, hlength, helements⟩ := h.elements
      rw [Json.elementAt?, Json.elementAt?, hlength]
      exact Option.rel_bind helements _
  | null | bool | number | string =>
      cases h
      exact Similar.rel_refl _

theorem Similar.resolveKey? {a b : Json} (h : a.Similar b) (key : String) :
    Option.Rel Similar (a.resolveKey? key) (b.resolveKey? key) := by
  rw [resolveKey?_eq, resolveKey?_eq]
  exact Option.rel_or (h.present? key) (Option.rel_bind h.elementAt? _)

theorem Similar.resolve? {a b : Json} (h : a.Similar b) (key : String) :
    Option.Rel Similar (a.resolve? key) (b.resolve? key) := by
  have hkey := h.resolveKey? key
  cases a with
  | array xs =>
      obtain ⟨ys, rfl, hlength, helements⟩ := h.elements
      rw [Json.resolve?, Json.resolve?, hlength, List.getLast?_eq_getElem?,
        List.getLast?_eq_getElem?, hlength]
      split
      · exact Similar.rel_refl _
      · split
        · exact helements _
        · exact hkey
  | object es =>
      obtain ⟨fs, rfl, -⟩ := h.entries
      exact hkey
  | null | bool | number | string =>
      cases h
      exact hkey

end Json
/-! ## Items -/

/-- Similar values under one key. -/
def SimilarPair (first second : String × Json) : Prop :=
  second.1 = first.1 ∧ first.2.Similar second.2

theorem Entries.get?_similar {ps qs : List (String × Json)} (h : List.Forall₂ SimilarPair ps qs)
    (key : String) : Option.Rel Json.Similar (get? key ps) (get? key qs) := by
  induction h with
  | nil => exact Option.Rel.none
  | @cons p q ps qs hpair _ ih =>
      obtain ⟨hkey, hvalue⟩ := hpair
      rw [get?, get?, hkey]
      split
      · exact Option.Rel.some hvalue
      · exact ih

theorem Entries.keys_ofPairs_similar {ps qs : List (String × Json)}
    (h : List.Forall₂ SimilarPair ps qs) : keys (ofPairs qs) = keys (ofPairs ps) := by
  rw [keys_ofPairs, keys_ofPairs, keys_of_forall₂ (fun _ _ hpair => hpair.1) h]

theorem Entries.similar_ofPairs {ps qs : List (String × Json)}
    (h : List.Forall₂ SimilarPair ps qs) :
    (Json.object (ofPairs ps)).Similar (.object (ofPairs qs)) := by
  refine Json.Similar.object ?_ fun key x y hx hy => ?_
  · rw [keys_ofPairs_similar h]
  · have hvalues := get?_similar (List.rel_reverse h) key
    rw [← get?_ofPairs, ← get?_ofPairs, hx, hy] at hvalues
    cases hvalues with
    | some hxy => exact hxy

section Items

variable {a b : Json} (h : a.Similar b)

include h

theorem Field.contribution_similar (field : Field) :
    Option.Rel SimilarPair (field.contribution a) (field.contribution b) := by
  have hfound := h.resolve? field.key
  unfold contribution
  generalize a.resolve? field.key = first at hfound
  generalize b.resolve? field.key = second at hfound
  cases hfound with
  | none => exact Option.Rel.none
  | some hxy =>
      cases hxy with
      | null => exact Option.Rel.none
      | bool b => exact Option.Rel.some ⟨rfl, Json.Similar.bool b⟩
      | number hmn => exact Option.Rel.some ⟨rfl, Json.Similar.number hmn⟩
      | string s => exact Option.Rel.some ⟨rfl, Json.Similar.string s⟩
      | array hlength hxs => exact Option.Rel.some ⟨rfl, Json.Similar.array hlength hxs⟩
      | object hkeys hvalues => exact Option.Rel.some ⟨rfl, Json.Similar.object hkeys hvalues⟩

theorem Item.pairsContribution_similar {pairs : List (String × Selector)}
    (ih : ∀ pair ∈ pairs, ∀ x y, x.Similar y → (pair.2.extract x).Similar (pair.2.extract y)) :
    Option.Rel SimilarPair (Item.pairsContribution pairs a) (Item.pairsContribution pairs b) := by
  induction pairs with
  | nil => exact Option.Rel.none
  | cons pair rest ihrest =>
      rw [Item.pairsContribution_cons, Item.pairsContribution_cons]
      have hlater := ihrest fun other ho => ih other (List.mem_cons_of_mem _ ho)
      refine Option.rel_or hlater (Option.rel_map (fun x y hxy => ⟨rfl, ?_⟩) (h.present? pair.1))
      exact ih pair List.mem_cons_self x y hxy

theorem Item.contribution_similar {item : Item}
    (ih : ∀ pairs, item = .nested pairs → ∀ pair ∈ pairs, ∀ x y, x.Similar y →
      (pair.2.extract x).Similar (pair.2.extract y)) :
    Option.Rel SimilarPair (item.contribution a) (item.contribution b) := by
  cases item with
  | field field => exact Field.contribution_similar h field
  | nested pairs => exact Item.pairsContribution_similar h (ih pairs rfl)

end Items

theorem Json.Similar.extract (selector : Selector) {a b : Json} (h : a.Similar b) :
    (selector.extract a).Similar (selector.extract b) := by
  induction selector using Selector.induction generalizing a b with
  | fields items ih =>
      refine Entries.similar_ofPairs (contributions_rel fun item hi => ?_)
      refine Item.contribution_similar h ?_
      rintro pairs rfl pair hp x y hxy
      exact ih pairs hi pair hp hxy
  | eachItem inner ih =>
      cases a with
      | array xs =>
          obtain ⟨ys, rfl, hlength, helements⟩ := h.elements
          refine Json.Similar.array (by simpa using hlength) fun i x y hx hy => ?_
          have hpair := helements i
          rw [List.getElem?_map, Option.map_eq_some_iff] at hx hy
          obtain ⟨x', hx', rfl⟩ := hx
          obtain ⟨y', hy', rfl⟩ := hy
          rw [hx', hy'] at hpair
          cases hpair with
          | some hxy => exact ih hxy
      | object es =>
          obtain ⟨fs, rfl, -⟩ := h.entries
          exact Json.Similar.refl _
      | null | bool | number | string =>
          cases h
          exact Json.Similar.refl _

/-- Items write the same keys in the same order. -/
theorem Json.Similar.keys_contributions (items : List Item) {a b : Json} (h : a.Similar b) :
    Entries.keys (Entries.ofPairs (Item.contributions items a)) =
      Entries.keys (Entries.ofPairs (Item.contributions items b)) := by
  have hpairs : List.Forall₂ SimilarPair (Item.contributions items a)
      (Item.contributions items b) :=
    contributions_rel fun item _ => Item.contribution_similar h fun _ _ pair _ _ _ hxy =>
      hxy.extract pair.2
  exact (Entries.keys_ofPairs_similar hpairs).symm

theorem Json.Similar.writes_iff {a b : Json} (h : a.Similar b) (item : Item) (key : String) :
    item.Writes a key ↔ item.Writes b key := by
  have hitem : Option.Rel SimilarPair (item.contribution a) (item.contribution b) :=
    Item.contribution_similar h fun _ _ pair _ _ _ hxy => hxy.extract pair.2
  unfold Item.Writes
  generalize item.contribution a = first at hitem
  generalize item.contribution b = second at hitem
  cases hitem with
  | none => rfl
  | some hpair => simp [hpair.1]

/-! ## Where items build a result -/

/-- A step from a value to one in it. -/
inductive Step where
  | place (i : Nat)
  | key (key : String)

def Json.step? : Json → Step → Option Json
  | .array elements, .place i => elements[i]?
  | .object entries, .key key => Entries.get? key entries
  | _, _ => none

/-- The value at the end of a path. -/
def Json.at? (v : Json) : List Step → Option Json
  | [] => some v
  | step :: path => (v.step? step).bind fun x => x.at? path

/-- At the end of the path, the result of the selector for the input is what the items make of a
part of the input: the items are those of the selector itself, of the selector of an element, or of
the pair that counts in the last item that writes the key. -/
inductive Selector.Builds : Selector → Json → List Step → List Item → Json → Prop
  | here {items : List Item} {input : Json} : Builds (.fields items) input [] items input
  | element {inner : Selector} {elements : List Json} {i : Nat} {x : Json} {path : List Step}
      {items : List Item} {part : Json} (hx : elements[i]? = some x)
      (h : Builds inner x path items part) :
      Builds (.eachItem inner) (.array elements) (.place i :: path) items part
  | entry {before after : List Item} {earlier later : List (String × Selector)} {key : String}
      {selector : Selector} {input value : Json} {path : List Step} {items : List Item}
      {part : Json} (hlast : ∀ item ∈ after, ¬ item.Writes input key)
      (hvalue : input.present? key = some value)
      (hcounts : ∀ pair ∈ later, input.present? pair.1 = none)
      (h : Builds selector value path items part) :
      Builds (.fields (before ++ .nested (earlier ++ (key, selector) :: later) :: after)) input
        (.key key :: path) items part

/-- The last pair with a value counts. -/
theorem Item.pairsContribution_of_last {earlier later : List (String × Selector)} {key : String}
    {selector : Selector} {input value : Json} (hvalue : input.present? key = some value)
    (hcounts : ∀ pair ∈ later, input.present? pair.1 = none) :
    Item.pairsContribution (earlier ++ (key, selector) :: later) input =
      some (key, selector.extract value) := by
  have hnone : Item.pairsContribution later input = none := by
    induction later with
    | nil => rfl
    | cons pair rest ih =>
        rw [Item.pairsContribution_cons, hcounts pair List.mem_cons_self,
          ih fun other ho => hcounts other (List.mem_cons_of_mem _ ho)]
        rfl
  induction earlier with
  | nil =>
      rw [List.nil_append, Item.pairsContribution_cons, hnone, hvalue]
      rfl
  | cons pair rest ih =>
      rw [List.cons_append, Item.pairsContribution_cons, ih]
      rfl

theorem Selector.Builds.at?_extract {selector : Selector} {input : Json} {path : List Step}
    {items : List Item} {part : Json} (h : selector.Builds input path items part) :
    (selector.extract input).at? path = some ((Selector.fields items).extract part) := by
  induction h with
  | here => rfl
  | @element inner elements i x path items part hx _ ih =>
      have hstep : ((Selector.eachItem inner).extract (.array elements)).step? (.place i) =
          some (inner.extract x) := by
        simp [Selector.extract, Json.step?, hx]
      rw [Json.at?, hstep]
      exact ih
  | @entry before after earlier later key selector input value path items part hlast hvalue
      hcounts _ ih =>
      have hwritten : Item.pairsContribution (earlier ++ (key, selector) :: later) input =
          some (key, selector.extract value) := Item.pairsContribution_of_last hvalue hcounts
      have hstep : ((Selector.fields
          (before ++ .nested (earlier ++ (key, selector) :: later) :: after)).extract input).step?
            (.key key) = some (selector.extract value) :=
        ((gathers_ofPairs_contributions _ input).last key _).2
          ⟨before, _, after, rfl, hwritten, hlast⟩
      rw [Json.at?, hstep]
      exact ih

theorem Selector.Builds.exists_similar {selector : Selector} {a b : Json} {path : List Step}
    {items : List Item} {part : Json} (h : selector.Builds a path items part)
    (hab : a.Similar b) : ∃ other, selector.Builds b path items other ∧ part.Similar other := by
  induction h generalizing b with
  | here => exact ⟨b, .here, hab⟩
  | @element inner elements i x path items part hx _ ih =>
      obtain ⟨ys, rfl, -, helements⟩ := hab.elements
      have hpair := helements i
      rw [hx] at hpair
      generalize hy : ys[i]? = found at hpair
      cases hpair with
      | some hxy =>
          obtain ⟨other, hother, hpart⟩ := ih hxy
          exact ⟨other, .element hy hother, hpart⟩
  | @entry before after earlier later key selector input value path items part hlast hvalue
      hcounts _ ih =>
      have hpair := hab.present? key
      rw [hvalue] at hpair
      generalize hy : b.present? key = found at hpair
      cases hpair with
      | some hxy =>
          obtain ⟨other, hother, hpart⟩ := ih hxy
          refine ⟨other, .entry (fun item hi => ?_) hy (fun pair hp => ?_) hother, hpart⟩
          · rw [← hab.writes_iff item key]
            exact hlast item hi
          · have habsent := hab.present? pair.1
            rw [hcounts pair hp] at habsent
            generalize b.present? pair.1 = found at habsent ⊢
            cases habsent
            rfl

/-- **Reordering.** Extraction from similar inputs gives similar results. Whatever items build, at
any depth of the first result, stands at the same path in the second one, with the same keys in the
same order. -/
theorem similar_extract {a b : Json} (h : a.Similar b) (selector : Selector) :
    (selector.extract a).Similar (selector.extract b) ∧
      ∀ path items part, selector.Builds a path items part →
        ∃ other es fs, selector.Builds b path items other ∧
          (selector.extract a).at? path = some (.object es) ∧
          (selector.extract b).at? path = some (.object fs) ∧
          Entries.keys es = Entries.keys fs := by
  refine ⟨h.extract selector, fun path items part hbuilds => ?_⟩
  obtain ⟨other, hother, hpart⟩ := hbuilds.exists_similar h
  exact ⟨other, _, _, hother, hbuilds.at?_extract, hother.at?_extract,
    hpart.keys_contributions items⟩

/-! Two tables whose rows have their entries in opposite orders, and whose lengths are zeros of
opposite signs: either way the key `-01` leads to `-1`. -/

def rowsOfTable : Selector :=
  .fields [.field (.name "-01"), .nested [("rows", .eachItem (.fields [])),
    ("rows", .eachItem (.fields [.field (.name "b"), .field (.name "a")])), ("title", .fields [])]]

def firstTable : Json :=
  .object [("length", .number (.float (Binary64.zero false))), ("-1", .string "c"),
    ("rows", .array [.null,
      .object [("a", .object [("x", .null), ("y", .null)]), ("b", .bool true)]])]

def secondTable : Json :=
  .object
    [("rows", .array [.null,
        .object [("b", .bool true), ("a", .object [("y", .null), ("x", .null)])]]),
      ("-1", .string "c"), ("length", .number (.float (Binary64.zero true)))]

theorem similar_extract_rowsOfTable :
    firstTable.Similar secondTable ∧
      (rowsOfTable.extract firstTable).Similar (rowsOfTable.extract secondTable) ∧
      ∃ es fs, (rowsOfTable.extract firstTable).at? [.key "rows", .place 1] = some (.object es) ∧
        (rowsOfTable.extract secondTable).at? [.key "rows", .place 1] = some (.object fs) ∧
        Entries.keys es = Entries.keys fs := by
  have hfirst : firstTable.WellFormed := by
    simp [firstTable, Json.WellFormed, Json.WellFormedElements, Json.WellFormedEntries,
      Entries.keys]
  have hsecond : secondTable.WellFormed := by
    simp [secondTable, Json.WellFormed, Json.WellFormedElements, Json.WellFormedEntries,
      Entries.keys]
  have h : firstTable.Similar secondTable :=
    (Json.equal_iff_similar hfirst hsecond).1 (by decide +kernel)
  have hbuilds : rowsOfTable.Builds firstTable [.key "rows", .place 1]
      [.field (.name "b"), .field (.name "a")]
      (.object [("a", .object [("x", .null), ("y", .null)]), ("b", .bool true)]) :=
    @Selector.Builds.entry [.field (.name "-01")] [] [("rows", .eachItem (.fields []))]
      [("title", .fields [])] _ _ _ _ _ _ _ (by simp) rfl (by simp; rfl) (.element rfl .here)
  obtain ⟨hsimilar, hkeys⟩ := similar_extract h rowsOfTable
  obtain ⟨-, es, fs, -, hes, hfs, hsame⟩ := hkeys _ _ _ hbuilds
  exact ⟨h, hsimilar, es, fs, hes, hfs, hsame⟩

end Pluck
