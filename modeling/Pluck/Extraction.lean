import Pluck.Lookup
import Pluck.Selector.Parse

/-! Extraction: the value that holds the selected parts of an input and nothing else.

What the input does not have is left out. Of a nested item only the last pair counts whose key
has a value that does not count as false. -/

namespace Pluck

/-- The value of a key for a nested item: one that counts as false is none. -/
def Json.present? (input : Json) (key : String) : Option Json :=
  (input.property? key).filter Json.isTruthy

/-- The key and value of a field item. A null is left out. -/
def Field.contribution (field : Field) (input : Json) : Option (String × Json) :=
  match input.resolve? field.key with
  | none => none
  | some .null => none
  | some value => some (field.key, value)

mutual

def Selector.extract : Selector → Json → Json
  | .fields items, input => .object (Entries.ofPairs (Item.contributions items input))
  | .eachItem inner, .array elements => .array (elements.map fun element => inner.extract element)
  | .eachItem _, _ => .array []

/-- The key and value that an item adds to the result. -/
def Item.contribution : Item → Json → Option (String × Json)
  | .field field, input => field.contribution input
  | .nested pairs, input => Item.pairsContribution pairs input

def Item.contributions : List Item → Json → List (String × Json)
  | [], _ => []
  | item :: rest, input =>
      match item.contribution input with
      | some pair => pair :: Item.contributions rest input
      | none => Item.contributions rest input

def Item.pairsContribution : List (String × Selector) → Json → Option (String × Json)
  | [], _ => none
  | (key, selector) :: rest, input =>
      match Item.pairsContribution rest input with
      | some pair => some pair
      | none =>
          match input.present? key with
          | some value => some (key, selector.extract value)
          | none => none

end

/-- Something selected that the input does not have. -/
inductive Omission where
  | field (key : String)
  | nested (keys : List String)
  | notArray

mutual

/-- What extraction leaves out, in the order in which it comes upon it. -/
def Selector.omissions : Selector → Json → List Omission
  | .fields items, input => Item.listOmissions items input
  | .eachItem inner, .array elements => elements.flatMap fun element => inner.omissions element
  | .eachItem _, _ => [.notArray]

def Item.omissions : Item → Json → List Omission
  | .field field, input => if (field.contribution input).isSome then [] else [.field field.key]
  | .nested pairs, input =>
      (Item.pairsOmissions pairs input).getD [.nested (pairs.map Prod.fst)]

def Item.listOmissions : List Item → Json → List Omission
  | [], _ => []
  | item :: rest, input => item.omissions input ++ Item.listOmissions rest input

/-- What is left out under the pair that counts, if there is one. -/
def Item.pairsOmissions : List (String × Selector) → Json → Option (List Omission)
  | [], _ => none
  | (key, selector) :: rest, input =>
      match Item.pairsOmissions rest input with
      | some omissions => some omissions
      | none =>
          match input.present? key with
          | some value => some (selector.omissions value)
          | none => none

end

/-- Extracts by a selector in its JSON form. -/
def extract (pointer input : Json) : Except SelectorError Json :=
  match Selector.ofJson pointer with
  | .error e => .error e
  | .ok selector => .ok (selector.extract input)

end Pluck
