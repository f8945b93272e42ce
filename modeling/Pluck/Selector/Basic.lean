import Pluck.Field

/-! Selectors: which parts of a value are wanted. -/

namespace Pluck

mutual

inductive Selector where
  /-- Builds an object from its items. -/
  | fields (items : List Item)
  /-- Applies a selector to every element of an array. -/
  | eachItem (inner : Selector)

inductive Item where
  /-- Takes one value as it is. -/
  | field (field : Field)
  /-- Applies the selector of one of the keys to the value under that key. -/
  | nested (pairs : List (String × Selector))

end

instance : Inhabited Selector := ⟨.fields []⟩

mutual

/-- The JSON form of a selector. -/
def Selector.toJson : Selector → Json
  | .fields items => .array (Item.listToJson items)
  | .eachItem inner => .array [inner.toJson]

def Item.toJson : Item → Json
  | .field field => field.toJson
  | .nested pairs => .object (Entries.ofPairs (Item.pairsToJson pairs))

def Item.listToJson : List Item → List Json
  | [] => []
  | item :: rest => item.toJson :: Item.listToJson rest

def Item.pairsToJson : List (String × Selector) → List (String × Json)
  | [] => []
  | (key, selector) :: rest => (key, selector.toJson) :: Item.pairsToJson rest

end

mutual

/-- The number of levels; a list of plain fields has one. -/
def Selector.depth : Selector → Nat
  | .fields items => 1 + Item.listDepth items
  | .eachItem inner => 1 + inner.depth

def Item.depth : Item → Nat
  | .field _ => 0
  | .nested pairs => Item.pairsDepth pairs

def Item.listDepth : List Item → Nat
  | [] => 0
  | item :: rest => max item.depth (Item.listDepth rest)

def Item.pairsDepth : List (String × Selector) → Nat
  | [] => 0
  | (_, selector) :: rest => max selector.depth (Item.pairsDepth rest)

end

mutual

/-- Equality of selectors, the values of numbers compared within their kind. -/
def Selector.equal : Selector → Selector → Bool
  | .fields xs, .fields ys => Item.listEqual xs ys
  | .eachItem s, .eachItem t => s.equal t
  | _, _ => false

def Item.equal : Item → Item → Bool
  | .field f, .field g => f.equal g
  | .nested ps, .nested qs => Item.pairsEqual ps qs
  | _, _ => false

def Item.listEqual : List Item → List Item → Bool
  | [], [] => true
  | x :: xs, y :: ys => x.equal y && Item.listEqual xs ys
  | _, _ => false

def Item.pairsEqual : List (String × Selector) → List (String × Selector) → Bool
  | [], [] => true
  | (k, s) :: ps, (l, t) :: qs => k == l && s.equal t && Item.pairsEqual ps qs
  | _, _ => false

end

/-- The compact text of the JSON form. -/
def Selector.text (selector : Selector) : String := selector.toJson.text

end Pluck
