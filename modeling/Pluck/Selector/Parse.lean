import Pluck.Selector.Basic
import Pluck.Selector.Error

/-! Reading a selector from its JSON form.

An array whose only element is an array applies to each item. Any other array is a list of
items, none of which may be an array. The first fault in the order of the text is reported. -/

namespace Pluck

mutual

def Selector.ofJson : Json → Except SelectorError Selector
  | .array [.array elements] =>
      match Selector.ofJson (.array elements) with
      | .error e => .error e
      | .ok inner => .ok (.eachItem inner)
  | .array elements =>
      if elements.any Json.isArray then .error (.mixed (.array elements))
      else
        match Item.listOfJson elements with
        | .error e => .error (.within (.array elements) e)
        | .ok items => .ok (.fields items)
  | other => .error (.invalid other)

def Item.ofJson : Json → Except SelectorError Item
  | .object entries =>
      match Item.pairsOfJson entries with
      | .error e => .error e
      | .ok pairs => .ok (.nested pairs)
  | .string s => .ok (.field (.name s))
  | .number n => .ok (.field (.index n))
  | other => .error (.invalid other)

def Item.listOfJson : List Json → Except SelectorError (List Item)
  | [] => .ok []
  | x :: rest =>
      match Item.ofJson x with
      | .error e => .error e
      | .ok item =>
          match Item.listOfJson rest with
          | .error e => .error e
          | .ok items => .ok (item :: items)

def Item.pairsOfJson : List (String × Json) → Except SelectorError (List (String × Selector))
  | [] => .ok []
  | (key, x) :: rest =>
      match Selector.ofJson x with
      | .error e => .error e
      | .ok selector =>
          match Item.pairsOfJson rest with
          | .error e => .error e
          | .ok pairs => .ok ((key, selector) :: pairs)

end

end Pluck
