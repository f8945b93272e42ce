import Pluck.Json.Printer

/-! Why a JSON value is no selector. The fragment at fault stands innermost, wrapped in every
selector that holds it. -/

namespace Pluck

inductive SelectorError where
  /-- The fragment `context` is at fault. -/
  | root (message : String) (context : Json)
  /-- An item of `selector` is at fault. -/
  | within (selector : Json) (source : SelectorError)

namespace SelectorError

/-- A fragment that can stand nowhere in a selector, or not at its place. -/
def invalid (fragment : Json) : SelectorError := .root "Invalid selector" fragment

/-- A list in which an array has neighbours. -/
def mixed (selector : Json) : SelectorError :=
  .root "An each-item array selector can't be mixed with other selectors." selector

/-- The message of every wrapper. -/
def wrapperMessage : String := "Sub-selector error"

def message : SelectorError → String
  | .root message _ => message
  | .within _ _ => wrapperMessage

/-- The message and the context; the context of a wrapper holds the error inside. -/
def toJson : SelectorError → Json
  | .root message context => .object [("msg", .string message), ("ctx", context)]
  | .within selector source =>
      .object [("msg", .string wrapperMessage),
        ("ctx", .object [("ptr", selector), ("error", source.toJson)])]

def context : SelectorError → Json
  | .root _ context => context
  | .within selector source => .object [("ptr", selector), ("error", source.toJson)]

/-- The error directly inside a wrapper. -/
def source? : SelectorError → Option SelectorError
  | .within _ source => some source
  | .root _ _ => none

/-- The error and those inside it, outermost first. -/
def chain : SelectorError → List SelectorError
  | .within selector source => .within selector source :: source.chain
  | e => [e]

/-- The number of wrappers. -/
def depth : SelectorError → Nat
  | .within _ source => source.depth + 1
  | .root _ _ => 0

def rootCause : SelectorError → SelectorError
  | .within _ source => source.rootCause
  | e => e

/-- The selectors of the wrappers, outermost first. -/
def path : SelectorError → List Json
  | .within selector source => selector :: source.path
  | .root _ _ => []

@[simp] theorem path_invalid (fragment : Json) : (invalid fragment).path = [] := rfl

@[simp] theorem path_mixed (selector : Json) : (mixed selector).path = [] := rfl

def equal : SelectorError → SelectorError → Bool
  | .root message a, .root other b => message == other && a.equal b
  | .within s e, .within t f => s.equal t && e.equal f
  | _, _ => false

end SelectorError
end Pluck
