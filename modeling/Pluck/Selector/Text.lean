import Pluck.Selector.Parse
import Pluck.Json.Reader

/-! Selectors in texts. A text is read as a whole; a decoder may also find a selector at its
front and look at the rest only then. -/

namespace Pluck

inductive SelectorTextError where
  | notJson (message : String)
  | invalid (e : SelectorError)

namespace Selector

/-- Reads a text as a whole. The arguments turn into an error what is wrong with a text that is not
JSON, and with a JSON value that is no selector. -/
def readWith {ε : Type} (notJson : String → ε) (invalid : SelectorError → ε) (text : String) :
    Except ε Selector :=
  match Json.read text with
  | .error message => .error (notJson message)
  | .ok pointer =>
      match Selector.ofJson pointer with
      | .error e => .error (invalid e)
      | .ok selector => .ok selector

def ofText (text : String) : Except SelectorTextError Selector :=
  readWith .notJson .invalid text

/-- Reads the text of a user, who is told what is wrong in one message: that of the JSON reader, or
the whole chain of errors. -/
def ofUserText (text : String) : Except String Selector :=
  readWith ("Selector is not valid JSON: " ++ ·) (·.toJson.text) text

/-- Reads the value at the front as a selector before it looks at what follows. -/
def decode (text : String) : Except String Selector :=
  match Json.readValue Json.maxDepth text.toList with
  | .error fault => .error (fault.message Json.Flaw.message text.toList)
  | .ok (pointer, rest) =>
      match Selector.ofJson pointer with
      | .error e => .error e.message
      | .ok selector =>
          match Json.readEnd rest with
          | .error fault => .error (fault.message Json.Flaw.message text.toList)
          | .ok () => .ok selector

end Selector
end Pluck
