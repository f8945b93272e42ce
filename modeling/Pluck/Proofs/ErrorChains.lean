import Mathlib.Data.List.Chain
import Pluck.Selector.Error

/-!
Errors as chains, and as JSON values.

An error is walked along from the outside: after a wrapper comes the error inside it, and the walk
ends after the root cause (`ErrorWalk`). The chain is what such a walk hands over; path, depth and
root cause can be read off it, and they make up the whole error again (`chain_lossless`).

The root cause may hold any message. Errors that were built for selectors have one of two messages
there (`Built`), and of these the JSON form keeps all as well (`toJson_eq_iff`), although a fragment
at fault may look like the form of another error: the message tells a wrapper from what is inside
all wrappers.
-/

namespace Pluck

/-- A walk along an error, by what it hands over next, if there is more to come. -/
structure ErrorWalk where
  next : Option SelectorError

/-- Takes the next error off the walk. It goes on inside a wrapper and nowhere else. -/
def ErrorWalk.step? (walk : ErrorWalk) : Option (SelectorError × ErrorWalk) :=
  match walk.next with
  | none => none
  | some (.within selector source) => some (.within selector source, ⟨some source⟩)
  | some e => some (e, ⟨none⟩)

/-- The walk hands over these errors one after the other, and then no more. -/
inductive ErrorWalk.Yields : ErrorWalk → List SelectorError → Prop
  | done {walk : ErrorWalk} (h : walk.step? = none) : Yields walk []
  | step {walk rest : ErrorWalk} {e : SelectorError} {es : List SelectorError}
      (h : walk.step? = some (e, rest)) (hrest : rest.Yields es) : Yields walk (e :: es)

namespace SelectorError

/-- The walk that starts at the error. -/
def walk (e : SelectorError) : ErrorWalk := ⟨some e⟩

/-- The selector of a wrapper. -/
def selector? : SelectorError → Option Json
  | .within selector _ => some selector
  | _ => none

/-! ## Walks -/

theorem step?_walk (e : SelectorError) : e.walk.step? = some (e, ⟨e.source?⟩) := by
  cases e <;> rfl

theorem yields_end_iff {es : List SelectorError} :
    (ErrorWalk.mk none).Yields es ↔ es = [] := by
  constructor
  · intro h
    cases h with
    | done => rfl
    | step h => cases h
  · rintro rfl
    exact .done rfl

/-- Only a wrapper is followed by another error. -/
theorem yields_walk_iff_cons {e : SelectorError} {es : List SelectorError} :
    e.walk.Yields es ↔ ∃ rest, es = e :: rest ∧ (ErrorWalk.mk e.source?).Yields rest := by
  constructor
  · intro h
    cases h with
    | done h =>
        rw [step?_walk] at h
        cases h
    | step h hrest =>
        rw [step?_walk] at h
        cases h
        exact ⟨_, rfl, hrest⟩
  · rintro ⟨rest, rfl, hrest⟩
    exact .step (step?_walk e) hrest

/-- A walk along an error hands over its chain. -/
theorem yields_walk_iff {e : SelectorError} {es : List SelectorError} :
    e.walk.Yields es ↔ es = e.chain := by
  induction e generalizing es with
  | root message context => simp [yields_walk_iff_cons, source?, yields_end_iff, chain]
  | within selector source ih =>
      have hrest : ∀ rest, (ErrorWalk.mk (some source)).Yields rest ↔ rest = source.chain :=
        fun _ => ih
      simp [yields_walk_iff_cons, source?, hrest, chain]

/-! ## The parts of an error -/

theorem exists_rootCause_eq_root (e : SelectorError) :
    ∃ message context, e.rootCause = .root message context := by
  induction e with
  | root message context => exact ⟨message, context, rfl⟩
  | within selector source ih => exact ih

theorem source?_rootCause (e : SelectorError) : e.rootCause.source? = none := by
  obtain ⟨message, context, hroot⟩ := e.exists_rootCause_eq_root
  rw [hroot]
  rfl

/-- The root cause, wrapped in the selectors of the path from the last one to the first. -/
theorem foldr_within_path (e : SelectorError) : e.path.foldr within e.rootCause = e := by
  induction e with
  | root message context => rfl
  | within selector source ih => exact congrArg (within selector) ih

theorem length_path (e : SelectorError) : e.path.length = e.depth := by
  induction e with
  | root message context => rfl
  | within selector source ih => exact congrArg (· + 1) ih

theorem length_chain (e : SelectorError) : e.chain.length = e.depth + 1 := by
  induction e with
  | root message context => rfl
  | within selector source ih => exact congrArg (· + 1) ih

theorem path_eq_filterMap_chain (e : SelectorError) : e.path = e.chain.filterMap selector? := by
  induction e with
  | root message context => rfl
  | within selector source ih => exact congrArg (selector :: ·) ih

theorem head?_chain (e : SelectorError) : e.chain.head? = some e := by
  cases e <;> rfl

theorem getLast?_chain (e : SelectorError) : e.chain.getLast? = some e.rootCause := by
  induction e with
  | root message context => rfl
  | within selector source ih =>
      rw [chain, List.getLast?_cons, ih]
      rfl

theorem isChain_chain (e : SelectorError) :
    e.chain.IsChain fun outer inner => outer.source? = some inner := by
  induction e with
  | root message context => exact List.isChain_singleton _
  | within selector source ih =>
      refine ih.cons fun inner hinner => ?_
      rw [head?_chain] at hinner
      exact hinner

/-- **Chains.** The root cause is no wrapper, whatever its message and context are, and with the
path it makes up the error again. The chain goes from the error down to the root cause, each time to
the error inside; a walk hands over this chain, and depth and path are read off it. -/
theorem chain_lossless (e : SelectorError) :
    (∃ message context, e.rootCause = .root message context) ∧
      e.path.foldr within e.rootCause = e ∧
      e.depth = e.path.length ∧
      (e.chain.length = e.path.length + 1 ∧
        e.chain.head? = some e ∧ e.chain.getLast? = some e.rootCause ∧
        (e.chain.IsChain fun outer inner => outer.source? = some inner) ∧
        e.rootCause.source? = none) ∧
      (∀ es, e.walk.Yields es ↔ es = e.chain) ∧
      e.depth = e.chain.length - 1 ∧ e.path = e.chain.filterMap selector? := by
  have hpath := e.length_path
  have hchain := e.length_chain
  refine ⟨e.exists_rootCause_eq_root, e.foldr_within_path, hpath.symm, ?_, ?_, ?_, ?_⟩
  · exact ⟨by omega, e.head?_chain, e.getLast?_chain, e.isChain_chain, e.source?_rootCause⟩
  · exact fun es => yields_walk_iff
  · omega
  · exact e.path_eq_filterMap_chain

end SelectorError

/-! ## JSON forms -/

theorem Json.equal_object_pair {k l : String} (hkl : k ≠ l) (a b c d : Json) :
    (Json.object [(k, a), (l, b)]).equal (.object [(k, c), (l, d)]) =
      (a.equal c && b.equal d) := by
  simp [Json.equal, Json.equalEntries, Entries.get?, hkl]

namespace SelectorError

theorem toJson_eq (e : SelectorError) :
    e.toJson = .object [("msg", .string e.message), ("ctx", e.context)] := by
  cases e <;> rfl

theorem message_and_context_of_toJson {e f : SelectorError} (h : e.toJson = f.toJson) :
    e.message = f.message ∧ e.context = f.context := by
  simpa [toJson_eq] using h

theorem equal_toJson_and (e f : SelectorError) :
    e.toJson.equal f.toJson = (e.message == f.message && e.context.equal f.context) := by
  rw [toJson_eq, toJson_eq, Json.equal_object_pair (by decide), Json.equal]

/-- The root cause was built as an invalid fragment or as a mixed list. -/
inductive Built : SelectorError → Prop
  | invalid (fragment : Json) : Built (.invalid fragment)
  | mixed (selector : Json) : Built (.mixed selector)
  | within (selector : Json) {source : SelectorError} (h : source.Built) :
      Built (.within selector source)

/-- The message of the root cause is not that of wrappers. -/
def RootApart (e : SelectorError) : Prop := e.rootCause.message ≠ wrapperMessage

theorem rootApart_within_iff {selector : Json} {source : SelectorError} :
    (within selector source).RootApart ↔ source.RootApart := Iff.rfl

theorem Built.rootApart {e : SelectorError} (h : e.Built) : e.RootApart := by
  induction h with
  | invalid fragment =>
      show "Invalid selector" ≠ wrapperMessage
      decide
  | mixed selector =>
      show "An each-item array selector can't be mixed with other selectors." ≠ wrapperMessage
      decide
  | within selector _ ih => exact rootApart_within_iff.2 ih

/-- The message says whether there is a further error in the context. -/
theorem toJson_inj {e f : SelectorError} (he : e.RootApart) (hf : f.RootApart)
    (h : e.toJson = f.toJson) : e = f := by
  induction e generalizing f with
  | root message context =>
      obtain ⟨hmessage, hcontext⟩ := message_and_context_of_toJson h
      cases f with
      | root other fragment =>
          obtain rfl : message = other := hmessage
          exact congrArg (root message) hcontext
      | within => exact absurd hmessage he
  | within selector source ih =>
      obtain ⟨hmessage, hcontext⟩ := message_and_context_of_toJson h
      cases f with
      | root => exact absurd hmessage.symm hf
      | within other inner =>
          obtain ⟨hselector, hsource⟩ : selector = other ∧ source.toJson = inner.toJson := by
            simpa [context] using hcontext
          rw [hselector, ih (rootApart_within_iff.1 he) (rootApart_within_iff.1 hf) hsource]

theorem equal_toJson {e f : SelectorError} (he : e.RootApart) (hf : f.RootApart) :
    e.toJson.equal f.toJson = e.equal f := by
  induction e generalizing f with
  | root message context =>
      rw [equal_toJson_and]
      cases f with
      | root other fragment => rfl
      | within =>
          have hmessage : message ≠ wrapperMessage := he
          simp [SelectorError.message, equal, hmessage]
  | within selector source ih =>
      rw [equal_toJson_and]
      cases f with
      | root message context =>
          have hmessage : wrapperMessage ≠ message := Ne.symm hf
          simp [SelectorError.message, equal, hmessage]
      | within other inner =>
          have hkeys : "ptr" ≠ "error" := by decide
          have hsource := ih (rootApart_within_iff.1 he) (rootApart_within_iff.1 hf)
          rw [context, context, Json.equal_object_pair hkeys, hsource, equal]
          simp [message]

/-- **JSON forms.** The JSON form tells an error that was built from every other one, be it the very
same value or one that is equal up to the order of entries and the sign of zeros. -/
theorem toJson_eq_iff {e f : SelectorError} (he : e.Built) (hf : f.Built) :
    (e.toJson = f.toJson ↔ e = f) ∧ e.toJson.equal f.toJson = e.equal f := by
  refine ⟨⟨toJson_inj he.rootApart hf.rootApart, ?_⟩, equal_toJson he.rootApart hf.rootApart⟩
  rintro rfl
  rfl

/-! A fragment that looks like what is in a wrapper. -/

def wrappedNull : SelectorError := .within .null (.invalid .null)

def lookalike : SelectorError := .invalid wrappedNull.context

theorem toJson_eq_iff_lookalike :
    lookalike.Built ∧ wrappedNull.Built ∧ lookalike.toJson ≠ wrappedNull.toJson ∧
      lookalike.toJson.equal wrappedNull.toJson = false := by
  have hlookalike : lookalike.Built := .invalid _
  have hwrapped : wrappedNull.Built := .within _ (.invalid _)
  obtain ⟨hiff, hequal⟩ := toJson_eq_iff hlookalike hwrapped
  refine ⟨hlookalike, hwrapped, fun h => ?_, hequal⟩
  cases hiff.1 h

/-- With the message of wrappers, nothing tells such a fragment from a wrapper. -/
example :
    (root wrapperMessage (within .null (invalid .null)).context).toJson =
      (within .null (invalid .null)).toJson := rfl

end SelectorError
end Pluck
