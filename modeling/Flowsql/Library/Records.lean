import Mathlib

/-!
# Records of events

A record lists what happened, last event first. A law says when an event is in order after the
events before it, and a record is lawful when each of its events was.
-/

namespace Flowsql.Library

variable {Event : Type*}

/-- Every event of the record was in order when it happened. -/
def Lawful (law : Event → List Event → Prop) (record : List Event) : Prop :=
  ∀ event before, event :: before <:+ record → law event before

variable {law : Event → List Event → Prop} {record : List Event} {event : Event}

theorem Lawful.nil : Lawful law [] :=
  fun event before suffix => absurd (List.suffix_nil.mp suffix) (List.cons_ne_nil event before)

theorem Lawful.cons (lawful : Lawful law record) (last : law event record) :
    Lawful law (event :: record) := by
  intro earlier before suffix
  rcases List.suffix_cons_iff.mp suffix with equal | old
  · cases equal
    exact last
  · exact lawful earlier before old

end Flowsql.Library
