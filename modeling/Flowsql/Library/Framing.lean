import Mathlib

/-!
# Framed streams

A stream of messages, each behind a header of fixed size that says how long it is. A header
may also end the stream. How a stream is cut into pieces makes no difference.
-/

namespace Flowsql.Library

universe u

structure Framing (Byte : Type u) where
  headerSize : Nat
  /-- The length of the message behind a header, `none` if the stream ends here. -/
  bodyLength : List Byte → Option Nat
  positive : 0 < headerSize

namespace Framing

variable {Byte : Type u} (framing : Framing Byte)

/-- The messages of a stream, and the bytes after the last of them unless the stream ended. -/
def split (bytes : List Byte) : List (List Byte) × Option (List Byte) :=
  if bytes.length < framing.headerSize then ([], some bytes)
  else
    match framing.bodyLength (bytes.take framing.headerSize) with
    | none => ([], none)
    | some length =>
        let body := bytes.drop framing.headerSize
        if body.length < length then ([], some bytes)
        else
          let (messages, rest) := split (body.drop length)
          (body.take length :: messages, rest)
termination_by bytes.length
decreasing_by
  have positive := framing.positive
  simp only [List.length_drop]
  omega

/-- The messages of a stream. -/
def messages (bytes : List Byte) : List (List Byte) := (framing.split bytes).1

variable {framing} {bytes : List Byte}

theorem split_short (short : bytes.length < framing.headerSize) :
    framing.split bytes = ([], some bytes) := by
  rw [split, if_pos short]

theorem split_ended {header : List Byte} (size : header.length = framing.headerSize)
    (ended : framing.bodyLength header = none) (rest : List Byte) :
    framing.split (header ++ rest) = ([], none) := by
  have long : ¬ (header ++ rest).length < framing.headerSize := by
    rw [List.length_append]
    omega
  rw [split, if_neg long, List.take_left' size, ended]

theorem split_incomplete {header body : List Byte} {length : Nat}
    (size : header.length = framing.headerSize) (here : framing.bodyLength header = some length)
    (short : body.length < length) :
    framing.split (header ++ body) = ([], some (header ++ body)) := by
  have long : ¬ (header ++ body).length < framing.headerSize := by
    rw [List.length_append]
    omega
  rw [split, if_neg long, List.take_left' size, here]
  simp only
  rw [List.drop_left' size, if_pos short]

theorem split_message {header body : List Byte}
    (size : header.length = framing.headerSize)
    (here : framing.bodyLength header = some body.length) (rest : List Byte) :
    framing.split (header ++ (body ++ rest)) =
      (body :: (framing.split rest).1, (framing.split rest).2) := by
  have long : ¬ (header ++ (body ++ rest)).length < framing.headerSize := by
    rw [List.length_append]
    omega
  have whole : ¬ (body ++ rest).length < body.length := by
    rw [List.length_append]
    omega
  rw [split, if_neg long, List.take_left' size, here]
  simp only
  rw [List.drop_left' size, if_neg whole, List.drop_left, List.take_left]

/-- How a stream goes on after a piece of it. -/
theorem split_append (first second : List Byte) :
    framing.split (first ++ second) =
      match framing.split first with
      | (messages, none) => (messages, none)
      | (messages, some rest) =>
          (messages ++ (framing.split (rest ++ second)).1, (framing.split (rest ++ second)).2) := by
  induction length : first.length using Nat.strongRecOn generalizing first with
  | _ count ih =>
    by_cases short : first.length < framing.headerSize
    · rw [split_short short]
      rfl
    · obtain ⟨header, body, rfl, size⟩ : ∃ header body, first = header ++ body ∧
          header.length = framing.headerSize :=
        ⟨first.take framing.headerSize, first.drop framing.headerSize,
          (List.take_append_drop ..).symm, by rw [List.length_take]; omega⟩
      rw [List.append_assoc]
      cases here : framing.bodyLength header with
      | none => rw [split_ended size here, split_ended size here]
      | some length =>
          by_cases whole : body.length < length
          · rw [split_incomplete size here whole]
            simp only [List.nil_append, List.append_assoc]
          · obtain ⟨message, rest, rfl, rfl⟩ : ∃ message rest, body = message ++ rest ∧
                length = message.length :=
              ⟨body.take length, body.drop length, (List.take_append_drop ..).symm,
                by rw [List.length_take]; omega⟩
            have positive := framing.positive
            have later := ih rest.length (by simp only [List.length_append] at length; omega) rest rfl
            rw [List.append_assoc, split_message size here, split_message size here, later]
            rcases framing.split rest with ⟨messages, _ | rest⟩
            · rfl
            · rfl

/-- The messages of a first part of a stream are its first messages. -/
theorem messages_prefix {first second : List Byte} (part : first <+: second) :
    framing.messages first <+: framing.messages second := by
  obtain ⟨later, rfl⟩ := part
  rw [messages, messages, split_append]
  split
  · next ended => simp [ended]
  · next goesOn => simp [goesOn]

/-- What is left over is no message yet. -/
theorem split_rest {messages : List (List Byte)} {rest : List Byte}
    (left : framing.split bytes = (messages, some rest)) :
    framing.split rest = ([], some rest) := by
  induction length : bytes.length using Nat.strongRecOn generalizing bytes messages with
  | _ count ih =>
    by_cases short : bytes.length < framing.headerSize
    · have same := split_short short
      rw [left] at same
      cases same
      exact split_short short
    · obtain ⟨header, body, rfl, size⟩ : ∃ header body, bytes = header ++ body ∧
          header.length = framing.headerSize :=
        ⟨bytes.take framing.headerSize, bytes.drop framing.headerSize,
          (List.take_append_drop ..).symm, by rw [List.length_take]; omega⟩
      cases here : framing.bodyLength header with
      | none =>
          rw [split_ended size here] at left
          cases left
      | some length =>
          by_cases whole : body.length < length
          · rw [split_incomplete size here whole] at left
            cases left
            exact split_incomplete size here whole
          · obtain ⟨message, later, rfl, rfl⟩ : ∃ message later, body = message ++ later ∧
                length = message.length :=
              ⟨body.take length, body.drop length, (List.take_append_drop ..).symm,
                by rw [List.length_take]; omega⟩
            have positive := framing.positive
            rw [split_message size here] at left
            obtain ⟨-, remaining⟩ := Prod.mk.inj left
            exact @ih later.length (by simp only [List.length_append] at length; omega) later
              (framing.split later).1 (Prod.ext rfl remaining) rfl

variable (framing)

/-- How a stream goes on, from the bytes that are left over, or not at all. -/
def resume : Option (List Byte) → List Byte → List (List Byte) × Option (List Byte)
  | none, _ => ([], none)
  | some left, bytes => framing.split (left ++ bytes)

variable {framing}

theorem resume_append (left : Option (List Byte)) (first second : List Byte) :
    framing.resume left (first ++ second) =
      ((framing.resume left first).1 ++
          (framing.resume (framing.resume left first).2 second).1,
        (framing.resume (framing.resume left first).2 second).2) := by
  cases left with
  | none => rfl
  | some left =>
      simp only [resume]
      rw [← List.append_assoc, split_append]
      rcases framing.split (left ++ first) with ⟨messages, _ | rest⟩
      · simp
      · rfl

variable (framing)

/-- There is no complete message in what is left over. -/
def Leftover (left : Option (List Byte)) : Prop := framing.resume left [] = ([], left)

variable {framing}

theorem leftover_nil : framing.Leftover (some []) :=
  split_short framing.positive

theorem leftover_resume (left : Option (List Byte)) (bytes : List Byte) :
    framing.Leftover (framing.resume left bytes).2 := by
  cases left with
  | none => rfl
  | some left =>
      unfold Leftover
      rw [resume]
      cases rest : (framing.split (left ++ bytes)).2 with
      | none => rfl
      | some rest =>
          rw [resume, List.append_nil]
          exact split_rest (Prod.ext rfl ‹_›)

end Framing

end Flowsql.Library
