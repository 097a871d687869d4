import Flowsql.Npi.FeatureEffects
import Mathlib

/-!
# Enumerate recognizers

A rule compares an integer of the payload with a value. The rules of one set of ports are stored in one
recognizer. A recognizer reads an integer that may be wider than the one of its rules.
-/

namespace Flowsql.Npi

structure Packet where
  bytes : List UInt8
  /-- `Layers::payload`. -/
  payload : Nat
  payload_le : payload ≤ bytes.length

namespace Packet

/-- The bytes from `Data`. -/
def data (packet : Packet) : List UInt8 :=
  packet.bytes.drop packet.payload

end Packet

/-- An integer in the order of the machine. -/
def integerOf (bytes : List UInt8) : Nat :=
  Nat.ofDigits 256 (bytes.map UInt8.toNat)

/-- The integer of this size at a position, if it lies inside. -/
def readInteger (bytes : List UInt8) (position : Int) (size : Nat) : Option Nat :=
  if 0 ≤ position ∧ position.toNat + size ≤ bytes.length then
    some (integerOf ((bytes.drop position.toNat).take size))
  else none

namespace EnumerateRecognizer

/-- The entry of a number, which is zero when it was not set. -/
def entry (recognizer : EnumerateRecognizer) (number : Nat) : Int :=
  (recognizer.enums.lookup number).getD 0

/-- Reading an entry of a map inserts it. -/
def touch (recognizer : EnumerateRecognizer) (number : Nat) : EnumerateRecognizer :=
  if recognizer.integer ≠ 1 ∧ recognizer.enums.lookup number = none then
    { recognizer with enums := (number, 0) :: recognizer.enums }
  else recognizer

/-- `Identify`, without an answer for a read outside of the payload. The length is an `uint16_t`, and the sum
with the position is made as `size_t`. -/
def identify (packet : Packet) (recognizer : EnumerateRecognizer) : Option (Int × EnumerateRecognizer) :=
  let length := (packet.bytes.length - packet.payload) % 65536
  if (recognizer.position + recognizer.integer) % 2 ^ 64 ≤ length then
    (readInteger packet.data recognizer.position recognizer.integer).map fun read =>
      let unused := ((recognizer.integer : Int) - recognizer.bytewidth).toNat
      let number := read * 2 ^ unused % 256 ^ recognizer.integer / 2 ^ unused
      let value := recognizer.entry number
      (if value ≠ 0 then value else recognizer.default_, recognizer.touch number)
  else some (0, recognizer)

end EnumerateRecognizer

namespace Engine

/-- What the enumerate recognizer of an entry answers. -/
def identifyAt (target : Layer × UInt16) (packet : Packet) (engine : Engine) : Option (Int × Engine) :=
  match engine.entry target with
  | some (.enumerate index) => do
      let recognizer ← engine.pool[index]?
      let (value, recognizer) ← recognizer.identify packet
      return (value, { engine with pool := engine.pool.set index recognizer })
  | _ => none

/-- Packets one after the other, with the entries that their ports select. -/
def identifyAll : List ((Layer × UInt16) × Packet) → Engine → Option (List Int × Engine)
  | [], engine => some ([], engine)
  | (target, packet) :: requests, engine => do
      let (value, engine) ← engine.identifyAt target packet
      let (values, engine) ← identifyAll requests engine
      return (value :: values, engine)

end Engine

/-! ## Rules -/

/-- A rule `value:offset:length`; the value of `*` is missing. -/
structure Rule where
  value : Option Nat
  offset : Nat
  length : Nat
  deriving DecidableEq

namespace Rule

def valueText (rule : Rule) : List Char :=
  match rule.value with
  | some value => Nat.toDigits 10 value
  | none => ['*']

def text (rule : Rule) : String :=
  String.ofList (rule.valueText ++ ':' :: (Nat.toDigits 10 rule.offset ++ ':' :: Nat.toDigits 10 rule.length))

/-- The integer that the rule means. -/
def integer (rule : Rule) (payload : List UInt8) : Nat :=
  integerOf ((payload.drop rule.offset).take rule.length)

/-- The payload has the integer of the rule, and the rule names it or any. -/
def Applies (rule : Rule) (payload : List UInt8) : Prop :=
  rule.offset + rule.length ≤ payload.length ∧ ∀ value ∈ rule.value, rule.integer payload = value

instance (rule : Rule) (payload : List UInt8) : Decidable (rule.Applies payload) :=
  inferInstanceAs (Decidable (_ ∧ _))

end Rule

/-- The protocol of the last rule of a kind that applies. -/
def lastOf (kind : Rule → Bool) (payload : List UInt8) (rules : List (Rule × Int)) : Option Int :=
  (rules.reverse.find? fun entry => kind entry.1 && entry.1.Applies payload).map (·.2)

/-- What the rules mean for a payload: the last rule whose value is there, else the last `*` rule, else no
protocol. -/
def meaning (rules : List (Rule × Int)) (payload : List UInt8) : Int :=
  ((lastOf (·.value.isSome) payload rules).or (lastOf (·.value.isNone) payload rules)).getD 0

/-- The rules, committed one after the other for the level and the ports of a builder. -/
def commitAll (builder : Builder) (rules : List (Rule × Int)) (engine : Engine) : Option Engine :=
  rules.foldlM (fun engine entry =>
    { builder with pattern := .enumerate entry.1.text }.commit entry.2 engine) engine

end Flowsql.Npi
