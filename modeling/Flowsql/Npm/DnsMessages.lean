import Mathlib

/-!
# DNS messages

This module embeds `ParseNpmDnsUdpMessageV1`: the header of a message, its question, and a
check of all its records. A C++ string of bytes is a list of bytes.
-/

namespace Flowsql.Npm

/-- `NpmDnsMessageStatusV1`. -/
inductive DnsMessageStatus where
  | complete
  | unsupported
  | captureTruncated
  | malformed
  deriving DecidableEq, Repr

/-- `NpmDnsMessageV1`, without the completion time, which the parser does not set. -/
structure DnsMessage where
  dnsId : UInt16 := 0
  opcode : UInt8 := 0
  isResponse : Bool := false
  truncated : Bool := false
  responseRcode : UInt16 := 0
  wireQname : Option (List UInt8) := none
  qtype : Option UInt16 := none
  qclass : Option UInt16 := none
  deriving DecidableEq, Repr

/-- `NpmDnsParsedMessageV1`. -/
structure DnsParsedMessage where
  message : DnsMessage := {}
  keyAvailable : Bool := false
  qnameDisplay : List UInt8 := []
  deriving DecidableEq, Repr

/-! ## Numbers -/

/-- `Read16`, which moves the offset on success. -/
def read16 (body : List UInt8) (offset : Nat) : Option (UInt16 × Nat) :=
  match body.drop offset with
  | high :: low :: _ => some (high.toUInt16 <<< 8 ||| low.toUInt16, offset + 2)
  | _ => none

/-- `Read32`. -/
def read32 (body : List UInt8) (offset : Nat) : Option (UInt32 × Nat) :=
  (read16 body offset).bind fun (high, middle) =>
    (read16 body middle).map fun (low, after) => (high.toUInt32 <<< 16 ||| low.toUInt32, after)

/-! ## Names -/

/-- `FoldAscii`. -/
def foldAscii (byte : UInt8) : UInt8 :=
  if 'A'.toUInt8 ≤ byte ∧ byte ≤ 'Z'.toUInt8 then byte + ('a'.toUInt8 - 'A'.toUInt8) else byte

/-- What `AppendDisplayByte` appends. -/
def displayByte (byte : UInt8) : List UInt8 :=
  if byte = '.'.toUInt8 ∨ byte = '\\'.toUInt8 then ['\\'.toUInt8, byte]
  else if 33 ≤ byte ∧ byte ≤ 126 then [byte]
  else ['\\'.toUInt8, '0'.toUInt8 + byte / 100, '0'.toUInt8 + byte / 10 % 10,
    '0'.toUInt8 + byte % 10]

/-- The variables of `ReadName`. -/
structure DnsNameReader where
  offset : Nat
  cursor : Nat
  jumped : Bool := false
  expanded : Nat := 1
  labels : Nat := 0
  pointers : Nat := 0
  wire : List UInt8 := []
  display : List UInt8 := []
  deriving DecidableEq, Repr

/-- What a round of the loop of `ReadName` ends with. -/
inductive DnsNameRound where
  | again (reader : DnsNameReader)
  | accepted (reader : DnsNameReader)
  | rejected
  deriving DecidableEq, Repr

namespace DnsNameReader

variable (body : List UInt8) (reader : DnsNameReader)

/-- A compression pointer, whose first byte is `length`. -/
def followPointer (length : UInt8) : DnsNameRound :=
  match body[reader.cursor + 1]? with
  | none => .rejected
  | some low =>
      let target := (length &&& 0x3f).toNat * 256 + low.toNat
      if reader.pointers + 1 > 255 then .rejected
      else if target ≥ reader.cursor ∨ target ≥ body.length then .rejected
      else .again { reader with
        offset := if reader.jumped then reader.offset else reader.cursor + 2
        cursor := target
        jumped := true
        pointers := reader.pointers + 1 }

/-- The zero byte that ends a name. -/
def finish : DnsNameReader :=
  { reader with
    offset := if reader.jumped then reader.offset else reader.cursor + 1
    cursor := reader.cursor + 1
    wire := reader.wire ++ [0]
    display := if reader.labels = 0 then ['.'.toUInt8] else reader.display }

/-- A label of `length` bytes. -/
def readLabel (length : Nat) : DnsNameRound :=
  let start := reader.cursor + 1
  if body.length - start < length ∨ reader.expanded + 1 + length > 255 then .rejected
  else
    let label := (body.drop start).take length
    .again { reader with
      cursor := start + length
      expanded := reader.expanded + 1 + length
      labels := reader.labels + 1
      wire := reader.wire ++ UInt8.ofNat length :: label.map foldAscii
      display := reader.display ++ (if reader.labels = 0 then [] else ['.'.toUInt8]) ++
        label.flatMap displayByte }

/-- One round of the loop. -/
def round : DnsNameRound :=
  match body[reader.cursor]? with
  | none => .rejected
  | some length =>
      if length &&& 0xc0 = 0xc0 then reader.followPointer body length
      else if length &&& 0xc0 ≠ 0 ∨ length > 63 then .rejected
      else if length = 0 then .accepted reader.finish
      else reader.readLabel body length.toNat

/-- The loop, which fails also if it still runs after this many rounds. -/
def run : Nat → DnsNameReader → Option DnsNameReader
  | 0, _ => none
  | rounds + 1, reader =>
      match reader.round body with
      | .again next => run rounds next
      | .accepted last => some last
      | .rejected => none

/-- How many more rounds there can be. -/
def fuel : Nat := (255 - reader.pointers) + (255 - reader.expanded) + 1

variable {body reader}

theorem followPointer_fuel {length : UInt8} {next : DnsNameReader}
    (again : reader.followPointer body length = .again next) : next.fuel < reader.fuel := by
  unfold followPointer at again
  split at again
  · cases again
  · simp only at again
    split at again
    · cases again
    · split at again
      · cases again
      · cases again
        simp only [fuel]
        omega

theorem readLabel_fuel {length : Nat} (positive : 0 < length) {next : DnsNameReader}
    (again : reader.readLabel body length = .again next) : next.fuel < reader.fuel := by
  unfold readLabel at again
  simp only at again
  split at again
  · cases again
  · cases again
    simp only [fuel]
    omega

/-- Every round follows one of at most 255 pointers or expands a name of at most 255 bytes. -/
theorem round_fuel {next : DnsNameReader} (again : reader.round body = .again next) :
    next.fuel < reader.fuel := by
  unfold round at again
  split at again
  · cases again
  · next length _ =>
      split at again
      · exact followPointer_fuel again
      · split at again
        · cases again
        · split at again
          · cases again
          · next nonzero =>
              refine readLabel_fuel (Nat.pos_of_ne_zero fun zero => nonzero ?_) again
              exact UInt8.toNat_inj.mp zero

/-- More rounds make no difference: `ReadName` ends by itself. -/
theorem run_fuel (rounds : Nat) (enough : reader.fuel ≤ rounds) :
    run body rounds reader = run body reader.fuel reader := by
  have less : ∀ rounds more (reader : DnsNameReader), reader.fuel ≤ rounds → rounds ≤ more →
      run body more reader = run body rounds reader := by
    intro rounds
    induction rounds with
    | zero =>
        intro more reader enough
        exact absurd enough (by simp [fuel])
    | succ rounds ih =>
        intro more reader enough ordered
        obtain ⟨more, rfl⟩ := Nat.exists_eq_add_of_le ordered
        rw [Nat.add_right_comm, run, run]
        split
        · next next again =>
            have fewer := round_fuel again
            exact ih _ next (by omega) (Nat.le_add_right ..)
        · rfl
        · rfl
  exact less _ _ reader (Nat.le_refl _) enough

end DnsNameReader

/-- `ReadName`. -/
def readName (body : List UInt8) (offset : Nat) : Option DnsNameReader :=
  let start : DnsNameReader := { offset := offset, cursor := offset }
  start.run body start.fuel

/-! ## Records -/

/-- The variables of the loops over the records. -/
structure DnsRecordReader where
  offset : Nat
  seenOpt : Bool := false
  responseRcode : UInt16
  deriving DecidableEq, Repr

/-- The options of an OPT record fill its data. Each of them takes at least four bytes. -/
def optionsFit : Nat → List UInt8 → Bool
  | _, [] => true
  | 0, _ => false
  | rounds + 1, _ :: _ :: high :: low :: rest =>
      let length := (high.toUInt16 <<< 8 ||| low.toUInt16).toNat
      decide (length ≤ rest.length) && optionsFit rounds (rest.drop length)
  | _, _ => false

/-- One record of this section. -/
def readRecord (body : List UInt8) (section_ : Nat) (reader : DnsRecordReader) :
    Option DnsRecordReader := do
  let owner ← readName body reader.offset
  let (type, offset) ← read16 body owner.offset
  let (_, offset) ← read16 body offset
  let (ttl, offset) ← read32 body offset
  let (rdlength, offset) ← read16 body offset
  if body.length - offset < rdlength.toNat then none
  else if type = 41 then
    let options := (body.drop offset).take rdlength.toNat
    if section_ ≠ 2 ∨ reader.seenOpt ∨ owner.wire ≠ [0] ∨ ttl >>> 16 &&& 0xff ≠ 0 then none
    else if optionsFit options.length options then
      some ⟨offset + rdlength.toNat, true,
        reader.responseRcode ||| ((ttl >>> 24).toUInt16 <<< 4)⟩
    else none
  else some { reader with offset := offset + rdlength.toNat }

/-- The records of this section. If one of them is malformed, the response code so far. -/
def readSection (body : List UInt8) (section_ : Nat) : Nat → DnsRecordReader →
    Except UInt16 DnsRecordReader
  | 0, reader => .ok reader
  | count + 1, reader =>
      match readRecord body section_ reader with
      | none => .error reader.responseRcode
      | some next => readSection body section_ count next

/-! ## Messages -/

/-- The header, and the counts of the questions and of the records of each section. -/
def readHeader (body : List UInt8) : Option (DnsMessage × UInt16 × UInt16 × UInt16 × UInt16) := do
  let (dnsId, offset) ← read16 body 0
  let (flags, offset) ← read16 body offset
  let (questions, offset) ← read16 body offset
  let (answers, offset) ← read16 body offset
  let (authority, offset) ← read16 body offset
  let (additional, _) ← read16 body offset
  let message : DnsMessage :=
    { dnsId := dnsId
      isResponse := flags &&& 0x8000 != 0
      opcode := (flags >>> 11 &&& 0x0f).toUInt8
      truncated := flags &&& 0x0200 != 0
      responseRcode := flags &&& 0x000f }
  return (message, questions, answers, authority, additional)

/-- The name, the type and the class of the question, and where it ends. -/
def readQuestion (body : List UInt8) : Option (DnsNameReader × UInt16 × UInt16 × Nat) := do
  let name ← readName body 12
  let (qtype, offset) ← read16 body name.offset
  let (qclass, offset) ← read16 body offset
  return (name, qtype, qclass, offset)

/-- `ParseNpmDnsUdpMessageV1`. -/
def parseDnsMessage (body : List UInt8) (bodyComplete : Bool) :
    DnsMessageStatus × DnsParsedMessage :=
  if body.length > 65535 ∨ body.length < 12 then (.malformed, {})
  else
    match readHeader body with
    | none => (.malformed, {})
    | some (header, questions, answers, authority, additional) =>
        if questions ≠ 1 then (.malformed, { message := header })
        else
          match readQuestion body with
          | none => (.malformed, { message := header })
          | some (name, qtype, qclass, offset) =>
              let message : DnsMessage :=
                { header with wireQname := some name.wire, qtype := some qtype, qclass := some qclass }
              let parsed : DnsParsedMessage :=
                { message := message, keyAvailable := true, qnameDisplay := name.display }
              if ¬ bodyComplete then (.captureTruncated, parsed)
              else
                let records := do
                  let reader ← readSection body 0 answers.toNat ⟨offset, false, header.responseRcode⟩
                  let reader ← readSection body 1 authority.toNat reader
                  readSection body 2 additional.toNat reader
                let withRcode (responseRcode : UInt16) : DnsParsedMessage :=
                  { parsed with message := { message with responseRcode := responseRcode } }
                match records with
                | .error responseRcode => (.malformed, withRcode responseRcode)
                | .ok reader =>
                    let parsed := withRcode reader.responseRcode
                    if reader.offset ≠ body.length then (.malformed, parsed)
                    else if header.opcode ≠ 0 ∨ qtype = 251 ∨ qtype = 252 then (.unsupported, parsed)
                    else (.complete, parsed)

end Flowsql.Npm
