import Mathlib

/-!
# TLS hello messages

This module embeds the parser of `npm_tls_hello.cpp`. A reader is the list of bytes that
are left, and every read that runs short makes the message malformed.
-/

namespace Flowsql.Npm

inductive TlsHelloError where
  | malformed
  | limit
  deriving DecidableEq, Repr

/-- `NpmTlsHelloFactsV1`. Names are byte strings. -/
structure TlsHelloFacts where
  legacyVersion : Nat := 0
  offeredVersions : List Nat := []
  selectedVersion : Option Nat := none
  cipherSuite : Option Nat := none
  sni : Option (List UInt8) := none
  offeredAlpn : List (List UInt8) := []
  selectedAlpn : Option (List UInt8) := none
  helloRetryRequest : Bool := false
  completeAtNs : Option Int := none
  deriving DecidableEq, Repr

abbrev HelloReader := StateT (List UInt8) (Except TlsHelloError)

namespace HelloReader

/-- `Reader::Take`. -/
def take (count : Nat) : HelloReader (List UInt8) := fun bytes =>
  if count > bytes.length then .error .malformed else .ok (bytes.take count, bytes.drop count)

/-- `Reader::U8`. -/
def u8 : HelloReader Nat
  | [] => .error .malformed
  | byte :: rest => .ok (byte.toNat, rest)

/-- `Reader::U16`. -/
def u16 : HelloReader Nat
  | high :: low :: rest => .ok (high.toNat * 256 + low.toNat, rest)
  | _ => .error .malformed

/-- The message is malformed unless the condition holds. -/
def demand (condition : Bool) : HelloReader Unit :=
  if condition then pure () else throw .malformed

end HelloReader

/-! ## Names -/

def maxSniBytes : Nat := 255

def maxAlpnJsonBytes : Nat := 512

def isAlphanumeric (byte : UInt8) : Bool :=
  (97 ≤ byte && byte ≤ 122) || (65 ≤ byte && byte ≤ 90) || (48 ≤ byte && byte ≤ 57)

/-- The loop of `ValidSni`: 46 is a dot and 45 a hyphen. -/
def validLabels : List UInt8 → Nat → UInt8 → Bool
  | [], labelLength, previous => 0 < labelLength && labelLength ≤ 63 && previous != 45
  | byte :: rest, labelLength, previous =>
      if byte == 46 then
        if labelLength == 0 || labelLength > 63 || previous == 45 then false
        else validLabels rest 0 byte
      else if !isAlphanumeric byte && byte != 45 then false
      else if labelLength == 0 && byte == 45 then false
      else validLabels rest (labelLength + 1) byte

/-- `ValidSni`. -/
def validSni (name : List UInt8) : Bool :=
  if name.isEmpty || name.length > maxSniBytes || name.head? == some 46 ||
      name.getLast? == some 46 then false
  else validLabels name 0 0

/-- `ParseSni`. -/
def parseSni (facts : TlsHelloFacts) : HelloReader TlsHelloFacts := do
  let length ← HelloReader.u16
  HelloReader.demand (length == (← get).length && length != 0)
  let type ← HelloReader.u8
  HelloReader.demand (type == 0)
  let nameLength ← HelloReader.u16
  let name ← HelloReader.take nameLength
  HelloReader.demand (← get).isEmpty
  if nameLength > maxSniBytes then throw .limit
  HelloReader.demand (validSni name)
  pure { facts with sni := some name }

def hexDigit (value : UInt8) : UInt8 := if value < 10 then 48 + value else 87 + value

/-- How one byte of a name is written in a JSON string. -/
def encodeAlpnByte (byte : UInt8) : List UInt8 :=
  if byte == 34 || byte == 92 then [92, byte]
  else if byte < 32 || byte > 126 then
    [92, 117, 48, 48, hexDigit (byte >>> 4), hexDigit (byte &&& 15)]
  else [byte]

/-- The bytes of one name. -/
def encodeAlpnBytes : List UInt8 → List UInt8 → Except TlsHelloError (List UInt8)
  | [], next => .ok next
  | byte :: rest, next =>
      let next := next ++ encodeAlpnByte byte
      if next.length + 2 > maxAlpnJsonBytes then .error .limit else encodeAlpnBytes rest next

/-- The loop of `EncodeNpmTlsAlpnJsonV1`. -/
def encodeAlpnNames : List (List UInt8) → List UInt8 → Except TlsHelloError (List UInt8)
  | [], next => .ok next
  | protocol :: rest, next => do
      if protocol.isEmpty || protocol.length > 255 then throw .malformed
      let next := (if next.length > 1 then next ++ [44] else next) ++ [34]
      let next ← encodeAlpnBytes protocol next
      encodeAlpnNames rest (next ++ [34])

/-- `EncodeNpmTlsAlpnJsonV1`. -/
def encodeAlpnJson (protocols : List (List UInt8)) : Except TlsHelloError (List UInt8) := do
  let next ← encodeAlpnNames protocols [91]
  let next := next ++ [93]
  if next.length > maxAlpnJsonBytes then throw .limit
  pure next

/-! ## Extensions -/

/-- The loop of `ParseAlpn`. -/
def alpnLoop (server : Bool) (bytes : List UInt8) (facts : TlsHelloFacts) :
    Except TlsHelloError TlsHelloFacts :=
  match bytes with
  | [] => .ok facts
  | length :: rest =>
      if length == 0 || length.toNat > rest.length then .error .malformed
      else
        let protocol := rest.take length.toNat
        if server then
          if facts.selectedAlpn.isSome then .error .malformed
          else
            alpnLoop server (rest.drop length.toNat) { facts with selectedAlpn := some protocol }
        else if facts.offeredAlpn.contains protocol then .error .malformed
        else
          alpnLoop server (rest.drop length.toNat)
            { facts with offeredAlpn := facts.offeredAlpn ++ [protocol] }
termination_by bytes.length
decreasing_by all_goals simp only [List.length_drop, List.length_cons]; omega

/-- `ParseAlpn`. -/
def parseAlpn (server : Bool) (facts : TlsHelloFacts) : HelloReader TlsHelloFacts := do
  let length ← HelloReader.u16
  HelloReader.demand (length == (← get).length && length != 0)
  let facts ← alpnLoop server (← get) facts
  let _ ← encodeAlpnJson (if server then facts.selectedAlpn.toList else facts.offeredAlpn)
  pure facts

/-- The loop of `ParseVersions`. -/
def versionLoop : List UInt8 → List Nat → Except TlsHelloError (List Nat)
  | [], versions => .ok versions
  | high :: low :: rest, versions =>
      versionLoop rest (versions ++ [high.toNat * 256 + low.toNat])
  | [_], _ => .error .malformed

/-- `ParseVersions`. -/
def parseVersions (server : Bool) (facts : TlsHelloFacts) : HelloReader TlsHelloFacts := do
  if server then
    let version ← HelloReader.u16
    HelloReader.demand (← get).isEmpty
    pure { facts with selectedVersion := some version }
  else
    let length ← HelloReader.u8
    HelloReader.demand (length == (← get).length && length != 0 && length % 2 == 0)
    pure { facts with offeredVersions := ← versionLoop (← get) facts.offeredVersions }

/-- Which of the three known extensions were seen. -/
structure SeenExtensions where
  sni : Bool := false
  alpn : Bool := false
  versions : Bool := false

/-- One extension. -/
def parseExtension (server : Bool) (type : Nat) (value : List UInt8) (seen : SeenExtensions)
    (facts : TlsHelloFacts) : Except TlsHelloError (SeenExtensions × TlsHelloFacts) := do
  if type = 0 then
    if seen.sni then throw .malformed
    let facts ←
      if server then if value.isEmpty then pure facts else throw .malformed
      else (parseSni facts).run' value
    pure ({ seen with sni := true }, facts)
  else if type = 16 then
    if seen.alpn then throw .malformed
    pure ({ seen with alpn := true }, ← (parseAlpn server facts).run' value)
  else if type = 43 then
    if seen.versions then throw .malformed
    pure ({ seen with versions := true }, ← (parseVersions server facts).run' value)
  else pure (seen, facts)

/-- The loop of `ParseExtensions`. -/
def extensionLoop (server : Bool) (bytes : List UInt8) (seen : SeenExtensions)
    (facts : TlsHelloFacts) : Except TlsHelloError TlsHelloFacts :=
  match bytes with
  | [] => .ok facts
  | typeHigh :: typeLow :: lengthHigh :: lengthLow :: rest =>
      let length := lengthHigh.toNat * 256 + lengthLow.toNat
      if length > rest.length then .error .malformed
      else
        match parseExtension server (typeHigh.toNat * 256 + typeLow.toNat) (rest.take length) seen
            facts with
        | .error error => .error error
        | .ok (seen, facts) => extensionLoop server (rest.drop length) seen facts
  | _ => .error .malformed
termination_by bytes.length
decreasing_by simp only [List.length_drop, List.length_cons]; omega

/-- `ParseExtensions`. -/
def parseExtensions (server : Bool) (facts : TlsHelloFacts) : HelloReader TlsHelloFacts := do
  if (← get).isEmpty then pure facts
  else
    let length ← HelloReader.u16
    HelloReader.demand (length == (← get).length)
    extensionLoop server (← HelloReader.take length) {} facts

/-! ## Hellos -/

/-- `kHelloRetryRequestRandom`. -/
def helloRetryRequestRandom : List UInt8 :=
  [0xcf, 0x21, 0xad, 0x74, 0xe5, 0x9a, 0x61, 0x11, 0xbe, 0x1d, 0x8c, 0x02, 0x1e, 0x65, 0xb8, 0x91,
    0xc2, 0xa2, 0x11, 0x16, 0x7a, 0xbb, 0x8c, 0x5e, 0x07, 0x9e, 0x09, 0xe2, 0xc8, 0xa8, 0x33, 0x9c]

/-- What both hellos begin with: the version, the random bytes and the session id. -/
def parseHelloStart (facts : TlsHelloFacts) : HelloReader (List UInt8 × TlsHelloFacts) := do
  let version ← HelloReader.u16
  let random ← HelloReader.take 32
  let sessionLength ← HelloReader.u8
  HelloReader.demand (sessionLength ≤ 32)
  let _ ← HelloReader.take sessionLength
  pure (random, { facts with legacyVersion := version })

/-- `ParseClient`. -/
def parseClientHello (facts : TlsHelloFacts) : HelloReader TlsHelloFacts := do
  let (_, facts) ← parseHelloStart facts
  let cipherLength ← HelloReader.u16
  HelloReader.demand (2 ≤ cipherLength && cipherLength % 2 == 0)
  let _ ← HelloReader.take cipherLength
  let compressionLength ← HelloReader.u8
  HelloReader.demand (compressionLength != 0)
  let compressions ← HelloReader.take compressionLength
  HelloReader.demand (compressions.contains 0)
  parseExtensions false facts

/-- `ParseServer`. -/
def parseServerHello (facts : TlsHelloFacts) : HelloReader TlsHelloFacts := do
  let (random, facts) ← parseHelloStart facts
  let cipher ← HelloReader.u16
  let compression ← HelloReader.u8
  HelloReader.demand (compression == 0)
  parseExtensions true
    { facts with
      cipherSuite := some cipher
      helloRetryRequest := random == helloRetryRequestRandom }

/-- `ParseNpmTlsHelloV1`. -/
def parseTlsHello (messageType : UInt8) (body : List UInt8) (completeAtNs : Option Int) :
    Except TlsHelloError TlsHelloFacts :=
  let facts : TlsHelloFacts := { completeAtNs := completeAtNs }
  if messageType = 1 then (parseClientHello facts).run' body
  else if messageType = 2 then (parseServerHello facts).run' body
  else .error .malformed

end Flowsql.Npm
