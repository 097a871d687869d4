import Flowsql.Library.CheckedReads

/-!
# The layers of a packet

Each parser reads the header of its layer, and answers with how far the next layer is and which one it is. The
packet is walked from the Ethernet header on, one layer at a time.
-/

namespace Flowsql.Npi

open Library.CheckedReads
open Library.CheckedReads renaming load → loadAt

/-- The members of `eLayer` that a parser selects. -/
inductive ELayer where
  | none
  | ethernet
  | vlan
  | pppoeSession
  | ppp
  | mpls
  | ipv4
  | ipv6
  | ipv6ExtHopopts
  | ipv6ExtRouting
  | ipv6ExtFragment
  | ipv6ExtEsp
  | ipv6ExtAh
  | ipv6ExtDstopts
  | gre
  | tcp
  | udp
  | sctp
  | vxlan
  | vxlanGpe
  | geneve
  | l2tp
  | gtp
  deriving DecidableEq

namespace NetworkLayer

/-- `Delamination::Result`. -/
structure Result where
  /-- In 16 bits. -/
  offset : Nat
  next : ELayer
  deriving DecidableEq

/-- `INVALID`, which also is where a parser starts. -/
def invalid : Result := ⟨0, .none⟩

/-- What an assignment to the offset keeps of a number. -/
def word (value : Nat) : Nat :=
  value % 2 ^ 16

/-- A parser gets the layer below, the bytes from its header on, and its base length. It faults where it reads
behind the bytes. -/
abbrev Parser := ELayer → List UInt8 → Nat → Run Empty Result

/-! ## The next layers -/

def vlanNext : Nat → ELayer
  | 0x0800 => .ipv4
  | 0x8100 => .vlan
  | 0x88A8 => .vlan
  | 0x86DD => .ipv6
  | 0x8847 => .mpls
  | _ => .none

def ethernetNext : Nat → ELayer
  | 0x8864 => .pppoeSession
  | type => vlanNext type

def ipv4Next : Nat → ELayer
  | 6 => .tcp
  | 17 => .udp
  | 132 => .sctp
  | 47 => .gre
  | 4 => .ipv4
  | 41 => .ipv6
  | 137 => .mpls
  | _ => .none

/-- `IPV6_NEXT_LAYER`. -/
def ipv6Next : Nat → ELayer
  | 0 => .ipv6ExtHopopts
  | 43 => .ipv6ExtRouting
  | 44 => .ipv6ExtFragment
  | 50 => .ipv6ExtEsp
  | 51 => .ipv6ExtAh
  | 60 => .ipv6ExtDstopts
  | protocol => ipv4Next protocol

def vxlanNext : Nat → ELayer
  | 1 => .ipv4
  | 2 => .ipv6
  | 3 => .ethernet
  | 5 => .mpls
  | _ => .none

/-- GRE and GENEVE differ in the number of PPP. -/
def tunnelNext (ppp : Nat) : Nat → ELayer
  | 0x0800 => .ipv4
  | 0x6558 => .ethernet
  | 0x86DD => .ipv6
  | 0x8847 => .mpls
  | proto => if proto = ppp then .ppp else .none

/-- The layer of a port, or what is selected so far. -/
def portNext (port : Nat) (selected : ELayer) : ELayer :=
  match port with
  | 1701 => .l2tp
  | 4754 => .gre
  | 4789 => .vxlan
  | 4790 => .vxlanGpe
  | 6081 => .geneve
  | 3544 => .ipv6
  | 2152 => .gtp
  | _ => selected

def pppNext : Nat → ELayer
  | 0x0021 => .ipv4
  | 0x0057 => .ipv6
  | 0x0281 => .mpls
  | 0x0283 => .mpls
  | _ => .none

/-- The version in the first byte of an IP header. -/
def versionNext (first : Nat) : ELayer :=
  match first / 16 with
  | 4 => .ipv4
  | 6 => .ipv6
  | _ => .none

/-! ## The parsers -/

/-- A header of fixed length, in which one field selects the next layer. -/
def fixedHeader (field size : Nat) (next : Nat → ELayer) (data : List UInt8) (base : Nat) : Run Empty Result :=
  if base ≤ data.length then do
    return ⟨base, next (← loadAt data field size)⟩
  else return invalid

def ethernetDelamination : Parser := fun _ => fixedHeader 12 2 ethernetNext

def vlanDelamination : Parser := fun _ => fixedHeader 2 2 vlanNext

def ipv4Delamination : Parser := fun _ data base =>
  if base ≤ data.length then do
    let first ← loadAt data 0 1
    if first / 16 ≠ 4 ∨ first % 16 < 5 then return invalid
    else if data.length < first % 16 * 4 then return ⟨first % 16 * 4, .none⟩
    else do
      if (← loadAt data 6 2) % 2 ^ 13 ≠ 0 then return ⟨first % 16 * 4, .none⟩
      else return ⟨first % 16 * 4, ipv4Next (← loadAt data 9 1)⟩
  else return invalid

def ipv6Delamination : Parser := fun _ data base =>
  if base ≤ data.length then do
    if (← loadAt data 0 1) / 16 ≠ 6 then return invalid
    else return ⟨base, ipv6Next (← loadAt data 6 1)⟩
  else return invalid

/-- A header that declares its length in its second byte, in units and without the first few of them. -/
def extensionHeader (skipped unit least : Nat) (data : List UInt8) (base : Nat) : Run Empty Result :=
  if base ≤ data.length then do
    let offset := ((← loadAt data 1 1) + skipped) * unit
    if offset < least then return invalid
    else if data.length < offset then return ⟨offset, .none⟩
    else return ⟨offset, ipv6Next (← loadAt data 0 1)⟩
  else return invalid

def ipv6HopoptsDelamination : Parser := fun _ => extensionHeader 1 8 0

def ipv6RoutingDelamination : Parser := fun _ => extensionHeader 1 8 0

def ipv6DstoptsDelamination : Parser := fun _ => extensionHeader 1 8 0

def ipv6AhDelamination : Parser := fun _ => extensionHeader 2 4 12

def ipv6FragmentDelamination : Parser := fun _ data base =>
  if base ≤ data.length then do
    if (← loadAt data 2 2) / 8 = 0 then return ⟨base, ipv6Next (← loadAt data 0 1)⟩
    else return ⟨base, .none⟩
  else return invalid

def ipv6EspDelamination : Parser := fun _ _ _ => return invalid

def vxlanDelamination : Parser := fun _ data base =>
  if base ≤ data.length then do
    let flags ← loadAt data 0 1
    if !flags.testBit 3 ∨ flags / 16 % 4 ≠ 0 then return invalid
    else if !flags.testBit 2 then return ⟨base, .ethernet⟩
    else return ⟨base, vxlanNext (← loadAt data 3 1)⟩
  else return invalid

/-- The source routes of GRE, which end with an entry of no family and no length. -/
def greRoutes (data : List UInt8) (offset : Nat) : Run Empty Result :=
  if offset + 4 ≤ data.length then do
    let length ← loadAt data (offset + 3) 1
    if 65535 < offset + 4 + length then return invalid
    else if data.length - (offset + 4) < length then return ⟨offset + 4 + length, .none⟩
    else do
      if (← loadAt data offset 2) = 0 ∧ length = 0 then return ⟨offset + 4, tunnelNext 0x880B (← loadAt data 2 2)⟩
      else greRoutes data (offset + 4 + length)
  else return ⟨min 65535 (offset + 4), .none⟩
termination_by data.length - offset

/-- The length of a GRE header up to its source routes. -/
def greFixed (flags base : Nat) : Nat :=
  base + (if flags.testBit 15 ∨ flags.testBit 14 then 4 else 0) + (if flags.testBit 13 then 4 else 0) +
    (if flags.testBit 12 then 4 else 0) + if flags.testBit 7 then 4 else 0

def greDelamination : Parser := fun _ data base =>
  if base ≤ data.length then do
    let flags ← loadAt data 0 2
    if data.length < greFixed flags base then return ⟨greFixed flags base, .none⟩
    else if flags.testBit 14 then greRoutes data (greFixed flags base)
    else return ⟨greFixed flags base, tunnelNext 0x880B (← loadAt data 2 2)⟩
  else return invalid

def geneveDelamination : Parser := fun _ data base =>
  if base ≤ data.length then do
    let first ← loadAt data 0 1
    if first / 64 ≠ 0 then return invalid
    else if data.length < base + first % 64 * 4 then return ⟨base + first % 64 * 4, .none⟩
    else return ⟨base + first % 64 * 4, tunnelNext 0x080B (← loadAt data 2 2)⟩
  else return invalid

def udpDelamination : Parser := fun _ data base =>
  if base ≤ data.length then do
    return ⟨base, portNext (← loadAt data 0 2) (portNext (← loadAt data 2 2) .none)⟩
  else return invalid

def tcpDelamination : Parser := fun _ data base =>
  if base ≤ data.length then do
    let offset := (← loadAt data 12 1) / 16
    if offset < 5 then return invalid
    else return ⟨offset * 4, .none⟩
  else return invalid

def sctpDelamination : Parser := fun _ data base =>
  if base ≤ data.length then do
    if (← loadAt data 12 1) = 0 then return ⟨28, .none⟩
    else return ⟨word (12 + (← loadAt data 14 2)), .none⟩
  else return invalid

/-- The padding of L2TP, whose size comes before it. -/
def l2tpPadding (data : List UInt8) (offset : Nat) : Run Empty Result :=
  if offset + 2 ≤ data.length then do
    let next := offset + 2 + (← loadAt data offset 2)
    if 65535 < next then return invalid
    else return ⟨next, if next ≤ data.length then .ppp else .none⟩
  else return ⟨offset + 2, .none⟩

def l2tpDelamination : Parser := fun _ data base =>
  if data.length < base then return invalid
  else do
    let flags ← loadAt data 0 1
    if (← loadAt data 1 1) % 16 ≠ 2 ∨ flags.testBit 7 then return invalid
    else do
      let start := base + if flags.testBit 6 then 2 else 0
      if flags.testBit 6 ∧ (← loadAt data 2 2) < start then return ⟨start, .none⟩
      else
        let offset := start + if flags.testBit 3 then 4 else 0
        if flags.testBit 1 then l2tpPadding data offset
        else return ⟨offset, if offset ≤ data.length then .ppp else .none⟩

def pppoeSessionDelamination : Parser := fun _ _ base => return ⟨base, .ppp⟩

/-- The address and the control of PPP are missing over PPPoE. -/
def pppDelamination : Parser := fun below data base =>
  if below = .pppoeSession then fixedHeader 0 2 pppNext data 2 else fixedHeader 2 2 pppNext data base

def mplsDelamination : Parser := fun _ data base =>
  if data.length < base then return ⟨base, .none⟩
  else do
    if (← loadAt data 2 1).testBit 0 then
      if base < data.length then return ⟨base, versionNext (← loadAt data base 1)⟩
      else return ⟨base, .none⟩
    else return ⟨base, .mpls⟩

/-- The inner packet of GTP. -/
def gtpInner (data : List UInt8) (offset : Nat) : Run Empty Result :=
  if offset < data.length then do
    return ⟨offset, versionNext (← loadAt data offset 1)⟩
  else return ⟨offset, .none⟩

/-- The extensions of GTP, each of which ends with the type of the next. -/
def gtpExtensions (data : List UInt8) (type offset : Nat) : Run Empty Result :=
  if type = 0 then gtpInner data offset
  else if offset + 1 ≤ data.length then do
    let length := (← loadAt data offset 1) * 4
    if length = 0 then return invalid
    else if 65535 < offset + length then return invalid
    else if data.length < offset + length then return ⟨offset + length, .none⟩
    else gtpExtensions data (← loadAt data (offset + length - 1) 1) (offset + length)
  else return ⟨word (offset + 1), .none⟩
termination_by data.length - offset

def gtpDelamination : Parser := fun _ data base =>
  if data.length < base then return ⟨base, .none⟩
  else do
    let flags ← loadAt data 0 1
    if flags / 32 ≠ 1 ∨ !flags.testBit 4 ∨ (← loadAt data 1 1) ≠ 255 then return ⟨base, .none⟩
    else if flags % 8 = 0 then gtpInner data base
    else if base + 4 ≤ data.length then do
      let type ← loadAt data (base + 3) 1
      gtpExtensions data (if flags.testBit 2 then type else 0) (base + 4)
    else return ⟨base + 4, .none⟩

/-! ## The walk -/

/-- `parsers_map_`: the base length and the parser of a layer. -/
def parsers : ELayer → Option (Nat × Parser)
  | .none => none
  | .ethernet => some (14, ethernetDelamination)
  | .vlan => some (4, vlanDelamination)
  | .pppoeSession => some (6, pppoeSessionDelamination)
  | .ppp => some (4, pppDelamination)
  | .mpls => some (4, mplsDelamination)
  | .ipv4 => some (20, ipv4Delamination)
  | .ipv6 => some (40, ipv6Delamination)
  | .ipv6ExtHopopts => some (2, ipv6HopoptsDelamination)
  | .ipv6ExtRouting => some (2, ipv6RoutingDelamination)
  | .ipv6ExtFragment => some (8, ipv6FragmentDelamination)
  | .ipv6ExtEsp => some (2, ipv6EspDelamination)
  | .ipv6ExtAh => some (12, ipv6AhDelamination)
  | .ipv6ExtDstopts => some (2, ipv6DstoptsDelamination)
  | .gre => some (4, greDelamination)
  | .tcp => some (20, tcpDelamination)
  | .udp => some (8, udpDelamination)
  | .sctp => some (16, sctpDelamination)
  | .vxlan => some (8, vxlanDelamination)
  | .vxlanGpe => some (8, vxlanDelamination)
  | .geneve => some (8, geneveDelamination)
  | .l2tp => some (6, l2tpDelamination)
  | .gtp => some (8, gtpDelamination)

structure Entry where
  offset : Nat
  layer : ELayer
  deriving DecidableEq

/-- `protocol::Layers`; `layercount` is the number of the layers. -/
structure Layers where
  layers : List Entry
  payload : Nat
  deriving DecidableEq

def maxLayers : Nat := 15

/-- The loop of `Layer`, with the number of layers that still fit. -/
def layerFrom (packet : List UInt8) : Nat → ELayer → ELayer → Nat → Run Empty Layers
  | 0, _, _, offset => return ⟨[], min offset 65535⟩
  | degrees + 1, below, layer, offset =>
      if offset ≤ 65535 ∧ offset < packet.length ∧ layer ≠ .none then
        match parsers layer with
        | none => return ⟨[], min offset 65535⟩
        | some (base, parser) => do
            let res ← parser below (packet.drop offset) base
            let rest ← layerFrom packet degrees layer res.next (offset + res.offset)
            return ⟨⟨offset, layer⟩ :: rest.layers, rest.payload⟩
      else return ⟨[], min offset 65535⟩

/-- `Layer`. A packet without bytes has no layers. -/
def layer (packet : List UInt8) : Run Empty Layers :=
  layerFrom packet maxLayers .none .ethernet 0

end NetworkLayer

end Flowsql.Npi
