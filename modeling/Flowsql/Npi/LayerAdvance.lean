import Flowsql.Npi.NetworkLayer

/-!
# How far a parser advances

A header declares its length, in the unbounded numbers of its protocol. Where all of its bytes are there, the
parser of the layer advances by just this length, unless 16 bits cannot hold it.
-/

namespace Flowsql.Npi.NetworkLayer

open Library.CheckedReads
open Library.CheckedReads renaming load → loadAt

variable {data : List UInt8} {layer below : ELayer} {declared : Option Nat} {res : Result}

/-! ## Declared lengths -/

/-- Where the source routes end, with the entry that closes them. -/
def routesEnd (data : List UInt8) (offset : Nat) : Option Nat :=
  if offset + 4 ≤ data.length then
    if fieldAt data offset 2 = 0 ∧ fieldAt data (offset + 3) 1 = 0 then some (offset + 4)
    else routesEnd data (offset + 4 + fieldAt data (offset + 3) 1)
  else none
termination_by data.length - offset

/-- Where the extensions end, the first of which has a type. -/
def extensionsEnd (data : List UInt8) (type offset : Nat) : Option Nat :=
  if type = 0 then some offset
  else if offset + 1 ≤ data.length ∧ 0 < fieldAt data offset 1 then
    extensionsEnd data (fieldAt data (offset + fieldAt data offset 1 * 4 - 1) 1) (offset + fieldAt data offset 1 * 4)
  else none
termination_by data.length - offset

def l2tpLength (data : List UInt8) : Option Nat :=
  let flags := fieldAt data 0 1
  let start := 6 + if flags.testBit 6 then 2 else 0
  let offset := start + if flags.testBit 3 then 4 else 0
  if ¬(fieldAt data 1 1 % 16 ≠ 2 ∨ flags.testBit 7) ∧ ¬(flags.testBit 6 ∧ fieldAt data 2 2 < start) then
    some (if flags.testBit 1 then offset + 2 + fieldAt data offset 2 else offset)
  else none

/-- Only the packets of a user are tunnelled. -/
def gtpLength (data : List UInt8) : Option Nat :=
  let flags := fieldAt data 0 1
  if flags / 32 ≠ 1 ∨ !flags.testBit 4 ∨ fieldAt data 1 1 ≠ 255 then none
  else if flags % 8 = 0 then some 8
  else extensionsEnd data (if flags.testBit 2 then fieldAt data 11 1 else 0) 12

/-- The length that a header declares, if it is one of the version and kind that its layer supports. The header
of ESP declares none. -/
def declaredLength (below : ELayer) (data : List UInt8) : ELayer → Option Nat
  | .none => none
  | .ethernet => some 14
  | .vlan => some 4
  | .pppoeSession => some 6
  | .ppp => some (if below = .pppoeSession then 2 else 4)
  | .mpls => some 4
  | .ipv4 =>
      if fieldAt data 0 1 / 16 = 4 ∧ 5 ≤ fieldAt data 0 1 % 16 then some (fieldAt data 0 1 % 16 * 4) else none
  | .ipv6 => if fieldAt data 0 1 / 16 = 6 then some 40 else none
  | .ipv6ExtHopopts => some ((fieldAt data 1 1 + 1) * 8)
  | .ipv6ExtRouting => some ((fieldAt data 1 1 + 1) * 8)
  | .ipv6ExtDstopts => some ((fieldAt data 1 1 + 1) * 8)
  | .ipv6ExtFragment => some 8
  | .ipv6ExtEsp => none
  | .ipv6ExtAh => if 1 ≤ fieldAt data 1 1 then some ((fieldAt data 1 1 + 2) * 4) else none
  | .gre =>
      let fixed := greFixed (fieldAt data 0 2) 4
      if (fieldAt data 0 2).testBit 14 then routesEnd data fixed else some fixed
  | .tcp => if 5 ≤ fieldAt data 12 1 / 16 then some (fieldAt data 12 1 / 16 * 4) else none
  | .udp => some 8
  | .sctp =>
      if fieldAt data 12 1 = 0 then some 28
      else if 4 ≤ fieldAt data 14 2 then some (12 + fieldAt data 14 2) else none
  | .vxlan => if (fieldAt data 0 1).testBit 3 ∧ fieldAt data 0 1 / 16 % 4 = 0 then some 8 else none
  | .vxlanGpe => if (fieldAt data 0 1).testBit 3 ∧ fieldAt data 0 1 / 16 % 4 = 0 then some 8 else none
  | .geneve => if fieldAt data 0 1 / 64 = 0 then some (8 + fieldAt data 0 1 % 64 * 4) else none
  | .l2tp => l2tpLength data
  | .gtp => gtpLength data

/-- The length that the header of a layer has at least. -/
def minimumLength (below layer : ELayer) : Nat :=
  if layer = .ppp ∧ below = .pppoeSession then 2 else ((parsers layer).map (·.1)).getD 0

/-! ## The parsers -/

/-- The advance fits into 16 bits, and is the length of the header if all of it is there and fits. A longer header
is rejected, but not by SCTP. -/
structure Advances (layer : ELayer) (data : List UInt8) (declared : Option Nat) (res : Result) : Prop where
  small : res.offset < 2 ^ 16
  reaches : ∀ length, declared = some length → length ≤ data.length → length < 2 ^ 16 → res.offset = length
  rejects : ∀ length, declared = some length → length ≤ data.length → 2 ^ 16 ≤ length → layer ≠ .sctp →
    res = invalid

theorem Advances.of_reaches (small : res.offset < 2 ^ 16)
    (reaches : ∀ length, declared = some length → length ≤ data.length → res.offset = length) :
    Advances layer data declared res where
  small := small
  reaches length some_ inside _ := reaches length some_ inside
  rejects length some_ inside large _ := by
    have same := reaches length some_ inside
    omega

theorem Advances.exact {length : Nat} {next : ELayer} (small : length < 2 ^ 16) :
    Advances layer data (some length) ⟨length, next⟩ :=
  .of_reaches small fun _ some_ _ => Option.some.inj some_

/-- Bytes of the header are missing. -/
theorem Advances.short {length : Nat} (small : res.offset < 2 ^ 16) (short : data.length < length) :
    Advances layer data (some length) res :=
  .of_reaches small fun _ some_ inside => by
    cases some_
    omega

theorem Advances.unsupported (small : res.offset < 2 ^ 16) : Advances layer data none res :=
  .of_reaches small fun _ some_ => nomatch some_

theorem fixedHeader_advances {field size base : Nat} {next : Nat → ELayer} (inside : field + size ≤ base)
    (small : base < 2 ^ 16) :
    Meets (fixedHeader field size next data base) (Advances layer data (some base)) := by
  unfold fixedHeader
  split
  · exact Meets.bind (Meets.load (by omega)) fun _ _ _ => Meets.pure (.exact small)
  · exact Meets.pure (.short (by decide) (by omega))

/-- A header of a version and a kind that the parser reads. -/
theorem Advances.of_ite {supported : Prop} [Decidable supported] {length : Nat}
    (yes : supported → Advances layer data (some length) res) (no : ¬supported → Advances layer data none res) :
    Advances layer data (if supported then some length else none) res := by
  split
  · exact yes ‹_›
  · exact no ‹_›

theorem ipv4_advances :
    Meets (ipv4Delamination below data 20) (Advances .ipv4 data (declaredLength below data .ipv4)) := by
  have byte := fieldAt_lt data 0 1
  unfold ipv4Delamination
  split
  · refine Meets.bind (Meets.load (by omega)) fun first _ same => ?_
    subst same
    split
    · exact Meets.pure (.of_ite (fun yes => by omega) fun _ => .unsupported (by decide))
    split
    · exact Meets.pure (.of_ite (fun _ => .exact (by omega)) fun no => by omega)
    refine Meets.bind (Meets.load (by omega)) fun _ _ _ => ?_
    split
    · exact Meets.pure (.of_ite (fun _ => .exact (by omega)) fun no => by omega)
    · exact Meets.bind (Meets.load (by omega)) fun _ _ _ =>
        Meets.pure (.of_ite (fun _ => .exact (by omega)) fun no => by omega)
  · exact Meets.pure (.of_ite (fun _ => .short (by decide) (by omega)) fun _ => .unsupported (by decide))

theorem ipv6_advances :
    Meets (ipv6Delamination below data 40) (Advances .ipv6 data (declaredLength below data .ipv6)) := by
  unfold ipv6Delamination
  split
  · refine Meets.bind (Meets.load (by omega)) fun first _ same => ?_
    subst same
    split
    · exact Meets.pure (.of_ite (fun yes => by omega) fun _ => .unsupported (by decide))
    · exact Meets.bind (Meets.load (by omega)) fun _ _ _ =>
        Meets.pure (.of_ite (fun _ => .exact (by decide)) fun no => by omega)
  · exact Meets.pure (.of_ite (fun _ => .short (by decide) (by omega)) fun _ => .unsupported (by decide))

theorem extensionHeader_advances {skipped unit least base : Nat} (inside : 2 ≤ base)
    (small : (255 + skipped) * unit < 2 ^ 16) (most : base ≤ least ∨ base ≤ skipped * unit) :
    Meets (extensionHeader skipped unit least data base) (Advances layer data
      (if least ≤ (fieldAt data 1 1 + skipped) * unit then some ((fieldAt data 1 1 + skipped) * unit) else none)) := by
  have byte : fieldAt data 1 1 ≤ 255 := Nat.le_of_lt_succ (fieldAt_lt data 1 1)
  have reach : (fieldAt data 1 1 + skipped) * unit ≤ (255 + skipped) * unit := by gcongr
  have least_ : skipped * unit ≤ (fieldAt data 1 1 + skipped) * unit := by
    gcongr
    exact Nat.le_add_left _ _
  unfold extensionHeader
  split
  · refine Meets.bind (Meets.load (by omega)) fun _ _ same => ?_
    subst same
    dsimp only
    split
    · exact Meets.pure (.of_ite (fun yes => by omega) fun _ => .unsupported (by decide))
    split
    · exact Meets.pure (.of_ite (fun _ => .exact (by omega)) fun no => by omega)
    · exact Meets.bind (Meets.load (by omega)) fun _ _ _ =>
        Meets.pure (.of_ite (fun _ => .exact (by omega)) fun no => by omega)
  · exact Meets.pure (.of_ite (fun _ => .short (by decide) (by omega)) fun _ => .unsupported (by decide))

theorem options_advances :
    Meets (extensionHeader 1 8 0 data 2) (Advances layer data (some ((fieldAt data 1 1 + 1) * 8))) := by
  have advances := @extensionHeader_advances data layer 1 8 0 2 (by decide) (by decide) (by decide)
  rwa [if_pos (Nat.zero_le _)] at advances

theorem fragment_advances :
    Meets (ipv6FragmentDelamination below data 8) (Advances .ipv6ExtFragment data (some 8)) := by
  unfold ipv6FragmentDelamination
  split
  · refine Meets.bind (Meets.load (by omega)) fun _ _ _ => ?_
    split
    · exact Meets.bind (Meets.load (by omega)) fun _ _ _ => Meets.pure (.exact (by decide))
    · exact Meets.pure (.exact (by decide))
  · exact Meets.pure (.short (by decide) (by omega))

theorem vxlan_advances : Meets (vxlanDelamination below data 8) (Advances layer data
    (if (fieldAt data 0 1).testBit 3 ∧ fieldAt data 0 1 / 16 % 4 = 0 then some 8 else none)) := by
  unfold vxlanDelamination
  split
  · refine Meets.bind (Meets.load (by omega)) fun _ _ same => ?_
    subst same
    split
    · rename_i wrong
      refine Meets.pure (.of_ite (fun yes => ?_) fun _ => .unsupported (by decide))
      simp [yes] at wrong
    rename_i right
    have supported : (fieldAt data 0 1).testBit 3 ∧ fieldAt data 0 1 / 16 % 4 = 0 := by simpa using right
    rw [if_pos supported]
    split
    · exact Meets.pure (.exact (by decide))
    · exact Meets.bind (Meets.load (by omega)) fun _ _ _ => Meets.pure (.exact (by decide))
  · exact Meets.pure (.of_ite (fun _ => .short (by decide) (by omega)) fun _ => .unsupported (by decide))

theorem geneve_advances :
    Meets (geneveDelamination below data 8) (Advances .geneve data (declaredLength below data .geneve)) := by
  unfold geneveDelamination
  split
  · refine Meets.bind (Meets.load (by omega)) fun _ _ same => ?_
    subst same
    split
    · exact Meets.pure (.of_ite (fun yes => by omega) fun _ => .unsupported (by decide))
    split
    · exact Meets.pure (.of_ite (fun _ => .exact (by omega)) fun no => by omega)
    · exact Meets.bind (Meets.load (by omega)) fun _ _ _ =>
        Meets.pure (.of_ite (fun _ => .exact (by omega)) fun no => by omega)
  · exact Meets.pure (.of_ite (fun _ => .short (by decide) (by omega)) fun _ => .unsupported (by decide))

theorem tcp_advances :
    Meets (tcpDelamination below data 20) (Advances .tcp data (declaredLength below data .tcp)) := by
  have byte := fieldAt_lt data 12 1
  unfold tcpDelamination
  split
  · refine Meets.bind (Meets.load (by omega)) fun _ _ same => ?_
    subst same
    dsimp only
    split
    · exact Meets.pure (.of_ite (fun yes => by omega) fun _ => .unsupported (by decide))
    · exact Meets.pure (.of_ite (fun _ => .exact (by omega)) fun no => by omega)
  · exact Meets.pure (.of_ite (fun _ => .short (by decide) (by omega)) fun _ => .unsupported (by decide))

theorem udp_advances : Meets (udpDelamination below data 8) (Advances .udp data (some 8)) := by
  unfold udpDelamination
  split
  · exact Meets.bind (Meets.load (by omega)) fun _ _ _ =>
      Meets.bind (Meets.load (by omega)) fun _ _ _ => Meets.pure (.exact (by decide))
  · exact Meets.pure (.short (by decide) (by omega))

theorem mpls_advances : Meets (mplsDelamination below data 4) (Advances .mpls data (some 4)) := by
  unfold mplsDelamination
  split
  · exact Meets.pure (.exact (by decide))
  · refine Meets.bind (Meets.load (by omega)) fun _ _ _ => ?_
    split
    · split
      · exact Meets.bind (Meets.load (by omega)) fun _ _ _ => Meets.pure (.exact (by decide))
      · exact Meets.pure (.exact (by decide))
    · exact Meets.pure (.exact (by decide))

/-- SCTP takes whatever 16 bits keep of the sum. -/
theorem sctp_advances :
    Meets (sctpDelamination below data 16) (Advances .sctp data (declaredLength below data .sctp)) := by
  have short := fieldAt_lt data 14 2
  unfold sctpDelamination
  split
  · refine Meets.bind (Meets.load (by omega)) fun _ _ same => ?_
    subst same
    split
    · rename_i chunk
      exact Meets.pure (by
        rw [declaredLength, if_pos chunk]
        exact .exact (by decide))
    · rename_i chunk
      refine Meets.bind (Meets.load (by omega)) fun _ _ same => Meets.pure ?_
      subst same
      rw [declaredLength, if_neg chunk]
      refine ⟨Nat.mod_lt _ (by decide), fun length some_ _ small => ?_, fun _ _ _ _ other => absurd rfl other⟩
      split at some_
      · cases some_
        exact Nat.mod_eq_of_lt small
      · cases some_
  · refine Meets.pure (.of_reaches (by decide) fun length some_ inside => ?_)
    dsimp only [declaredLength] at some_
    split at some_
    · cases some_
      omega
    split at some_
    · cases some_
      omega
    · cases some_

/-! ## Source routes, paddings and extensions -/

theorem routesEnd_le {offset length : Nat} (ends : routesEnd data offset = some length) :
    offset + 4 + fieldAt data (offset + 3) 1 ≤ length := by
  induction left : data.length - offset using Nat.strong_induction_on generalizing offset with
  | _ left ih =>
      rw [routesEnd] at ends
      split at ends
      · split at ends
        · rename_i closing
          cases ends
          omega
        · have later := ih _ (by omega) ends rfl
          omega
      · cases ends

theorem greRoutes_advances {offset : Nat} (small : offset < 2 ^ 16) (header : 4 ≤ data.length) :
    Meets (greRoutes data offset) (Advances .gre data (routesEnd data offset)) := by
  induction left : data.length - offset using Nat.strong_induction_on generalizing offset with
  | _ left ih =>
      have least {length : Nat} (ends : routesEnd data offset = some length) := routesEnd_le ends
      rw [greRoutes]
      split
      · rename_i entry
        refine Meets.bind (Meets.load (by omega)) fun _ _ same => ?_
        subst same
        split
        · refine Meets.pure ⟨by decide, fun length ends _ fits => ?_, fun _ _ _ _ _ => rfl⟩
          have := least ends
          omega
        split
        · refine Meets.pure (.of_reaches (by dsimp only; omega) fun length ends inside => ?_)
          have := least ends
          omega
        refine Meets.bind (Meets.load (by omega)) fun _ _ same => ?_
        subst same
        rw [routesEnd, if_pos entry]
        split
        · exact Meets.bind (Meets.load (by omega)) fun _ _ _ => Meets.pure (.exact (by omega))
        · exact ih _ (by omega) (by omega) rfl
      · rename_i none_
        rw [routesEnd, if_neg none_]
        exact Meets.pure (.unsupported (by dsimp only; omega))

theorem gre_advances :
    Meets (greDelamination below data 4) (Advances .gre data (declaredLength below data .gre)) := by
  have fixed (flags : Nat) : 4 ≤ greFixed flags 4 ∧ greFixed flags 4 ≤ 20 := by
    unfold greFixed
    split <;> split <;> split <;> split <;> omega
  unfold greDelamination
  split
  · rename_i header
    refine Meets.bind (Meets.load (by omega)) fun _ _ same => ?_
    subst same
    obtain ⟨least, most⟩ := fixed (fieldAt data 0 2)
    dsimp only [declaredLength]
    split
    · refine Meets.pure (.of_reaches (by dsimp only; omega) fun length ends inside => ?_)
      split at ends
      · have := routesEnd_le ends
        omega
      · exact Option.some.inj ends
    split
    · exact greRoutes_advances (by omega) header
    · exact Meets.bind (Meets.load (by omega)) fun _ _ _ => Meets.pure (.exact (by omega))
  · refine Meets.pure (.of_reaches (by decide) fun length ends inside => ?_)
    obtain ⟨least, -⟩ := fixed (fieldAt data 0 2)
    dsimp only [declaredLength] at ends
    split at ends
    · have := routesEnd_le ends
      omega
    · cases ends
      omega

theorem l2tpPadding_advances {offset : Nat} (small : offset ≤ 12) :
    Meets (l2tpPadding data offset) (Advances .l2tp data (some (offset + 2 + fieldAt data offset 2))) := by
  unfold l2tpPadding
  split
  · refine Meets.bind (Meets.load (by omega)) fun _ _ same => ?_
    subst same
    dsimp only
    split
    · refine Meets.pure ⟨by decide, fun length some_ _ fits => ?_, fun _ _ _ _ _ => rfl⟩
      cases some_
      omega
    · exact Meets.pure (.exact (by omega))
  · exact Meets.pure (.short (by dsimp only; omega) (by omega))

theorem l2tp_advances :
    Meets (l2tpDelamination below data 6) (Advances .l2tp data (declaredLength below data .l2tp)) := by
  dsimp only [declaredLength, l2tpLength]
  unfold l2tpDelamination
  split
  · refine Meets.pure (.of_ite (fun _ => .short (by decide) ?_) fun _ => .unsupported (by decide))
    split <;> omega
  refine Meets.bind (Meets.load (by omega)) fun _ _ same => ?_
  subst same
  refine Meets.bind (Meets.load (by omega)) fun _ _ same => ?_
  subst same
  split
  · rename_i control
    rw [if_neg fun both => both.1 control]
    exact Meets.pure (.unsupported (by decide))
  rename_i data_
  refine Meets.bind (Meets.load (by omega)) fun _ _ same => ?_
  subst same
  have start : (6 + if (fieldAt data 0 1).testBit 6 = true then 2 else 0) ≤ 8 := by
    split <;> decide
  have sequenced (start : Nat) : (start + if (fieldAt data 0 1).testBit 3 = true then 4 else 0) ≤ start + 4 := by
    split <;> omega
  generalize (6 + if (fieldAt data 0 1).testBit 6 = true then 2 else 0) = first at start ⊢
  dsimp only
  split
  · rename_i short
    rw [if_neg fun both => both.2 short]
    exact Meets.pure (.unsupported (by dsimp only; omega))
  rename_i long
  rw [if_pos (And.intro data_ long)]
  have most := sequenced first
  generalize (first + if (fieldAt data 0 1).testBit 3 = true then 4 else 0) = offset at most ⊢
  split
  · exact l2tpPadding_advances (by omega)
  · exact Meets.pure (.exact (by omega))

theorem extensionsEnd_le {type offset length : Nat} (ends : extensionsEnd data type offset = some length) :
    offset ≤ length ∧ (type ≠ 0 → offset + fieldAt data offset 1 * 4 ≤ length ∧ 0 < fieldAt data offset 1) := by
  induction left : data.length - offset using Nat.strong_induction_on generalizing type offset with
  | _ left ih =>
      rw [extensionsEnd] at ends
      split at ends
      · cases ends
        exact ⟨Nat.le_refl _, fun some_ => absurd ‹_› some_⟩
      split at ends
      · have later := (ih _ (by omega) ends rfl).1
        exact ⟨by omega, fun _ => ⟨later, by omega⟩⟩
      · cases ends

theorem gtpInner_advances {offset : Nat} (small : offset < 2 ^ 16) :
    Meets (gtpInner data offset) (Advances .gtp data (some offset)) := by
  unfold gtpInner
  split
  · exact Meets.bind (Meets.load (by omega)) fun _ _ _ => Meets.pure (.exact small)
  · exact Meets.pure (.exact small)

theorem gtpExtensions_advances {type offset : Nat} (small : offset < 2 ^ 16) (present : 0 < offset) :
    Meets (gtpExtensions data type offset) (Advances .gtp data (extensionsEnd data type offset)) := by
  induction left : data.length - offset using Nat.strong_induction_on generalizing type offset with
  | _ left ih =>
      have least {length : Nat} (ends : extensionsEnd data type offset = some length) := extensionsEnd_le ends
      rw [gtpExtensions]
      split
      · rename_i none_
        rw [extensionsEnd, if_pos none_]
        exact gtpInner_advances small
      rename_i some_
      split
      · refine Meets.bind (Meets.load (by omega)) fun _ _ same => ?_
        subst same
        dsimp only
        split
        · refine Meets.pure (.of_reaches (by decide) fun length ends _ => ?_)
          have := (least ends).2 some_
          omega
        split
        · refine Meets.pure ⟨by decide, fun length ends _ fits => ?_, fun _ _ _ _ _ => rfl⟩
          have := (least ends).2 some_
          omega
        split
        · refine Meets.pure (.of_reaches (by dsimp only; omega) fun length ends inside => ?_)
          have := (least ends).2 some_
          omega
        refine Meets.bind (Meets.load (by omega)) fun _ _ same => ?_
        subst same
        rw [extensionsEnd, if_neg some_, if_pos (by omega)]
        exact ih _ (by omega) (by omega) (by omega) rfl
      · rename_i none_
        rw [extensionsEnd, if_neg some_, if_neg (fun entry => none_ entry.1)]
        exact Meets.pure (.unsupported (Nat.mod_lt _ (by decide)))

theorem gtp_advances :
    Meets (gtpDelamination below data 8) (Advances .gtp data (declaredLength below data .gtp)) := by
  dsimp only [declaredLength, gtpLength]
  unfold gtpDelamination
  split
  · refine Meets.pure (.of_reaches (by decide) fun length ends inside => ?_)
    split at ends
    · cases ends
    split at ends
    · exact Option.some.inj ends
    · have := (extensionsEnd_le ends).1
      omega
  refine Meets.bind (Meets.load (by omega)) fun _ _ same => ?_
  subst same
  refine Meets.bind (Meets.load (by omega)) fun _ _ same => ?_
  subst same
  split
  · exact Meets.pure (.unsupported (by decide))
  split
  · exact gtpInner_advances (by decide)
  split
  · refine Meets.bind (Meets.load (by omega)) fun _ _ same => ?_
    subst same
    exact gtpExtensions_advances (by decide) (by decide)
  · refine Meets.pure (.of_reaches (by decide) fun length ends inside => ?_)
    have := (extensionsEnd_le ends).1
    omega

/-! ## The walk -/

theorem minimumLength_le {length : Nat} (declares : declaredLength below data layer = some length) :
    minimumLength below layer ≤ length := by
  cases layer <;> dsimp only [declaredLength] at declares <;> simp only [minimumLength, parsers, reduceCtorEq,
    false_and, true_and, if_false, Option.map_some, Option.map_none, Option.getD_some, Option.getD_none]
  case gre =>
    have fixed : 4 ≤ greFixed (fieldAt data 0 2) 4 := by
      unfold greFixed
      omega
    split at declares
    · have := routesEnd_le declares
      exact Nat.le_trans fixed (by omega)
    · cases declares
      exact fixed
  case l2tp =>
    obtain ⟨-, same⟩ := Option.ite_none_right_eq_some.mp declares
    rw [← Option.some.inj same]
    split <;> omega
  case gtp =>
    unfold gtpLength at declares
    dsimp only at declares
    split at declares
    · cases declares
    split at declares
    · cases declares
      decide
    · exact Nat.le_trans (by decide) (extensionsEnd_le declares).1
  all_goals grind

theorem parsers_advance {base : Nat} {parser : Parser} (found : parsers layer = some (base, parser)) :
    Meets (parser below data base) (Advances layer data (declaredLength below data layer)) := by
  cases layer <;> cases found
  case ethernet => exact fixedHeader_advances (by decide) (by decide)
  case vlan => exact fixedHeader_advances (by decide) (by decide)
  case pppoeSession => exact Meets.pure (.exact (by decide))
  case ppp =>
    dsimp only [declaredLength]
    unfold pppDelamination
    split
    · exact fixedHeader_advances (by decide) (by decide)
    · exact fixedHeader_advances (by decide) (by decide)
  case mpls => exact mpls_advances
  case ipv4 => exact ipv4_advances
  case ipv6 => exact ipv6_advances
  case ipv6ExtFragment => exact fragment_advances
  case ipv6ExtEsp => exact Meets.pure (.unsupported (by decide))
  case ipv6ExtAh =>
    have same : declaredLength below data .ipv6ExtAh =
        if 12 ≤ (fieldAt data 1 1 + 2) * 4 then some ((fieldAt data 1 1 + 2) * 4) else none :=
      if_congr (by omega) rfl rfl
    rw [same]
    exact extensionHeader_advances (by decide) (by decide) (by decide)
  case gre => exact gre_advances
  case tcp => exact tcp_advances
  case udp => exact udp_advances
  case sctp => exact sctp_advances
  case vxlan => exact vxlan_advances
  case vxlanGpe => exact vxlan_advances
  case geneve => exact geneve_advances
  case l2tp => exact l2tp_advances
  case gtp => exact gtp_advances
  all_goals exact options_advances

/-- Where the layer behind some layers starts, or the payload. -/
def nextStart : List Entry → Nat → Nat
  | [], payload => payload
  | entry :: _, _ => entry.offset

/-- What follows a layer whose header is complete. -/
structure Follows (packet : List UInt8) (below : ELayer) (entry : Entry) (next : Nat) : Prop where
  minimum : ∀ length, declaredLength below (packet.drop entry.offset) entry.layer = some length →
    minimumLength below entry.layer ≤ length
  reaches : ∀ length, declaredLength below (packet.drop entry.offset) entry.layer = some length →
    entry.offset + length ≤ packet.length → length < 2 ^ 16 → next = min (entry.offset + length) 65535
  rejects : ∀ length, declaredLength below (packet.drop entry.offset) entry.layer = some length →
    entry.offset + length ≤ packet.length → 2 ^ 16 ≤ length → entry.layer ≠ .sctp → next = entry.offset

/-- Every layer is followed by the next one, and the last by the payload. -/
def Walked (packet : List UInt8) : ELayer → List Entry → Nat → Prop
  | _, [], _ => True
  | below, entry :: rest, payload =>
      Follows packet below entry (nextStart rest payload) ∧ Walked packet entry.layer rest payload

/-- What the walk finds from an offset on. -/
structure Found (packet : List UInt8) (degrees : Nat) (below : ELayer) (offset : Nat) (found : Layers) : Prop where
  few : found.layers.length ≤ degrees
  start : nextStart found.layers found.payload = min offset 65535
  inside : ∀ entry ∈ found.layers, offset ≤ entry.offset ∧ entry.offset < packet.length
  ordered : (found.layers.map Entry.offset).Pairwise (· ≤ ·)
  walked : Walked packet below found.layers found.payload

theorem Found.empty (packet : List UInt8) (degrees : Nat) (below : ELayer) (offset : Nat) :
    Found packet degrees below offset ⟨[], min offset 65535⟩ where
  few := Nat.zero_le _
  start := rfl
  inside _ mem := nomatch mem
  ordered := .nil
  walked := trivial

theorem layerFrom_found (packet : List UInt8) (degrees : Nat) (below layer : ELayer) (offset : Nat) :
    Meets (layerFrom packet degrees below layer offset) (Found packet degrees below offset) := by
  induction degrees generalizing below layer offset with
  | zero => exact Meets.pure (.empty packet _ below offset)
  | succ degrees ih =>
      unfold layerFrom
      split
      · rename_i more
        split
        · exact Meets.pure (.empty packet _ below offset)
        · rename_i base parser found
          refine Meets.bind (parsers_advance found) fun res _ advances => ?_
          refine Meets.bind (ih layer res.next (offset + res.offset)) fun rest _ later => Meets.pure ?_
          have size : (packet.drop offset).length = packet.length - offset := List.length_drop
          refine ⟨Nat.succ_le_succ later.few, (Nat.min_eq_left more.1).symm, fun entry mem => ?_,
            List.pairwise_cons.mpr ⟨fun _ mem => ?_, later.ordered⟩, ⟨?_, ?_, ?_⟩, later.walked⟩
          · rcases List.mem_cons.mp mem with rfl | mem
            · exact ⟨Nat.le_refl _, more.2.1⟩
            · have := later.inside entry mem
              omega
          · obtain ⟨entry, behind, rfl⟩ := List.mem_map.mp mem
            have := later.inside entry behind
            dsimp only
            omega
          · exact fun length declares => minimumLength_le declares
          · intro length declares inside fits
            rw [later.start, advances.reaches length declares (by dsimp only at inside; omega) fits]
          · intro length declares inside large other
            rw [later.start, advances.rejects length declares (by dsimp only at inside; omega) large other]
            exact Nat.min_eq_left more.1
      · exact Meets.pure (.empty packet _ below offset)

/-- The walk ends without a read outside of the packet. It finds at most fifteen layers, in the order of their
offsets, which lie inside. A layer whose header is complete is followed at the length of the header. -/
theorem layer_found (packet : List UInt8) : ∃ found, NetworkLayer.layer packet = .ok found ∧ found.layers.length ≤ 15 ∧
    (∀ entry ∈ found.layers, entry.offset < packet.length) ∧
    (found.layers.map Entry.offset).Pairwise (· ≤ ·) ∧ Walked packet .none found.layers found.payload := by
  have meets := layerFrom_found packet maxLayers .none .ethernet 0
  match walked : NetworkLayer.layer packet with
  | .ok found =>
      have found_ := Meets.of_ok meets walked
      exact ⟨found, rfl, found_.few, fun entry mem => (found_.inside entry mem).2, found_.ordered, found_.walked⟩
  | .error (.failure wrong) => exact nomatch wrong
  | .error .fault =>
      unfold NetworkLayer.layer at walked
      rw [walked] at meets
      exact meets.elim
  | .error .cutOff =>
      unfold NetworkLayer.layer at walked
      rw [walked] at meets
      exact meets.elim

/-- The headers of Ethernet, IPv4, UDP and L2TP, of which the last has a padding. -/
def paddedPacket (high low : UInt8) (padding : List UInt8) : List UInt8 :=
  [0, 0, 0, 0, 0, 0, 0, 0, 0, 0, 0, 0, 0x08, 0x00] ++
  [0x45, 0, 0, 0, 0, 0, 0, 0, 0, 17, 0, 0, 0, 0, 0, 0, 0, 0, 0, 0] ++
  [0, 0, 0x06, 0xA5, 0, 0, 0, 0] ++ [0x02, 0x02, 0, 0, 0, 0, high, low] ++ padding

/-- One step of the walk. -/
theorem layerFrom_step {packet : List UInt8} {degrees offset base : Nat} {below layer : ELayer} {parser : Parser}
    {res : Result} {rest : Layers} (parsed : parsers layer = some (base, parser))
    (answer : parser below (packet.drop offset) base = .ok res)
    (later : layerFrom packet degrees layer res.next (offset + res.offset) = .ok rest)
    (here : offset ≤ 65535 ∧ offset < packet.length ∧ layer ≠ .none) :
    layerFrom packet (degrees + 1) below layer offset = .ok ⟨⟨offset, layer⟩ :: rest.layers, rest.payload⟩ := by
  rw [layerFrom, if_pos here, parsed]
  simp only [answer, later, bind, Except.bind]
  rfl

section Padded

variable (high low : UInt8) (padding : List UInt8)

theorem paddedPacket_length : (paddedPacket high low padding).length = 50 + padding.length := by
  rw [paddedPacket, List.length_append]
  rfl

/-- Each header is read on its own. -/
theorem paddedPacket_headers :
    ethernetDelamination .none (paddedPacket high low padding) 14 = .ok ⟨14, .ipv4⟩ ∧
    ipv4Delamination .ethernet ((paddedPacket high low padding).drop 14) 20 = .ok ⟨20, .udp⟩ ∧
    udpDelamination .ipv4 ((paddedPacket high low padding).drop 34) 8 = .ok ⟨8, .l2tp⟩ ∧
    l2tpDelamination .udp ((paddedPacket high low padding).drop 42) 6 =
      l2tpPadding ((paddedPacket high low padding).drop 42) 6 ∧
    declaredLength .udp ((paddedPacket high low padding).drop 42) .l2tp =
      some (8 + fieldAt ((paddedPacket high low padding).drop 42) 6 2) := by
  have bits : Nat.testBit 2 7 = false ∧ Nat.testBit 2 6 = false ∧ Nat.testBit 2 3 = false ∧ Nat.testBit 2 1 = true := by
    decide
  refine ⟨?_, ?_, ?_, ?_, ?_⟩ <;>
    simp +arith [ethernetDelamination, fixedHeader, loadAt, fieldAt, Library.BigEndian.get, paddedPacket, ethernetNext,
      vlanNext, ipv4Delamination, ipv4Next, udpDelamination, portNext, l2tpDelamination, declaredLength, l2tpLength,
      bits, bind, Except.bind, pure, Except.pure]

theorem paddedPacket_padding {field : Nat} (read : fieldAt ((paddedPacket high low padding).drop 42) 6 2 = field) :
    l2tpPadding ((paddedPacket high low padding).drop 42) 6 =
      .ok (if 65535 < 8 + field then invalid else ⟨8 + field, if field ≤ padding.length then .ppp else .none⟩) := by
  have length : ((paddedPacket high low padding).drop 42).length = 8 + padding.length := by
    rw [List.length_drop, paddedPacket_length]
    omega
  rw [l2tpPadding, if_pos (by omega), loadAt, if_pos (by omega), read, length]
  simp only [bind, Except.bind, Nat.add_le_add_iff_left]
  split <;> rfl

/-- The walk goes through the four headers, and the advance over the padding decides where the payload starts. -/
theorem paddedPacket_layers {advance : Nat} {last : ELayer}
    (padded : l2tpPadding ((paddedPacket high low padding).drop 42) 6 = .ok ⟨advance, last⟩)
    (ends : ¬ (42 + advance ≤ 65535 ∧ 42 + advance < (paddedPacket high low padding).length ∧ last ≠ .none)) :
    NetworkLayer.layer (paddedPacket high low padding) =
      .ok ⟨[⟨0, .ethernet⟩, ⟨14, .ipv4⟩, ⟨34, .udp⟩, ⟨42, .l2tp⟩], min (42 + advance) 65535⟩ := by
  have length := paddedPacket_length high low padding
  obtain ⟨ethernet_, ipv4_, udp_, l2tp_, -⟩ := paddedPacket_headers high low padding
  have payload : layerFrom (paddedPacket high low padding) 11 .l2tp last (42 + advance) =
      .ok ⟨[], min (42 + advance) 65535⟩ := by
    rw [layerFrom, if_neg ends]
    rfl
  have l2tp : layerFrom (paddedPacket high low padding) 12 .udp .l2tp 42 = _ :=
    layerFrom_step rfl (l2tp_.trans padded) payload ⟨by decide, by omega, by decide⟩
  have udp : layerFrom (paddedPacket high low padding) 13 .ipv4 .udp 34 = _ :=
    layerFrom_step rfl udp_ l2tp ⟨by decide, by omega, by decide⟩
  have ipv4 : layerFrom (paddedPacket high low padding) 14 .ethernet .ipv4 14 = _ :=
    layerFrom_step rfl ipv4_ udp ⟨by decide, by omega, by decide⟩
  have ethernet : layerFrom (paddedPacket high low padding) 15 .none .ethernet 0 = _ :=
    layerFrom_step rfl ethernet_ ipv4 ⟨by decide, by omega, by decide⟩
  exact ethernet

end Padded

/-- The first L2TP header ends behind what the 16 bits of the payload can hold, and the second is too long for
the 16 bits of an advance. All bytes of both are there. -/
theorem long_headers_cut :
    NetworkLayer.layer (paddedPacket 0xFF 0xF7 (.replicate 65527 0)) =
        .ok ⟨[⟨0, .ethernet⟩, ⟨14, .ipv4⟩, ⟨34, .udp⟩, ⟨42, .l2tp⟩], 65535⟩ ∧
    declaredLength .udp ((paddedPacket 0xFF 0xF7 (.replicate 65527 0)).drop 42) .l2tp = some 65535 ∧
    (paddedPacket 0xFF 0xF7 (.replicate 65527 0)).length = 42 + 65535 ∧
    NetworkLayer.layer (paddedPacket 0xFF 0xFF (.replicate 65535 0)) =
        .ok ⟨[⟨0, .ethernet⟩, ⟨14, .ipv4⟩, ⟨34, .udp⟩, ⟨42, .l2tp⟩], 42⟩ ∧
    declaredLength .udp ((paddedPacket 0xFF 0xFF (.replicate 65535 0)).drop 42) .l2tp = some 65543 ∧
    (paddedPacket 0xFF 0xFF (.replicate 65535 0)).length = 42 + 65543 := by
  have first : fieldAt ((paddedPacket 0xFF 0xF7 (.replicate 65527 0)).drop 42) 6 2 = 65527 := rfl
  have second : fieldAt ((paddedPacket 0xFF 0xFF (.replicate 65535 0)).drop 42) 6 2 = 65535 := rfl
  have reached := paddedPacket_padding 0xFF 0xF7 (.replicate 65527 0) first
  have rejected := paddedPacket_padding 0xFF 0xFF (.replicate 65535 0) second
  rw [if_neg (by decide), if_pos (by rw [List.length_replicate])] at reached
  rw [if_pos (by decide)] at rejected
  have declares := (paddedPacket_headers 0xFF 0xF7 (.replicate 65527 0)).2.2.2.2
  have declares_ := (paddedPacket_headers 0xFF 0xFF (.replicate 65535 0)).2.2.2.2
  rw [first] at declares
  rw [second] at declares_
  refine ⟨paddedPacket_layers _ _ _ reached fun inside => ?_, declares, ?_,
    paddedPacket_layers _ _ _ rejected fun inside => inside.2.2 rfl, declares_, ?_⟩
  · exact absurd inside.1 (by decide)
  · rw [paddedPacket_length, List.length_replicate]
  · rw [paddedPacket_length, List.length_replicate]

end Flowsql.Npi.NetworkLayer
