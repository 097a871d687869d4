import Flowsql.Library.UnambiguousCodes
import Flowsql.Npm.DnsMessages

/-!
# Names and layout of DNS messages

What a compressed name expands to, without a loop, and what `ReadName` makes of it. A complete message is
filled by its header, its question and its records.
-/

namespace Flowsql.Npm

open Flowsql.Library.Codes

/-- The low fourteen bits of a compression pointer. -/
def pointerTarget (high low : UInt8) : Nat :=
  (high &&& 0x3f).toNat * 256 + low.toNat

/-- The labels of a name at a position, the pointers on the way, and where the name ends in place. -/
inductive Expands (body : List UInt8) : Nat → List (List UInt8) → Nat → Nat → Prop where
  | root {position : Nat} : body[position]? = some 0 → Expands body position [] 0 (position + 1)
  | label {position pointers finish : Nat} {length : UInt8} {labels : List (List UInt8)} :
      body[position]? = some length → length ≠ 0 → length ≤ 63 →
      position + 1 + length.toNat ≤ body.length →
      Expands body (position + 1 + length.toNat) labels pointers finish →
      Expands body position ((body.drop (position + 1)).take length.toNat :: labels) pointers finish
  | pointer {position pointers finish : Nat} {high low : UInt8} {labels : List (List UInt8)} :
      body[position]? = some high → high &&& 0xc0 = 0xc0 → body[position + 1]? = some low →
      pointerTarget high low < position →
      Expands body (pointerTarget high low) labels pointers finish →
      Expands body position labels (pointers + 1) (position + 2)

/-- The bytes of some labels with their lengths. -/
def labelsSize (labels : List (List UInt8)) : Nat :=
  (labels.map fun label => 1 + label.length).sum

/-- The wire form of a name, its letters folded. -/
def wireName (labels : List (List UInt8)) : List UInt8 :=
  labels.flatMap (fun label => UInt8.ofNat label.length :: label.map foldAscii) ++ [0]

/-- Labels behind this many others, with dots between all of them. -/
def displayLabels : Nat → List (List UInt8) → List UInt8
  | _, [] => []
  | before, label :: labels =>
      (if before = 0 then [] else ['.'.toUInt8]) ++ label.flatMap displayByte ++
        displayLabels (before + 1) labels

/-- The display text of a name. -/
def displayName (labels : List (List UInt8)) : List UInt8 :=
  if labels = [] then ['.'.toUInt8] else displayLabels 0 labels

/-! ## The walk over a name -/

namespace DnsNameReader

variable {body : List UInt8} {reader next last : DnsNameReader} {labels : List (List UInt8)}
  {pointers finish : Nat}

/-- What the walk still reads fits, and what it ends with. -/
structure Completes (reader last : DnsNameReader) (labels : List (List UInt8)) (pointers finish : Nat) :
    Prop where
  pointers : reader.pointers + pointers ≤ 255
  expanded : reader.expanded + labelsSize labels ≤ 255
  offset : last.offset = if reader.jumped then reader.offset else finish
  wire : last.wire = reader.wire ++ wireName labels
  display : last.display =
    if reader.labels + labels.length = 0 then ['.'.toUInt8]
    else reader.display ++ displayLabels reader.labels labels

/-- The reader behind a pointer. -/
def jump (reader : DnsNameReader) (target : Nat) : DnsNameReader :=
  { reader with
    offset := if reader.jumped then reader.offset else reader.cursor + 2
    cursor := target
    jumped := true
    pointers := reader.pointers + 1 }

/-- The reader behind a label. -/
def take (reader : DnsNameReader) (label : List UInt8) : DnsNameReader :=
  { reader with
    cursor := reader.cursor + 1 + label.length
    expanded := reader.expanded + 1 + label.length
    labels := reader.labels + 1
    wire := reader.wire ++ UInt8.ofNat label.length :: label.map foldAscii
    display := reader.display ++ (if reader.labels = 0 then [] else ['.'.toUInt8]) ++
      label.flatMap displayByte }

theorem completes_jump {target : Nat} :
    Completes (reader.jump target) last labels pointers finish ↔
      Completes reader last labels (pointers + 1) (reader.cursor + 2) := by
  have count : reader.pointers + 1 + pointers = reader.pointers + (pointers + 1) := by omega
  constructor
  · rintro ⟨bound, expanded, offset, wire, display⟩
    exact ⟨count ▸ bound, expanded, offset, wire, display⟩
  · rintro ⟨bound, expanded, offset, wire, display⟩
    exact ⟨count ▸ bound, expanded, offset, wire, display⟩

theorem completes_take {label : List UInt8} :
    Completes (reader.take label) last labels pointers finish ↔
      Completes reader last (label :: labels) pointers finish := by
  have size : reader.expanded + labelsSize (label :: labels) =
      reader.expanded + 1 + label.length + labelsSize labels := by
    simp only [labelsSize, List.map_cons, List.sum_cons]
    omega
  have wires : reader.wire ++ wireName (label :: labels) =
      reader.wire ++ (UInt8.ofNat label.length :: label.map foldAscii) ++ wireName labels := by
    simp [wireName]
  have displays : reader.display ++ displayLabels reader.labels (label :: labels) =
      (reader.take label).display ++ displayLabels (reader.labels + 1) labels := by
    simp [take, displayLabels]
  have some_ : ¬((reader.take label).labels + labels.length = 0) := by
    simp only [take]
    omega
  have more : ¬(reader.labels + (label :: labels).length = 0) := by
    rw [List.length_cons]
    omega
  constructor
  · rintro ⟨bound, expanded, offset, wire, display⟩
    refine ⟨bound, size ▸ expanded, offset, wires ▸ wire, ?_⟩
    rw [if_neg more, displays]
    rwa [if_neg some_] at display
  · rintro ⟨bound, expanded, offset, wire, display⟩
    refine ⟨bound, size ▸ expanded, offset, wires ▸ wire, ?_⟩
    rw [if_neg more, displays] at display
    rwa [if_neg some_]

theorem completes_finish (bounded : reader.pointers ≤ 255 ∧ reader.expanded ≤ 255) :
    Completes reader reader.finish [] 0 (reader.cursor + 1) where
  pointers := bounded.1
  expanded := bounded.2
  offset := rfl
  wire := rfl
  display := by simp [DnsNameReader.finish, displayLabels]

/-! ## One round -/

theorem followPointer_eq_again {high low : UInt8} (read : body[reader.cursor + 1]? = some low)
    (back : pointerTarget high low < reader.cursor) (inside : reader.cursor < body.length)
    (room : reader.pointers < 255) :
    reader.followPointer body high = .again (reader.jump (pointerTarget high low)) := by
  unfold followPointer
  rw [read]
  dsimp only
  rw [if_neg (by omega), if_neg]
  · rfl
  · unfold pointerTarget at back
    omega

theorem of_followPointer {high : UInt8} (again : reader.followPointer body high = .again next) :
    ∃ low, body[reader.cursor + 1]? = some low ∧ pointerTarget high low < reader.cursor ∧
      reader.pointers < 255 ∧ next = reader.jump (pointerTarget high low) := by
  unfold followPointer at again
  split at again
  · cases again
  · rename_i low read
    dsimp only at again
    split at again
    · cases again
    · split at again
      · cases again
      · cases again
        refine ⟨low, read, ?_, by omega, rfl⟩
        unfold pointerTarget
        omega

/-- The bytes of a label at the cursor. -/
def labelAt (body : List UInt8) (position length : Nat) : List UInt8 :=
  (body.drop (position + 1)).take length

theorem length_labelAt {position length : Nat} (fits : position + 1 + length ≤ body.length) :
    (labelAt body position length).length = length := by
  rw [labelAt, List.length_take, List.length_drop]
  omega

theorem readLabel_eq_again {length : Nat} (fits : reader.cursor + 1 + length ≤ body.length)
    (room : reader.expanded + 1 + length ≤ 255) :
    reader.readLabel body length = .again (reader.take (labelAt body reader.cursor length)) := by
  unfold readLabel
  dsimp only
  rw [if_neg (by omega), take, length_labelAt fits]
  rfl

theorem of_readLabel {length : Nat} (inside : reader.cursor < body.length)
    (again : reader.readLabel body length = .again next) :
    reader.cursor + 1 + length ≤ body.length ∧ reader.expanded + 1 + length ≤ 255 ∧
      next = reader.take (labelAt body reader.cursor length) := by
  have fits : reader.cursor + 1 + length ≤ body.length ∧ reader.expanded + 1 + length ≤ 255 := by
    unfold readLabel at again
    dsimp only at again
    split at again
    · cases again
    · omega
  rw [readLabel_eq_again fits.1 fits.2] at again
  cases again
  exact ⟨fits.1, fits.2, rfl⟩

/-- The first two bits of a label's length are zero. -/
theorem label_bits {length : UInt8} (short : length ≤ 63) : length &&& 0xc0 = 0 := by
  have all : ∀ value < 64, UInt8.ofNat value &&& 0xc0 = 0 := by decide
  have small : length.toNat < 64 := Nat.lt_succ_of_le (UInt8.le_iff_toNat_le.mp short)
  have found := all length.toNat small
  rwa [UInt8.ofNat_toNat] at found

/-! ## The whole walk -/

/-- A walk that ends has read a name. -/
theorem of_run {rounds : Nat} (reader : DnsNameReader)
    (bounded : reader.pointers ≤ 255 ∧ reader.expanded ≤ 255)
    (ended : run body rounds reader = some last) :
    ∃ labels pointers finish, Expands body reader.cursor labels pointers finish ∧
      Completes reader last labels pointers finish := by
  induction rounds generalizing reader with
  | zero => cases ended
  | succ rounds ih =>
      unfold run at ended
      split at ended
      · rename_i next again
        unfold round at again
        split at again
        · cases again
        · rename_i length read
          have inside : reader.cursor < body.length := (List.getElem?_eq_some_iff.mp read).1
          split at again
          · rename_i marked
            obtain ⟨low, readLow, back, room, rfl⟩ := of_followPointer again
            obtain ⟨labels, pointers, finish, expands, completes⟩ :=
              ih (reader.jump (pointerTarget length low)) ⟨room, bounded.2⟩ ended
            exact ⟨labels, pointers + 1, reader.cursor + 2, .pointer read marked readLow back expands,
              completes_jump.mp completes⟩
          · split at again
            · cases again
            · rename_i plain
              split at again
              · cases again
              · rename_i nonzero
                obtain ⟨fits, room, rfl⟩ := of_readLabel inside again
                have size := length_labelAt fits
                obtain ⟨labels, pointers, finish, expands, completes⟩ :=
                  ih (reader.take (labelAt body reader.cursor length.toNat))
                    ⟨bounded.1, by rw [take, size]; exact room⟩ ended
                have short : length ≤ 63 := UInt8.not_lt.mp fun long => plain (.inr long)
                rw [take, size] at expands
                exact ⟨labelAt body reader.cursor length.toNat :: labels, pointers, finish,
                  .label read nonzero short fits expands, completes_take.mp completes⟩
      · rename_i accepted same
        cases ended
        unfold round at same
        split at same
        · cases same
        · rename_i length read
          split at same
          · unfold followPointer at same
            split at same
            · cases same
            · dsimp only at same
              split at same
              · cases same
              · split at same <;> cases same
          · split at same
            · cases same
            · split at same
              · rename_i zero
                cases same
                exact ⟨[], 0, reader.cursor + 1, .root (zero ▸ read), completes_finish bounded⟩
              · unfold readLabel at same
                dsimp only at same
                split at same <;> cases same
      · cases ended

/-- A walk over a name within the limits ends. -/
theorem run_of_expands {position rounds : Nat} (reader : DnsNameReader)
    (expands : Expands body position labels pointers finish)
    (here : reader.cursor = position) (room : reader.pointers + pointers ≤ 255)
    (size : reader.expanded + labelsSize labels ≤ 255) (enough : reader.fuel ≤ rounds) :
    ∃ last, run body rounds reader = some last ∧ Completes reader last labels pointers finish := by
  induction expands generalizing reader rounds with
  | root read =>
      subst here
      cases rounds with
      | zero => exact absurd enough (by simp [fuel])
      | succ rounds =>
          have done : reader.round body = .accepted reader.finish := by
            unfold round
            rw [read]
            rfl
          exact ⟨reader.finish, by rw [run, done], completes_finish ⟨room, size⟩⟩
  | @label position pointers finish length labels read nonzero short fits _ ih =>
      subst here
      have measured := length_labelAt fits
      have counted : reader.expanded + 1 + length.toNat + labelsSize labels ≤ 255 := by
        have sum : labelsSize (labelAt body reader.cursor length.toNat :: labels) =
            1 + length.toNat + labelsSize labels := by
          rw [labelsSize, List.map_cons, List.sum_cons, measured]
          rfl
        have size : reader.expanded + labelsSize (labelAt body reader.cursor length.toNat :: labels) ≤ 255 :=
          size
        omega
      have again : reader.round body =
          .again (reader.take (labelAt body reader.cursor length.toNat)) := by
        unfold round
        rw [read]
        dsimp only
        rw [label_bits short, if_neg (by decide), if_neg, if_neg nonzero,
          readLabel_eq_again fits (by omega)]
        rintro (wrong | long)
        · exact wrong rfl
        · exact UInt8.not_lt.mpr short long
      have fewer := round_fuel again
      cases rounds with
      | zero => exact absurd enough (by simp [fuel])
      | succ rounds =>
          obtain ⟨last, ran, completes⟩ := ih
            (reader.take (labelAt body reader.cursor length.toNat)) (by rw [take, measured]) room (by rw [take, measured]; exact counted)
            (Nat.le_of_lt_succ (Nat.lt_of_lt_of_le fewer enough))
          exact ⟨last, by rw [run, again]; exact ran, completes_take.mp completes⟩
  | @pointer position pointers finish high low labels read marked readLow back _ ih =>
      subst here
      have inside : reader.cursor < body.length := (List.getElem?_eq_some_iff.mp read).1
      have again : reader.round body = .again (reader.jump (pointerTarget high low)) := by
        unfold round
        rw [read]
        dsimp only
        rw [if_pos marked, followPointer_eq_again readLow back inside (by omega)]
      have fewer := round_fuel again
      cases rounds with
      | zero => exact absurd enough (by simp [fuel])
      | succ rounds =>
          obtain ⟨last, ran, completes⟩ := ih (reader.jump (pointerTarget high low)) rfl
            (by simp only [jump]; omega) size (Nat.le_of_lt_succ (Nat.lt_of_lt_of_le fewer enough))
          exact ⟨last, by rw [run, again]; exact ran, completes_jump.mp completes⟩

end DnsNameReader

/-- A name is read exactly when it expands within the limits. -/
theorem readName_iff {body wire display : List UInt8} {offset finish : Nat} :
    (∃ name, readName body offset = some name ∧ name.offset = finish ∧ name.wire = wire ∧
      name.display = display) ↔
    ∃ labels pointers, Expands body offset labels pointers finish ∧ pointers ≤ 255 ∧
      (wireName labels).length ≤ 255 ∧ wire = wireName labels ∧ display = displayName labels := by
  have size (labels : List (List UInt8)) : (wireName labels).length = 1 + labelsSize labels := by
    induction labels with
    | nil => rfl
    | cons label labels ih =>
        simp only [wireName, labelsSize, List.flatMap_cons, List.append_assoc, List.length_append,
          List.length_cons, List.length_map, List.map_cons, List.sum_cons] at ih ⊢
        omega
  have shown (labels : List (List UInt8)) : displayName labels =
      if 0 + labels.length = 0 then ['.'.toUInt8] else [] ++ displayLabels 0 labels := by
    unfold displayName
    cases labels <;> simp
  constructor
  · rintro ⟨name, read, rfl, rfl, rfl⟩
    obtain ⟨labels, pointers, finish, expands, completes⟩ :=
      DnsNameReader.of_run { offset := offset, cursor := offset } (by simp) read
    have place : name.offset = finish := completes.offset
    refine ⟨labels, pointers, place ▸ expands, ?_, ?_, completes.wire, ?_⟩
    · have bound := completes.pointers
      simpa using bound
    · rw [size]
      exact completes.expanded
    · rw [shown]
      exact completes.display
  · rintro ⟨labels, pointers, expands, few, short, rfl, rfl⟩
    obtain ⟨name, read, completes⟩ := DnsNameReader.run_of_expands
      { offset := offset, cursor := offset } expands rfl (by simpa using few)
      (by rw [size] at short; exact short) (Nat.le_refl _)
    refine ⟨name, read, completes.offset, completes.wire, ?_⟩
    rw [shown]
    exact completes.display

/-- A name at a position has one expansion. -/
theorem Expands.unique {body : List UInt8} {position pointers finish pointers' finish' : Nat}
    {labels labels' : List (List UInt8)} (left : Expands body position labels pointers finish)
    (right : Expands body position labels' pointers' finish') :
    labels = labels' ∧ pointers = pointers' ∧ finish = finish' := by
  have unmarked {length : UInt8} (short : length ≤ 63) (marked : length &&& 0xc0 = 0xc0) : False := by
    rw [DnsNameReader.label_bits short] at marked
    exact absurd marked (by decide)
  induction left generalizing labels' pointers' finish' with
  | root read =>
      cases right with
      | root _ => exact ⟨rfl, rfl, rfl⟩
      | label read' nonzero => exact absurd (Option.some.inj (read'.symm.trans read)) nonzero
      | pointer read' marked =>
          obtain rfl := Option.some.inj (read'.symm.trans read)
          exact (unmarked (by decide) marked).elim
  | label read nonzero short _ _ ih =>
      cases right with
      | root read' => exact absurd (Option.some.inj (read.symm.trans read')) nonzero
      | label read' _ _ _ right =>
          obtain rfl := Option.some.inj (read.symm.trans read')
          obtain ⟨rfl, rfl, rfl⟩ := ih right
          exact ⟨rfl, rfl, rfl⟩
      | pointer read' marked =>
          obtain rfl := Option.some.inj (read.symm.trans read')
          exact (unmarked short marked).elim
  | pointer read marked low _ _ ih =>
      cases right with
      | root read' =>
          obtain rfl := Option.some.inj (read.symm.trans read')
          exact (unmarked (by decide) marked).elim
      | label read' _ short =>
          obtain rfl := Option.some.inj (read.symm.trans read')
          exact (unmarked short marked).elim
      | pointer read' _ low' _ right =>
          obtain rfl := Option.some.inj (read.symm.trans read')
          obtain rfl := Option.some.inj (low.symm.trans low')
          obtain ⟨rfl, rfl, -⟩ := ih right
          exact ⟨rfl, rfl, rfl⟩

/-- The rounds of a walk are bounded, whatever the pointers are. -/
theorem readName_ends (body : List UInt8) (offset rounds : Nat) (enough : 510 ≤ rounds) :
    DnsNameReader.run body rounds { offset := offset, cursor := offset } = readName body offset :=
  DnsNameReader.run_fuel rounds enough

/-! ## Display texts -/

theorem forall_byte {p : UInt8 → Prop} (all : ∀ value < 256, p (UInt8.ofNat value)) (byte : UInt8) :
    p byte := by
  have found := all byte.toNat byte.toNat_lt
  rwa [UInt8.ofNat_toNat] at found

/-- A displayed byte is escaped, plain, or a number of three digits. -/
theorem displayByte_cases (byte : UInt8) :
    ((byte = 46 ∨ byte = 92) ∧ displayByte byte = [92, byte]) ∨
    (byte ≠ 46 ∧ byte ≠ 92 ∧ displayByte byte = [byte]) ∨
    ∃ first second third, displayByte byte = [92, first, second, third] ∧ first ≠ 46 ∧ first ≠ 92 ∧
      (first - 48) * 100 + (second - 48) * 10 + (third - 48) = byte := by
  unfold displayByte
  split
  · rename_i escaped
    exact .inl ⟨escaped, rfl⟩
  · rename_i plain
    split
    · exact .inr (.inl ⟨fun dot => plain (.inl dot), fun slash => plain (.inr slash), rfl⟩)
    · refine .inr (.inr ⟨_, _, _, rfl, ?_⟩)
      exact forall_byte (p := fun byte => '0'.toUInt8 + byte / 100 ≠ 46 ∧
        '0'.toUInt8 + byte / 100 ≠ 92 ∧ ('0'.toUInt8 + byte / 100 - 48) * 100 +
          ('0'.toUInt8 + byte / 10 % 10 - 48) * 10 + ('0'.toUInt8 + byte % 10 - 48) = byte)
        (by decide +kernel) byte

theorem unambiguous_displayByte : Unambiguous id displayByte := by
  intro left right rest other same
  rcases displayByte_cases left with ⟨leftIs, shown⟩ | ⟨-, noSlash, shown⟩ |
      ⟨first, second, third, shown, noDot, noSlash, number⟩ <;>
    rcases displayByte_cases right with ⟨rightIs, shown'⟩ | ⟨-, noSlash', shown'⟩ |
      ⟨first', second', third', shown', noDot', noSlash', number'⟩ <;>
    rw [shown, shown'] at same <;> simp only [List.cons_append, List.nil_append, List.cons.injEq] at same
  · exact ⟨same.2.1, same.2.2⟩
  · exact absurd same.1.symm noSlash'
  · rcases leftIs with rfl | rfl
    · exact absurd same.2.1.symm noDot'
    · exact absurd same.2.1.symm noSlash'
  · exact absurd same.1 noSlash
  · exact same
  · exact absurd same.1 noSlash
  · rcases rightIs with rfl | rfl
    · exact absurd same.2.1 noDot
    · exact absurd same.2.1 noSlash
  · exact absurd same.1.symm noSlash'
  · obtain ⟨-, rfl, rfl, rfl, rests⟩ := same
    exact ⟨number.symm.trans number', rests⟩

/-- What stands behind a label: nothing, or a dot. -/
def EndsLabel (rest : List UInt8) : Prop :=
  rest = [] ∨ ∃ more, rest = 46 :: more

theorem not_endsLabel (byte : UInt8) (rest : List UInt8) : ¬EndsLabel (displayByte byte ++ rest) := by
  rcases displayByte_cases byte with ⟨-, shown⟩ | ⟨noDot, -, shown⟩ | ⟨_, _, _, shown, -⟩ <;>
    rw [shown] <;> rintro (wrong | ⟨more, same⟩)
  · cases wrong
  · exact absurd (List.cons.inj same).1 (by decide)
  · cases wrong
  · exact noDot (List.cons.inj same).1
  · cases wrong
  · exact absurd (List.cons.inj same).1 (by decide)

/-- The label in front of a dot or the end is known from its text. -/
theorem label_inj {lefts rights rest other : List UInt8} (ends : EndsLabel rest) (ends' : EndsLabel other)
    (same : lefts.flatMap displayByte ++ rest = rights.flatMap displayByte ++ other) :
    lefts = rights ∧ rest = other := by
  induction lefts generalizing rights with
  | nil =>
      cases rights with
      | nil => exact ⟨rfl, same⟩
      | cons right rights =>
          rw [List.flatMap_nil, List.nil_append, List.flatMap_cons, List.append_assoc] at same
          exact absurd (same ▸ ends) (not_endsLabel right _)
  | cons left lefts ih =>
      rw [List.flatMap_cons, List.append_assoc] at same
      cases rights with
      | nil =>
          rw [List.flatMap_nil, List.nil_append] at same
          exact absurd (same ▸ ends') (not_endsLabel left _)
      | cons right rights =>
          rw [List.flatMap_cons, List.append_assoc] at same
          obtain ⟨here, same⟩ := unambiguous_displayByte same
          obtain ⟨labels, rests⟩ := ih same
          exact ⟨congrArg₂ List.cons here labels, rests⟩

theorem endsLabel_displayLabels (before : Nat) (labels : List (List UInt8)) :
    EndsLabel (displayLabels (before + 1) labels) := by
  cases labels with
  | nil => exact .inl rfl
  | cons label labels => exact .inr ⟨_, rfl⟩

theorem displayLabels_inj {before : Nat} {lefts rights : List (List UInt8)}
    (same : displayLabels (before + 1) lefts = displayLabels (before + 1) rights) : lefts = rights := by
  induction lefts generalizing before rights with
  | nil =>
      cases rights with
      | nil => rfl
      | cons right rights => cases same
  | cons left lefts ih =>
      cases rights with
      | nil => cases same
      | cons right rights =>
          obtain ⟨labels, rests⟩ := label_inj (endsLabel_displayLabels _ _)
            (endsLabel_displayLabels _ _) (List.cons.inj same).2
          rw [labels, ih rests]

/-- Names of other labels are displayed as other texts. -/
theorem displayName_inj {lefts rights : List (List UInt8)} (filled : ∀ label ∈ lefts, label ≠ [])
    (filled' : ∀ label ∈ rights, label ≠ []) (same : displayName lefts = displayName rights) :
    lefts = rights := by
  have noRoot (label : List UInt8) (labels : List (List UInt8)) (some_ : label ≠ []) :
      displayName (label :: labels) ≠ displayName [] := by
    intro wrong
    obtain ⟨byte, bytes, rfl⟩ := List.exists_cons_of_ne_nil some_
    have dot : EndsLabel (displayName ((byte :: bytes) :: labels)) := wrong ▸ .inr ⟨[], rfl⟩
    rw [displayName, if_neg (by simp), displayLabels, if_pos rfl, List.nil_append, List.flatMap_cons,
      List.append_assoc] at dot
    exact not_endsLabel byte _ dot
  cases lefts with
  | nil =>
      cases rights with
      | nil => rfl
      | cons right rights => exact absurd same.symm (noRoot right rights (filled' right (.head _)))
  | cons left lefts =>
      cases rights with
      | nil => exact absurd same (noRoot left lefts (filled left (.head _)))
      | cons right rights =>
          rw [displayName, displayName, if_neg (by simp), if_neg (by simp)] at same
          obtain ⟨labels, rests⟩ := label_inj (endsLabel_displayLabels _ _)
            (endsLabel_displayLabels _ _) same
          rw [labels, displayLabels_inj rests]

theorem Expands.filled {body : List UInt8} {position pointers finish : Nat} {labels : List (List UInt8)}
    (expands : Expands body position labels pointers finish) : ∀ label ∈ labels, label ≠ [] := by
  induction expands with
  | root _ => simp
  | @label position _ _ length _ _ nonzero _ fits _ ih =>
      rw [List.forall_mem_cons]
      refine ⟨fun empty => nonzero ?_, ih⟩
      have size := DnsNameReader.length_labelAt fits
      rw [DnsNameReader.labelAt, empty] at size
      exact UInt8.toNat_inj.mp size.symm
  | pointer _ _ _ _ _ ih => exact ih

/-! ## The layout of complete messages -/

/-- Options with their data, one behind the other. -/
inductive OptionsFill : List UInt8 → Prop where
  | nothing : OptionsFill []
  | option {first second high low : UInt8} {data rest : List UInt8} :
      data.length = (high.toUInt16 <<< 8 ||| low.toUInt16).toNat → OptionsFill rest →
      OptionsFill (first :: second :: high :: low :: (data ++ rest))

/-- A record from here to there: its owner, ten bytes, and its data, which options fill if its type says so. -/
inductive RecordAt (body : List UInt8) (start stop : Nat) : Prop where
  | record {labels : List (List UInt8)} {pointers fixed : Nat} {type class_ rdlength : UInt16} {ttl : UInt32} :
      Expands body start labels pointers fixed →
      read16 body fixed = some (type, fixed + 2) → read16 body (fixed + 2) = some (class_, fixed + 4) →
      read32 body (fixed + 4) = some (ttl, fixed + 8) →
      read16 body (fixed + 8) = some (rdlength, fixed + 10) →
      stop = fixed + 10 + rdlength.toNat → stop ≤ body.length →
      (type = 41 → OptionsFill ((body.drop (fixed + 10)).take rdlength.toNat)) → RecordAt body start stop

/-- This many records fill a part of a message. -/
inductive RecordsFill (body : List UInt8) : Nat → Nat → Nat → Prop where
  | nothing {position : Nat} : RecordsFill body 0 position position
  | record {count start stop finish : Nat} : RecordAt body start stop →
      RecordsFill body count stop finish → RecordsFill body (count + 1) start finish

/-- The header, one question, and the records that the header counts fill a message. -/
inductive MessageFills (body : List UInt8) : Prop where
  | message {answers authority additional : UInt16} {labels : List (List UInt8)} {pointers fixed : Nat} :
      read16 body 4 = some (1, 6) → read16 body 6 = some (answers, 8) →
      read16 body 8 = some (authority, 10) → read16 body 10 = some (additional, 12) →
      Expands body 12 labels pointers fixed → fixed + 4 ≤ body.length →
      RecordsFill body (answers.toNat + authority.toNat + additional.toNat) (fixed + 4) body.length →
      MessageFills body

theorem RecordsFill.append {body : List UInt8} {first second start middle finish : Nat}
    (before : RecordsFill body first start middle) (after : RecordsFill body second middle finish) :
    RecordsFill body (first + second) start finish := by
  induction before with
  | nothing => rwa [Nat.zero_add]
  | record here _ ih =>
      rw [Nat.add_right_comm]
      exact .record here (ih after)

theorem of_read16 {body : List UInt8} {offset after : Nat} {value : UInt16}
    (read : read16 body offset = some (value, after)) : after = offset + 2 ∧ offset + 2 ≤ body.length := by
  unfold read16 at read
  split at read
  · rename_i high low rest found
    cases read
    have size := congrArg List.length found
    rw [List.length_drop, List.length_cons, List.length_cons] at size
    exact ⟨rfl, by omega⟩
  · cases read

theorem of_read32 {body : List UInt8} {offset after : Nat} {value : UInt32}
    (read : read32 body offset = some (value, after)) : after = offset + 4 := by
  unfold read32 at read
  obtain ⟨⟨high, middle⟩, first, read⟩ := Option.bind_eq_some_iff.mp read
  obtain ⟨⟨low, last⟩, second, same⟩ := Option.map_eq_some_iff.mp read
  cases same
  rw [(of_read16 second).1, (of_read16 first).1]

theorem of_optionsFit {rounds : Nat} {options : List UInt8} (fit : optionsFit rounds options = true) :
    OptionsFill options := by
  induction rounds generalizing options with
  | zero =>
      cases options with
      | nil => exact .nothing
      | cons byte options => cases fit
  | succ rounds ih =>
      unfold optionsFit at fit
      split at fit
      · exact .nothing
      · cases fit
      · rename_i _ first second high low rest same
        obtain rfl := Nat.succ.inj same
        simp only [Bool.and_eq_true, decide_eq_true_eq] at fit
        rw [← List.take_append_drop (high.toUInt16 <<< 8 ||| low.toUInt16).toNat rest]
        refine .option ?_ (ih fit.2)
        rw [List.length_take, Nat.min_eq_left fit.1]
      · cases fit

theorem of_readName {body : List UInt8} {offset : Nat} {name : DnsNameReader}
    (read : readName body offset = some name) :
    ∃ labels pointers, Expands body offset labels pointers name.offset := by
  obtain ⟨labels, pointers, expands, -⟩ := readName_iff.mp ⟨name, read, rfl, rfl, rfl⟩
  exact ⟨labels, pointers, expands⟩

theorem of_readRecord {body : List UInt8} {section_ : Nat} {reader next : DnsRecordReader}
    (read : readRecord body section_ reader = some next) : RecordAt body reader.offset next.offset := by
  simp only [readRecord, Option.bind_eq_bind, Option.bind_eq_some_iff] at read
  obtain ⟨owner, named, ⟨type, first⟩, readType, ⟨class_, second⟩, readClass, ⟨ttl, third⟩, readTtl,
    ⟨rdlength, data⟩, readLength, read⟩ := read
  obtain ⟨labels, pointers, expands⟩ := of_readName named
  obtain rfl := (of_read16 readType).1
  obtain rfl := (of_read16 readClass).1
  obtain rfl := of_read32 readTtl
  obtain ⟨rfl, inside⟩ := of_read16 readLength
  dsimp only at read
  split at read
  · cases read
  · rename_i fits
    have stop : owner.offset + 2 + 2 + 4 + 2 + rdlength.toNat ≤ body.length := by omega
    split at read
    · split at read
      · cases read
      · split at read
        · rename_i fit
          cases read
          exact .record expands readType readClass readTtl readLength rfl stop
            fun _ => of_optionsFit fit
        · cases read
    · rename_i other
      cases read
      exact .record expands readType readClass readTtl readLength rfl stop
        fun options => absurd options other

theorem of_readSection {body : List UInt8} {section_ count : Nat} {reader next : DnsRecordReader}
    (read : readSection body section_ count reader = .ok next) :
    RecordsFill body count reader.offset next.offset := by
  induction count generalizing reader with
  | zero =>
      cases read
      exact .nothing
  | succ count ih =>
      unfold readSection at read
      split at read
      · cases read
      · rename_i middle here
        exact .record (of_readRecord here) (ih read)

theorem of_readHeader {body : List UInt8} {header : DnsMessage}
    {questions answers authority additional : UInt16}
    (read : readHeader body = some (header, questions, answers, authority, additional)) :
    read16 body 4 = some (questions, 6) ∧ read16 body 6 = some (answers, 8) ∧
      read16 body 8 = some (authority, 10) ∧ read16 body 10 = some (additional, 12) := by
  simp only [readHeader, Option.bind_eq_bind, Option.bind_eq_some_iff, Option.pure_def] at read
  obtain ⟨⟨dnsId, first⟩, readId, ⟨flags, second⟩, readFlags, ⟨_, third⟩, readQuestions,
    ⟨_, fourth⟩, readAnswers, ⟨_, fifth⟩, readAuthority, ⟨_, last⟩, readAdditional, same⟩ := read
  cases same
  obtain rfl := (of_read16 readId).1
  obtain rfl := (of_read16 readFlags).1
  obtain rfl := (of_read16 readQuestions).1
  obtain rfl := (of_read16 readAnswers).1
  obtain rfl := (of_read16 readAuthority).1
  obtain rfl := (of_read16 readAdditional).1
  exact ⟨readQuestions, readAnswers, readAuthority, readAdditional⟩

theorem of_readQuestion {body : List UInt8} {name : DnsNameReader} {qtype qclass : UInt16} {offset : Nat}
    (read : readQuestion body = some (name, qtype, qclass, offset)) :
    ∃ labels pointers, Expands body 12 labels pointers name.offset ∧ offset = name.offset + 4 ∧
      offset ≤ body.length := by
  simp only [readQuestion, Option.bind_eq_bind, Option.bind_eq_some_iff, Option.pure_def] at read
  obtain ⟨_, named, ⟨_, first⟩, readType, ⟨_, second⟩, readClass, same⟩ := read
  cases same
  obtain ⟨labels, pointers, expands⟩ := of_readName named
  obtain rfl := (of_read16 readType).1
  obtain ⟨rfl, inside⟩ := of_read16 readClass
  exact ⟨labels, pointers, expands, rfl, inside⟩

theorem of_sections {body : List UInt8} {answers authority additional : Nat} {start last : DnsRecordReader}
    (read : (do
      let reader ← readSection body 0 answers start
      let reader ← readSection body 1 authority reader
      readSection body 2 additional reader) = .ok last) :
    RecordsFill body (answers + authority + additional) start.offset last.offset := by
  rcases first : readSection body 0 answers start with _ | middle <;> rw [first] at read
  · cases read
  · rcases second : readSection body 1 authority middle with _ | late <;>
      simp only [bind, Except.bind, second] at read
    · cases read
    · exact ((of_readSection first).append (of_readSection second)).append (of_readSection read)

theorem complete_fills {body : List UInt8} {bodyComplete : Bool} {parsed : DnsParsedMessage}
    (complete : parseDnsMessage body bodyComplete = (.complete, parsed)) : MessageFills body := by
  unfold parseDnsMessage at complete
  split at complete
  · cases complete
  · split at complete
    · cases complete
    · rename_i header questions answers authority additional headed
      obtain ⟨readQuestions, readAnswers, readAuthority, readAdditional⟩ := of_readHeader headed
      split at complete
      · cases complete
      · rename_i one
        split at complete
        · cases complete
        · rename_i name qtype qclass offset asked
          obtain ⟨labels, pointers, expands, rfl, inside⟩ := of_readQuestion asked
          dsimp only at complete
          split at complete
          · cases complete
          · split at complete
            · cases complete
            · rename_i last sections
              split at complete
              · cases complete
              · rename_i whole
                have records := of_sections sections
                rw [not_not.mp whole] at records
                rw [not_not.mp one] at readQuestions
                exact .message readQuestions readAnswers readAuthority readAdditional expands inside
                  records

/-- `ReadName` ends after at most 510 rounds, reads the names that expand within the limits, 255 pointers
among them, and displays different names differently; complete messages are filled by their records. -/
theorem dns_names_and_layout :
    (∀ body offset rounds, 510 ≤ rounds →
      DnsNameReader.run body rounds { offset := offset, cursor := offset } = readName body offset) ∧
    (∀ body offset finish wire display,
      (∃ name, readName body offset = some name ∧ name.offset = finish ∧ name.wire = wire ∧
        name.display = display) ↔
      ∃ labels pointers, Expands body offset labels pointers finish ∧ pointers ≤ 255 ∧
        (wireName labels).length ≤ 255 ∧ wire = wireName labels ∧ display = displayName labels) ∧
    (∀ body offset labels pointers finish other place labels' pointers' finish',
      Expands body offset labels pointers finish → Expands other place labels' pointers' finish' →
      labels ≠ labels' → displayName labels ≠ displayName labels') ∧
    ∀ body bodyComplete parsed, parseDnsMessage body bodyComplete = (.complete, parsed) →
      MessageFills body :=
  ⟨readName_ends, fun _ _ _ _ _ => readName_iff,
    fun _ _ _ _ _ _ _ _ _ _ expands expands' other same =>
      other (displayName_inj expands.filled expands'.filled same),
    fun _ _ _ => complete_fills⟩

/-- A query for the address of `a.`, with an option of one byte. -/
def optionQuery : List UInt8 :=
  [0, 7, 1, 0, 0, 1, 0, 0, 0, 0, 0, 1, 1, 97, 0, 0, 1, 0, 1, 0, 0, 41, 16, 0, 0, 0, 0, 0, 0, 5, 0, 3, 0, 1, 9]

theorem optionQuery_fills : MessageFills optionQuery := by
  have complete : (parseDnsMessage optionQuery true).1 = .complete := by decide +kernel
  exact dns_names_and_layout.2.2.2 optionQuery true _ (Prod.ext complete rfl)

/-! ## A chain of pointers -/

def pointerHigh (index : Nat) : UInt8 :=
  UInt8.ofNat (0xc0 + (2 * index - 1) / 256)

def pointerLow (index : Nat) : UInt8 :=
  UInt8.ofNat ((2 * index - 1) % 256)

/-- The empty name, and this many pointers, each to the one before. -/
def pointerChain (count : Nat) : List UInt8 :=
  0 :: (List.range count).flatMap fun index => [pointerHigh index, pointerLow index]

theorem getElem?_pointers (indices : List Nat) (place : Nat) :
    (indices.flatMap fun index => [pointerHigh index, pointerLow index])[2 * place]? =
        indices[place]?.map pointerHigh ∧
      (indices.flatMap fun index => [pointerHigh index, pointerLow index])[2 * place + 1]? =
        indices[place]?.map pointerLow := by
  induction indices generalizing place with
  | nil => exact ⟨rfl, rfl⟩
  | cons index indices ih =>
      cases place with
      | zero => exact ⟨rfl, rfl⟩
      | succ place => exact ih place

/-- Where a pointer of the chain stands, behind the empty name. -/
theorem pointerChain_expands (count : Nat) (few : count ≤ 256) :
    Expands (pointerChain 256) (2 * count - 1) [] count (if count = 0 then 1 else 2 * count + 1) := by
  have bits : ∀ index < 256, pointerHigh index &&& 0xc0 = 0xc0 ∧
      pointerTarget (pointerHigh index) (pointerLow index) = 2 * index - 1 := by decide +kernel
  induction count with
  | zero => exact .root rfl
  | succ count ih =>
      obtain ⟨first, second⟩ := getElem?_pointers (List.range 256) count
      rw [List.getElem?_range few] at first second
      obtain ⟨marked, target⟩ := bits count few
      have back := ih (Nat.le_of_succ_le few)
      rw [← target] at back
      have place : 2 * (count + 1) - 1 = 2 * count + 1 := by omega
      rw [place, if_neg (Nat.succ_ne_zero count)]
      exact .pointer first marked second (by omega) back

/-- The empty name behind 256 pointers that go backwards is not read. -/
theorem long_pointer_chain : ∃ body offset labels pointers finish,
    Expands body offset labels pointers finish ∧ (wireName labels).length ≤ 255 ∧
      readName body offset = none := by
  have expands : Expands (pointerChain 256) 511 [] 256 513 := pointerChain_expands 256 (Nat.le_refl _)
  refine ⟨pointerChain 256, 511, [], 256, 513, expands, by decide, ?_⟩
  rw [Option.eq_none_iff_forall_ne_some]
  intro name read
  obtain ⟨labels, pointers, expands', few, -⟩ := readName_iff.mp ⟨name, read, rfl, rfl, rfl⟩
  obtain ⟨-, rfl, -⟩ := expands.unique expands'
  exact absurd few (by decide)

end Flowsql.Npm
