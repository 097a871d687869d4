import Flowsql.Capture.ReaderState

/-!
# Slots and their holders over the runs of a reader

What has been borrowed is recorded beside the reader, with who has left since. A slot is free when all
batches that it ever held were released, and their owners have left.
-/

namespace Flowsql.Capture

open Flowsql.Library

/-- A borrow that has succeeded. -/
structure LeaseRecord where
  slot : Nat
  batch : RecordBatch
  owner : Nat
  generation : UInt64
  released : Bool := false

/-- The release of the batch at an address. -/
def LeaseRecord.mark (address : Nat) (record : LeaseRecord) : LeaseRecord :=
  if record.batch.address = address then { record with released := true } else record

@[simp] theorem LeaseRecord.mark_slot (address : Nat) (record : LeaseRecord) :
    (record.mark address).slot = record.slot := by
  unfold mark
  split <;> rfl

@[simp] theorem LeaseRecord.mark_batch (address : Nat) (record : LeaseRecord) :
    (record.mark address).batch = record.batch := by
  unfold mark
  split <;> rfl

@[simp] theorem LeaseRecord.mark_owner (address : Nat) (record : LeaseRecord) :
    (record.mark address).owner = record.owner := by
  unfold mark
  split <;> rfl

@[simp] theorem LeaseRecord.mark_generation (address : Nat) (record : LeaseRecord) :
    (record.mark address).generation = record.generation := by
  unfold mark
  split <;> rfl

/-- The reader, the owners that have left, the borrows in their order and the generations that were
opened. -/
structure ReaderWorld where
  reader : CaptureReaderStateV1 := {}
  expired : Nat → Bool := fun _ => false
  leases : List LeaseRecord := []
  generations : List UInt64 := []

inductive ReaderEvent where
  | openReader (identity : CaptureQueueIdentityV1)
      (limits : CaptureReaderLimitsV1)
  | borrow (slot : Nat) (batch : Option RecordBatch) (capturedBytes : Nat) (owner : Option Nat)
      (memory : Bool)
  | release (batch : Option Nat) (memory : Bool)
  | finish
  | cancel
  | fail
  | close
  /-- The last holder of an owner has left. -/
  | drop (owner : Nat)

namespace ReaderWorld

variable (world : ReaderWorld)

/-- The generation that was opened last. -/
def generation : UInt64 := world.generations.getLastD 0

/-- The borrows of a generation. -/
def during (generation : UInt64) : List LeaseRecord :=
  world.leases.filter (·.generation = generation)

/-- The sequences that a generation has delivered. -/
def delivered (generation : UInt64) : List Nat :=
  (world.during generation).flatMap (·.batch.sequences)

/-- Nothing of the slot is outstanding, and all who kept bytes of it have left. -/
def Free (slot : Nat) : Prop :=
  ∀ record ∈ world.leases, record.slot = slot →
    record.released = true ∧ world.expired record.owner = true

/-- What a call that succeeds leaves in the records. -/
def note : ReaderEvent → ReaderWorld
  | .openReader identity _ => { world with generations := world.generations ++ [identity.generation] }
  | .borrow slot (some batch) _ (some owner) _ =>
      { world with
        leases := world.leases ++
          [{ slot := slot, batch := batch, owner := owner, generation := world.generation }] }
  | .release (some address) _ => { world with leases := world.leases.map (·.mark address) }
  | .drop owner => { world with expired := fun other => other = owner || world.expired other }
  | _ => world

/-- The call itself. -/
def call : ReaderEvent → Int × CaptureReaderStateV1
  | .openReader identity limits => world.reader.openReader identity limits
  | .borrow slot batch capturedBytes owner memory =>
      world.reader.borrow world.expired slot batch capturedBytes owner memory
  | .release batch memory => world.reader.release batch memory
  | .finish => (0, world.reader.finish)
  | .cancel => (0, world.reader.cancel)
  | .fail => (0, world.reader.fail)
  | .close => world.reader.close world.expired
  | .drop _ => (0, world.reader)

def apply (event : ReaderEvent) : Int × ReaderWorld :=
  let (rc, reader) := world.call event
  (rc, { (if rc = 0 then world.note event else world) with reader := reader })

def step (world : ReaderWorld) (event : ReaderEvent) : Option ReaderWorld :=
  some (world.apply event).2

/-- The events of a run, one after the other. -/
def run (events : List ReaderEvent) : ReaderWorld :=
  events.foldl (fun world event => (world.apply event).2) {}

theorem during_note_borrow (slot : Nat) (batch : RecordBatch) (capturedBytes owner : Nat)
    (memory : Bool) (generation : UInt64) :
    (world.note (.borrow slot (some batch) capturedBytes (some owner) memory)).during generation =
      world.during generation ++ if world.generation = generation then
        [{ slot := slot, batch := batch, owner := owner, generation := world.generation }] else [] := by
  unfold during
  rw [note, List.filter_append]
  by_cases current : world.generation = generation <;> simp [current]

theorem during_note_release (address : Nat) (memory : Bool) (generation : UInt64) :
    (world.note (.release (some address) memory)).during generation =
      (world.during generation).map (·.mark address) := by
  unfold during
  rw [note, List.filter_map]
  simp only [Function.comp_def, LeaseRecord.mark_generation]

end ReaderWorld

/-! ## The invariant -/

structure Guarded (world : ReaderWorld) : Prop where
  outstanding : ∀ address lease, world.reader.outstanding.lookup address = some lease ↔
    ∃ record ∈ world.leases, record.released = false ∧ record.batch.address = address ∧
      lease = ⟨record.slot, record.owner⟩
  active : ∀ slot address, world.reader.activeSlots.lookup slot = some address ↔
    ∃ lease, world.reader.outstanding.lookup address = some lease ∧ lease.slot = slot
  sizes : world.reader.activeSlots.entries.length = world.reader.outstanding.entries.length
  room : world.reader.outstanding.entries.length ≤ world.reader.limits.maxOutstandingBatches
  kept : ∀ record ∈ world.leases, record.released = true →
    world.expired record.owner = true ∨
      world.reader.activeSlots.lookup record.slot = none ∧
        world.reader.retiredSlots.lookup record.slot = some record.owner
  shut : world.reader.opened = false → world.reader.outstanding.entries = []

/-- What the reader remembers of the generation that was opened last. -/
structure Counted (world : ReaderWorld) : Prop where
  latest : world.reader.lastGeneration = world.generation
  earlier : ∀ generation ∈ world.generations, generation ≤ world.generation
  recorded : ∀ record ∈ world.leases, record.generation ≤ world.generation
  rising : world.generations.Pairwise (· < ·)
  increasing : ∀ generation, (world.delivered generation).Pairwise (· < ·)
  last : world.reader.lastPacketSequence = (world.delivered world.generation).getLast?
  packets : world.reader.deliveredPackets =
    min UINT64_MAX ((world.during world.generation).map (·.batch.rows.length)).sum
  bytes : world.reader.deliveredBytes =
    min UINT64_MAX ((world.during world.generation).map (·.batch.rawBytes)).sum

namespace Guarded

variable {world : ReaderWorld} {after : CaptureReaderStateV1}

theorem initially : Guarded {} where
  outstanding _ _ := by simp
  active _ _ := by simp
  sizes := rfl
  room := Nat.zero_le _
  kept _ member := by cases member
  shut _ := rfl

/-- The batches of an idle slot were all released. -/
theorem released_of_idle (guarded : Guarded world) {record : LeaseRecord}
    (member : record ∈ world.leases) (idle : world.reader.activeSlots.lookup record.slot = none) :
    record.released = true := by
  by_contra out
  have found := (guarded.outstanding record.batch.address _).mpr
    ⟨record, member, by simpa using out, rfl, rfl⟩
  have held := (guarded.active record.slot record.batch.address).mpr ⟨_, found, rfl⟩
  rw [idle] at held
  cases held

theorem free (guarded : Guarded world) {slot : Nat}
    (idle : world.reader.activeSlots.lookup slot = none)
    (left : (world.reader.retiredSlots.lookup slot).all world.expired = true) :
    world.Free slot := by
  rintro record member rfl
  have released := guarded.released_of_idle member idle
  refine ⟨released, ?_⟩
  rcases guarded.kept record member released with expired | ⟨-, retired⟩
  · exact expired
  · rw [retired] at left
    exact left

theorem settled (guarded : Guarded world)
    (settled : CaptureReaderStateV1.Settled world.expired world.reader after) :
    Guarded { world with reader := after } := by
  obtain ⟨retired, rfl, same⟩ := settled
  refine ⟨guarded.outstanding, guarded.active, guarded.sizes, guarded.room, ?_, guarded.shut⟩
  intro record member released
  rcases guarded.kept record member released with expired | ⟨idle, kept⟩
  · exact .inl expired
  · rcases same record.slot with same | ⟨-, left⟩
    · exact .inr ⟨idle, same.trans kept⟩
    · rw [kept] at left
      exact .inl left

theorem lent (guarded : Guarded world) {slot capturedBytes owner : Nat} {batch : RecordBatch}
    (memory : Bool)
    (lent : CaptureReaderStateV1.Lent world.expired slot batch capturedBytes owner world.reader after) :
    Guarded { world.note (.borrow slot (some batch) capturedBytes (some owner) memory) with
      reader := after } := by
  obtain ⟨identity, next, -, rfl⟩ := lent.rows
  have fresh {record : LeaseRecord} (member : record ∈ world.leases)
      (out : record.released = false) : record.batch.address ≠ batch.address := by
    intro same
    have found := (guarded.outstanding batch.address _).mpr ⟨record, member, out, same, rfl⟩
    rw [lent.fresh] at found
    cases found
  refine ⟨?_, ?_, ?_, ?_, ?_, ?_⟩
  · intro address lease
    change (world.reader.outstanding.insert batch.address ⟨slot, owner⟩).lookup address = some lease ↔
      ∃ record ∈ world.leases ++ [_], _
    simp only [List.mem_append, List.mem_singleton]
    by_cases same : address = batch.address
    · subst same
      rw [AList.lookup_insert]
      constructor
      · rintro ⟨⟩
        exact ⟨_, .inr rfl, rfl, rfl, rfl⟩
      · rintro ⟨record, member | rfl, out, address, rfl⟩
        · exact absurd address (fresh member out)
        · rfl
    · rw [AList.lookup_insert_ne same, guarded.outstanding]
      constructor
      · rintro ⟨record, member, rest⟩
        exact ⟨record, .inl member, rest⟩
      · rintro ⟨record, member | rfl, out, address, rest⟩
        · exact ⟨record, member, out, address, rest⟩
        · exact absurd address.symm same
  · intro other address
    change (world.reader.activeSlots.insert slot batch.address).lookup other = some address ↔
      ∃ lease, (world.reader.outstanding.insert batch.address ⟨slot, owner⟩).lookup address =
        some lease ∧ lease.slot = other
    by_cases same : address = batch.address
    · subst same
      rw [AList.lookup_insert]
      by_cases here : other = slot
      · subst here
        rw [AList.lookup_insert]
        exact ⟨fun _ => ⟨_, rfl, rfl⟩, fun _ => rfl⟩
      · rw [AList.lookup_insert_ne here, guarded.active, lent.fresh]
        constructor
        · rintro ⟨_, ⟨⟩, -⟩
        · rintro ⟨_, ⟨⟩, rfl⟩
          exact absurd rfl here
    · rw [AList.lookup_insert_ne same]
      by_cases here : other = slot
      · subst here
        rw [AList.lookup_insert, ← guarded.active, lent.idle]
        exact ⟨fun found => absurd (Option.some.inj found).symm same, fun found => by cases found⟩
      · rw [AList.lookup_insert_ne here, guarded.active]
  · change (world.reader.activeSlots.insert slot batch.address).entries.length =
      (world.reader.outstanding.insert batch.address ⟨slot, owner⟩).entries.length
    rw [entries_insert _ lent.idle, entries_insert _ lent.fresh, List.length_cons,
      List.length_cons, guarded.sizes]
  · change (world.reader.outstanding.insert batch.address ⟨slot, owner⟩).entries.length ≤ _
    rw [entries_insert _ lent.fresh]
    exact lent.room
  · change ∀ record ∈ world.leases ++ [_], record.released = true →
      world.expired record.owner = true ∨
        (world.reader.activeSlots.insert slot batch.address).lookup record.slot = none ∧
          (world.reader.retiredSlots.erase slot).lookup record.slot = some record.owner
    intro record member released
    rcases List.mem_append.mp member with member | member
    · by_cases here : record.slot = slot
      · exact .inl (guarded.free lent.idle lent.left record member here).2
      · rw [AList.lookup_insert_ne here, AList.lookup_erase_ne here]
        exact guarded.kept record member released
    · cases List.mem_singleton.mp member
      cases released
  · intro closed
    exact absurd (lent.opened.symm.trans closed) (by decide)

theorem released (guarded : Guarded world) {address : Nat} {lease : Lease} (memory : Bool)
    (found : world.reader.outstanding.lookup address = some lease) :
    Guarded { world.note (.release (some address) memory) with
      reader := { world.reader with
        retiredSlots := world.reader.retiredSlots.insert lease.slot lease.owner
        activeSlots := world.reader.activeSlots.erase lease.slot
        outstanding := world.reader.outstanding.erase address } } := by
  have held : world.reader.activeSlots.lookup lease.slot = some address :=
    (guarded.active _ _).mpr ⟨lease, found, rfl⟩
  refine ⟨?_, ?_, ?_, ?_, ?_, ?_⟩
  · intro other lease
    change (world.reader.outstanding.erase address).lookup other = some lease ↔
      ∃ record ∈ world.leases.map (·.mark address), _
    simp only [List.mem_map, exists_exists_and_eq_and]
    by_cases same : other = address
    · subst same
      rw [AList.lookup_erase]
      constructor
      · rintro ⟨⟩
      · rintro ⟨record, -, out, at_, -⟩
        unfold LeaseRecord.mark at out at_
        split at out
        · cases out
        · rename_i elsewhere
          rw [if_neg elsewhere] at at_
          exact absurd at_ elsewhere
    · rw [AList.lookup_erase_ne same, guarded.outstanding]
      constructor
      · rintro ⟨record, member, out, place, rest⟩
        have kept : record.mark address = record := if_neg (place ▸ same)
        exact ⟨record, member, by rw [kept]; exact ⟨out, place, rest⟩⟩
      · rintro ⟨record, member, out, place, rest⟩
        unfold LeaseRecord.mark at out place rest
        split at out
        · cases out
        · rename_i elsewhere
          rw [if_neg elsewhere] at place rest
          exact ⟨record, member, out, place, rest⟩
  · intro slot other
    change (world.reader.activeSlots.erase lease.slot).lookup slot = some other ↔
      ∃ held, (world.reader.outstanding.erase address).lookup other = some held ∧ held.slot = slot
    by_cases same : other = address
    · subst same
      rw [AList.lookup_erase]
      constructor
      · intro active
        by_cases here : slot = lease.slot
        · subst here
          rw [AList.lookup_erase] at active
          cases active
        · rw [AList.lookup_erase_ne here, guarded.active, found] at active
          obtain ⟨_, ⟨⟩, rfl⟩ := active
          exact absurd rfl here
      · rintro ⟨_, ⟨⟩, -⟩
    · rw [AList.lookup_erase_ne same, ← guarded.active]
      by_cases here : slot = lease.slot
      · subst here
        rw [AList.lookup_erase, held]
        constructor
        · rintro ⟨⟩
        · exact fun active => absurd (Option.some.inj active).symm same
      · rw [AList.lookup_erase_ne here]
  · have slots := (entries_erase_perm held).length_eq
    have batches := (entries_erase_perm found).length_eq
    have sizes := guarded.sizes
    change (world.reader.activeSlots.erase lease.slot).entries.length =
      (world.reader.outstanding.erase address).entries.length
    rw [List.length_cons] at slots batches
    omega
  · have batches := (entries_erase_perm found).length_eq
    have room := guarded.room
    change (world.reader.outstanding.erase address).entries.length ≤
      world.reader.limits.maxOutstandingBatches
    rw [List.length_cons] at batches
    omega
  · change ∀ record ∈ world.leases.map (·.mark address), record.released = true →
      world.expired record.owner = true ∨
        (world.reader.activeSlots.erase lease.slot).lookup record.slot = none ∧
          (world.reader.retiredSlots.insert lease.slot lease.owner).lookup record.slot =
            some record.owner
    intro marked member released
    obtain ⟨record, recorded, rfl⟩ := List.mem_map.mp member
    rw [LeaseRecord.mark_slot, LeaseRecord.mark_owner]
    by_cases out : record.released = false
    · -- the batch that the call gives back
      have here : record.batch.address = address := by
        by_contra elsewhere
        rw [LeaseRecord.mark, if_neg elsewhere, out] at released
        cases released
      have same := (guarded.outstanding address _).mpr ⟨record, recorded, out, here, rfl⟩
      rw [found] at same
      cases same
      exact .inr ⟨AList.lookup_erase _ _, AList.lookup_insert _⟩
    · rcases guarded.kept record recorded (by simpa using out) with expired | ⟨idle, kept⟩
      · exact .inl expired
      · have other : record.slot ≠ lease.slot := by
          intro same
          rw [same, held] at idle
          cases idle
        rw [AList.lookup_erase_ne other, AList.lookup_insert_ne other]
        exact .inr ⟨idle, kept⟩
  · intro closed
    change (world.reader.outstanding.erase address).entries = []
    have batches := (entries_erase_perm found).length_eq
    rw [guarded.shut closed] at batches
    cases batches

theorem opened (guarded : Guarded world) (shut : world.reader.opened = false)
    (identity : CaptureQueueIdentityV1) (limits : CaptureReaderLimitsV1) :
    Guarded { world.note (.openReader identity limits) with
      reader := { world.reader with
        identity := some identity
        limits := limits
        lastPacketSequence := none
        deliveredPackets := 0
        deliveredBytes := 0
        terminal := .open
        lastGeneration := identity.generation
        opened := true } } := by
  refine ⟨guarded.outstanding, guarded.active, guarded.sizes, ?_, guarded.kept, nofun⟩
  change world.reader.outstanding.entries.length ≤ limits.maxOutstandingBatches
  rw [guarded.shut shut]
  exact Nat.zero_le _

theorem closed (guarded : Guarded world) (empty : world.reader.outstanding.entries = [])
    (left : ∀ slot, (world.reader.retiredSlots.lookup slot).all world.expired = true) :
    Guarded { world with
      reader := { world.reader with
        retiredSlots := ∅, identity := none, limits := {}, opened := false } } := by
  refine ⟨guarded.outstanding, guarded.active, guarded.sizes, ?_, ?_, fun _ => empty⟩
  · exact Nat.le_of_eq (congrArg List.length empty)
  · intro record member released
    rcases guarded.kept record member released with expired | ⟨-, kept⟩
    · exact .inl expired
    · have expired := left record.slot
      rw [kept] at expired
      exact .inl expired

theorem ended (guarded : Guarded world) (terminal : Terminal) :
    Guarded { world with reader := world.reader.endWith terminal } := by
  unfold CaptureReaderStateV1.endWith
  split
  · exact ⟨guarded.outstanding, guarded.active, guarded.sizes, guarded.room, guarded.kept,
      guarded.shut⟩
  · exact guarded

theorem dropped (guarded : Guarded world) (owner : Nat) : Guarded (world.note (.drop owner)) := by
  refine ⟨guarded.outstanding, guarded.active, guarded.sizes, guarded.room, ?_, guarded.shut⟩
  intro record member released
  rcases guarded.kept record member released with expired | kept
  · exact .inl (by simp [ReaderWorld.note, expired])
  · exact .inr kept

end Guarded

/-! ## Sequences and counters -/

theorem pairwise_append_of_getLast {before added : List Nat} (left : before.Pairwise (· < ·))
    (right : (before.getLast?.toList ++ added).Pairwise (· < ·)) :
    (before ++ added).Pairwise (· < ·) := by
  rcases List.eq_nil_or_concat before with rfl | ⟨front, last, rfl⟩
  · exact right
  · rw [List.concat_eq_append] at left right ⊢
    rw [List.getLast?_append] at right
    have above := List.pairwise_cons.mp right
    refine List.pairwise_append.mpr ⟨left, above.2, fun earlier member later among => ?_⟩
    rcases List.mem_append.mp member with inFront | isLast
    · have rises := (List.pairwise_append.mp left).2.2 earlier inFront last (by simp)
      exact Nat.lt_trans rises (above.1 later among)
    · rw [List.mem_singleton.mp isLast]
      exact above.1 later among

theorem saturatingAdd_min (current added : Nat) :
    saturatingAdd (min UINT64_MAX current) added = min UINT64_MAX (current + added) := by
  unfold saturatingAdd
  split <;> omega

namespace Counted

variable {world : ReaderWorld} {after : CaptureReaderStateV1}

theorem initially : Counted {} where
  latest := rfl
  earlier _ member := by cases member
  recorded _ member := by cases member
  rising := .nil
  increasing _ := .nil
  last := rfl
  packets := rfl
  bytes := rfl

/-- The reader counts the same, and the records are those that were. -/
theorem same (counted : Counted world) (expired : Nat → Bool)
    (generation : after.lastGeneration = world.reader.lastGeneration)
    (sequence : after.lastPacketSequence = world.reader.lastPacketSequence)
    (packets : after.deliveredPackets = world.reader.deliveredPackets)
    (bytes : after.deliveredBytes = world.reader.deliveredBytes) :
    Counted { world with reader := after, expired := expired } where
  latest := generation.trans counted.latest
  earlier := counted.earlier
  recorded := counted.recorded
  rising := counted.rising
  increasing := counted.increasing
  last := sequence.trans counted.last
  packets := packets.trans counted.packets
  bytes := bytes.trans counted.bytes

theorem lent (counted : Counted world) {slot capturedBytes owner : Nat} {batch : RecordBatch}
    (memory : Bool)
    (lent : CaptureReaderStateV1.Lent world.expired slot batch capturedBytes owner world.reader after) :
    Counted { world.note (.borrow slot (some batch) capturedBytes (some owner) memory) with
      reader := after } := by
  obtain ⟨identity, next, accepted, rfl⟩ := lent.rows
  obtain ⟨total, rising, last⟩ := acceptRows_eq_some accepted
  rw [counted.last] at rising last
  have during := ReaderWorld.during_note_borrow world slot batch capturedBytes owner memory
  refine ⟨counted.latest, counted.earlier, ?_, counted.rising, ?_, ?_, ?_, ?_⟩
  · intro record member
    rcases List.mem_append.mp member with member | member
    · exact counted.recorded record member
    · cases List.mem_singleton.mp member
      exact UInt64.le_refl _
  · intro generation
    change (((world.note _).during generation).flatMap _).Pairwise _
    rw [during]
    split
    · rename_i current
      subst current
      rw [List.flatMap_append, List.flatMap_singleton]
      exact pairwise_append_of_getLast (counted.increasing _) rising
    · rw [List.append_nil]
      exact counted.increasing generation
  · change next = (((world.note _).during world.generation).flatMap _).getLast?
    rw [during, if_pos rfl, List.flatMap_append, List.flatMap_singleton, List.getLast?_append]
    exact last
  · change saturatingAdd world.reader.deliveredPackets _ =
      min UINT64_MAX (((world.note _).during world.generation).map _).sum
    rw [during, if_pos rfl, List.map_append, List.sum_append, counted.packets, saturatingAdd_min]
    rfl
  · change saturatingAdd world.reader.deliveredBytes _ =
      min UINT64_MAX (((world.note _).during world.generation).map _).sum
    rw [during, if_pos rfl, List.map_append, List.sum_append, counted.bytes, saturatingAdd_min, total,
      Nat.zero_add]
    rfl

theorem released (counted : Counted world) {address : Nat} (memory : Bool)
    (generation : after.lastGeneration = world.reader.lastGeneration)
    (sequence : after.lastPacketSequence = world.reader.lastPacketSequence)
    (packets : after.deliveredPackets = world.reader.deliveredPackets)
    (bytes : after.deliveredBytes = world.reader.deliveredBytes) :
    Counted { world.note (.release (some address) memory) with reader := after } := by
  have during := ReaderWorld.during_note_release world address memory
  have delivered (generation : UInt64) :
      (world.note (.release (some address) memory)).delivered generation =
        world.delivered generation := by
    unfold ReaderWorld.delivered
    rw [during, List.flatMap_map]
    simp only [LeaseRecord.mark_batch]
  refine ⟨generation.trans counted.latest, counted.earlier, ?_, counted.rising, ?_, ?_, ?_, ?_⟩
  · intro marked member
    obtain ⟨record, recorded, rfl⟩ := List.mem_map.mp member
    rw [LeaseRecord.mark_generation]
    exact counted.recorded record recorded
  · intro generation
    change ((world.note _).delivered generation).Pairwise _
    rw [delivered]
    exact counted.increasing generation
  · change after.lastPacketSequence = ((world.note _).delivered world.generation).getLast?
    rw [delivered, sequence]
    exact counted.last
  · change after.deliveredPackets =
      min UINT64_MAX (((world.note _).during world.generation).map _).sum
    rw [during, List.map_map, packets, counted.packets]
    simp only [Function.comp_def, LeaseRecord.mark_batch]
  · change after.deliveredBytes =
      min UINT64_MAX (((world.note _).during world.generation).map _).sum
    rw [during, List.map_map, bytes, counted.bytes]
    simp only [Function.comp_def, LeaseRecord.mark_batch]

/-- A generation that was never opened has delivered nothing. -/
theorem opened (counted : Counted world) (identity : CaptureQueueIdentityV1)
    (limits : CaptureReaderLimitsV1)
    (newer : world.reader.lastGeneration < identity.generation) :
    Counted { world.note (.openReader identity limits) with
      reader := { world.reader with
        identity := some identity
        limits := limits
        lastPacketSequence := none
        deliveredPackets := 0
        deliveredBytes := 0
        terminal := .open
        lastGeneration := identity.generation
        opened := true } } := by
  rw [counted.latest] at newer
  have latest : (world.note (.openReader identity limits)).generation = identity.generation :=
    List.getLastD_concat
  have nothing : (world.note (.openReader identity limits)).during identity.generation = [] := by
    refine List.filter_eq_nil_iff.mpr fun record member same => ?_
    have old := counted.recorded record member
    rw [of_decide_eq_true same] at old
    exact UInt64.lt_irrefl _ (UInt64.lt_of_lt_of_le newer old)
  have among {generation : UInt64} (member : generation ∈ world.generations) :
      generation < identity.generation :=
    UInt64.lt_of_le_of_lt (counted.earlier generation member) newer
  refine ⟨latest.symm, ?_, ?_, ?_, counted.increasing, ?_, ?_, ?_⟩
  · intro generation member
    change generation ≤ (world.note (.openReader identity limits)).generation
    rw [latest]
    rcases List.mem_append.mp member with member | member
    · exact UInt64.le_of_lt (among member)
    · rw [List.mem_singleton.mp member]
      exact UInt64.le_refl _
  · intro record member
    change record.generation ≤ (world.note (.openReader identity limits)).generation
    rw [latest]
    exact UInt64.le_of_lt (UInt64.lt_of_le_of_lt (counted.recorded record member) newer)
  · refine List.pairwise_append.mpr ⟨counted.rising, List.pairwise_singleton _ _, ?_⟩
    intro generation member other last
    rw [List.mem_singleton.mp last]
    exact among member
  · change none = (((world.note (.openReader identity limits)).during
      (world.note (.openReader identity limits)).generation).flatMap _).getLast?
    rw [latest, nothing]
    rfl
  · change 0 = min UINT64_MAX (((world.note (.openReader identity limits)).during
      (world.note (.openReader identity limits)).generation).map _).sum
    rw [latest, nothing]
    rfl
  · change 0 = min UINT64_MAX (((world.note (.openReader identity limits)).during
      (world.note (.openReader identity limits)).generation).map _).sum
    rw [latest, nothing]
    rfl

end Counted

/-! ## Every run -/

namespace ReaderWorld

variable {world after : ReaderWorld}

/-- A call that fails changes at most slots that nobody keeps. -/
theorem apply_failed {event : ReaderEvent} (failed : (world.apply event).1 ≠ 0) :
    ∃ reader, (world.apply event).2 = { world with reader := reader } ∧
      CaptureReaderStateV1.Settled world.expired world.reader reader := by
  refine ⟨(world.call event).2, ?_, ?_⟩
  · unfold apply at failed ⊢
    simp only [if_neg failed]
  · change (world.call event).1 ≠ 0 at failed
    cases ran : world.call event with
    | mk rc reader =>
        rw [ran] at failed
        cases event with
        | openReader identity limits =>
            rcases CaptureReaderStateV1.openReader_cases ran with ⟨-, rfl⟩ | ⟨ok, -⟩
            · exact .refl _ _
            · exact absurd ok failed
        | borrow slot batch capturedBytes owner memory =>
            rcases CaptureReaderStateV1.borrow_cases ran with ⟨-, settled⟩ | ⟨ok, -⟩
            · exact settled
            · exact absurd ok failed
        | release batch memory =>
            rcases CaptureReaderStateV1.release_cases ran with ⟨-, rfl⟩ | ⟨ok, -⟩
            · exact .refl _ _
            · exact absurd ok failed
        | close =>
            rcases CaptureReaderStateV1.close_cases ran with ⟨-, rfl⟩ | ⟨ok, -⟩
            · exact .refl _ _
            · exact absurd ok failed
        | finish => exact absurd (congrArg Prod.fst ran).symm failed
        | cancel => exact absurd (congrArg Prod.fst ran).symm failed
        | fail => exact absurd (congrArg Prod.fst ran).symm failed
        | drop owner => exact absurd (congrArg Prod.fst ran).symm failed

theorem apply_of_call {event : ReaderEvent} {reader : CaptureReaderStateV1}
    (ran : world.call event = (0, reader)) :
    world.apply event = (0, { world.note event with reader := reader }) := by
  unfold apply
  rw [ran]
  rfl

theorem settled_fields {expired : Nat → Bool} {before reader : CaptureReaderStateV1}
    (settled : CaptureReaderStateV1.Settled expired before reader) :
    reader.lastGeneration = before.lastGeneration ∧
      reader.lastPacketSequence = before.lastPacketSequence ∧
      reader.deliveredPackets = before.deliveredPackets ∧
      reader.deliveredBytes = before.deliveredBytes := by
  obtain ⟨_, rfl, -⟩ := settled
  exact ⟨rfl, rfl, rfl, rfl⟩

theorem endWith_fields (reader : CaptureReaderStateV1) (terminal : Terminal) :
    (reader.endWith terminal).lastGeneration = reader.lastGeneration ∧
      (reader.endWith terminal).lastPacketSequence = reader.lastPacketSequence ∧
      (reader.endWith terminal).deliveredPackets = reader.deliveredPackets ∧
      (reader.endWith terminal).deliveredBytes = reader.deliveredBytes := by
  unfold CaptureReaderStateV1.endWith
  split <;> exact ⟨rfl, rfl, rfl, rfl⟩

/-- What a call that succeeds keeps. -/
theorem kept_call {event : ReaderEvent} {reader : CaptureReaderStateV1} (guarded : Guarded world)
    (counted : Counted world) (ran : world.call event = (0, reader)) :
    Guarded { world.note event with reader := reader } ∧
      Counted { world.note event with reader := reader } := by
  have ended (terminal : Terminal) :
      Guarded { world with reader := world.reader.endWith terminal } ∧
        Counted { world with reader := world.reader.endWith terminal } := by
    obtain ⟨generation, sequence, packets, bytes⟩ := endWith_fields world.reader terminal
    exact ⟨guarded.ended terminal, counted.same world.expired generation sequence packets bytes⟩
  cases event with
  | openReader identity limits =>
      rcases CaptureReaderStateV1.openReader_cases ran with ⟨wrong, -⟩ | ⟨-, shut, newer, rfl⟩
      · exact absurd rfl wrong
      · exact ⟨guarded.opened shut identity limits, counted.opened identity limits newer⟩
  | borrow slot batch capturedBytes owner memory =>
      rcases CaptureReaderStateV1.borrow_cases ran with
        ⟨wrong, -⟩ | ⟨-, taken, holder, rfl, rfl, lent⟩
      · exact absurd rfl wrong
      · exact ⟨guarded.lent memory lent, counted.lent memory lent⟩
  | release batch memory =>
      rcases CaptureReaderStateV1.release_cases ran with
        ⟨wrong, -⟩ | ⟨-, address, lease, rfl, -, found, rfl⟩
      · exact absurd rfl wrong
      · exact ⟨guarded.released memory found, counted.released memory rfl rfl rfl rfl⟩
  | close =>
      rcases CaptureReaderStateV1.close_cases ran with ⟨wrong, -⟩ | ⟨-, empty, left, rfl⟩
      · exact absurd rfl wrong
      · exact ⟨guarded.closed empty left, counted.same world.expired rfl rfl rfl rfl⟩
  | finish =>
      cases ran
      exact ended .eof
  | cancel =>
      cases ran
      exact ended .cancelled
  | fail =>
      cases ran
      exact ended .error
  | drop owner =>
      cases ran
      exact ⟨guarded.dropped owner, counted.same _ rfl rfl rfl rfl⟩

/-- What a step keeps. -/
theorem kept_step {event : ReaderEvent} (guarded : Guarded world) (counted : Counted world) :
    Guarded (world.apply event).2 ∧ Counted (world.apply event).2 := by
  by_cases failed : (world.apply event).1 = 0
  · cases ran : world.call event with
    | mk rc reader =>
        have ok : rc = 0 := by
          rw [ReaderWorld.apply, ran] at failed
          exact failed
        subst ok
        rw [apply_of_call ran]
        exact kept_call guarded counted ran
  · obtain ⟨reader, same, settled⟩ := apply_failed failed
    obtain ⟨generation, sequence, packets, bytes⟩ := settled_fields settled
    rw [same]
    exact ⟨guarded.settled settled, counted.same world.expired generation sequence packets bytes⟩

end ReaderWorld

/-- What holds of the reader, of the records beside it and of its next calls. -/
structure LoansGuarded (world : ReaderWorld) : Prop where
  /-- The outstanding batches are those that were borrowed and not released. -/
  outstanding : ∀ address lease, world.reader.outstanding.lookup address = some lease ↔
    ∃ record ∈ world.leases, record.released = false ∧ record.batch.address = address ∧
      lease = ⟨record.slot, record.owner⟩
  /-- Each active slot has one outstanding batch, and each outstanding batch one active slot. -/
  oneToOne : ∀ slot address, world.reader.activeSlots.lookup slot = some address ↔
    ∃ lease, world.reader.outstanding.lookup address = some lease ∧ lease.slot = slot
  sizes : world.reader.activeSlots.entries.length = world.reader.outstanding.entries.length
  within : world.reader.outstanding.entries.length ≤ world.reader.limits.maxOutstandingBatches
  borrowed : ∀ slot batch capturedBytes owner memory,
    (world.reader.borrow world.expired slot batch capturedBytes owner memory).1 = 0 → world.Free slot
  reusable : ∀ slot, world.reader.canReuse world.expired slot = true → world.Free slot
  closed : (world.reader.close world.expired).1 = 0 → ∀ slot, world.Free slot
  increasing : ∀ generation, (world.delivered generation).Pairwise (· < ·)
  rising : world.generations.Pairwise (· < ·)
  packets : world.reader.deliveredPackets =
    min UINT64_MAX ((world.during world.generation).map (·.batch.rows.length)).sum
  bytes : world.reader.deliveredBytes =
    min UINT64_MAX ((world.during world.generation).map (·.batch.rawBytes)).sum
  /-- A call that fails leaves everything as it is, but for entries of slots that nobody keeps. -/
  failed : ∀ event, (world.apply event).1 ≠ 0 → ∃ retired,
    (world.apply event).2 =
      { world with reader := { world.reader with retiredSlots := retired } } ∧
    (∀ slot, retired.lookup slot = world.reader.retiredSlots.lookup slot ∨
      retired.lookup slot = none ∧
        (world.reader.retiredSlots.lookup slot).all world.expired = true) ∧
    ∀ slot, (world.apply event).2.reader.canReuse world.expired slot =
      world.reader.canReuse world.expired slot

/-- In every run of a reader, whenever the holders of its buffers leave. -/
theorem loans_guarded {world : ReaderWorld}
    (reached : Reachable ReaderWorld.step (fun _ _ => True) {} world) : LoansGuarded world := by
  have ⟨guarded, counted⟩ : Guarded world ∧ Counted world := by
    refine reached.invariant (fun world => Guarded world ∧ Counted world)
      ⟨.initially, .initially⟩ ?_
    rintro state event after ⟨guarded, counted⟩ - moved
    cases moved
    exact ReaderWorld.kept_step guarded counted
  refine ⟨guarded.outstanding, guarded.active, guarded.sizes, guarded.room, ?_, ?_, ?_,
    counted.increasing, counted.rising, counted.packets, counted.bytes, ?_⟩
  · intro slot batch capturedBytes owner memory ok
    rcases CaptureReaderStateV1.borrow_cases (Prod.eta _).symm with ⟨wrong, -⟩ | ⟨-, _, _, -, -, lent⟩
    · exact absurd ok wrong
    · exact guarded.free lent.idle lent.left
  · intro slot reusable
    simp only [CaptureReaderStateV1.canReuse, Bool.and_eq_true, Option.isNone_iff_eq_none]
      at reusable
    exact guarded.free reusable.1.2 reusable.2
  · intro ok slot
    rcases CaptureReaderStateV1.close_cases (Prod.eta _).symm with ⟨wrong, -⟩ | ⟨-, empty, left, -⟩
    · exact absurd ok wrong
    · have idle : world.reader.activeSlots.lookup slot = none := by
        cases found : world.reader.activeSlots.lookup slot with
        | none => rfl
        | some address =>
            have member := mem_entries.mpr found
            have none := guarded.sizes.trans (congrArg List.length empty)
            rw [List.length_eq_zero_iff.mp none] at member
            cases member
      exact guarded.free idle (left slot)
  · intro event failed
    obtain ⟨reader, same, settled⟩ := ReaderWorld.apply_failed failed
    rw [same]
    have reuse := settled.canReuse
    obtain ⟨retired, rfl, entries⟩ := settled
    exact ⟨retired, rfl, entries, reuse⟩

/-- A slot that was lent once is free again when the batch was released and its holder has left. -/
theorem returned_slot_free :
    (ReaderWorld.run
      [.openReader ⟨true, 1, "eth0", 3, 0, 1, 1⟩ ⟨true, 8, 4096, 10, 2⟩,
       .borrow 7 (some ⟨100, true, [⟨some 60, some 60, some 1, some 3, some 4, some 60⟩]⟩) 60
        (some 5) true,
       .release (some 100) true, .drop 5]).Free 7 :=
  (loans_guarded (Reachable.of_foldl _ (fun _ _ => trivial) _ .start)).reusable 7 (by decide)

end Flowsql.Capture
