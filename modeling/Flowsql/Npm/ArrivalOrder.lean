import Flowsql.Npm.StreamReassembly

/-!
# Arrival orders of a byte stream

A run gives a direction the segments of a byte stream in some order, mixed with
watermarks and other calls. Whatever the order, only bytes of the stream are
published. What is published depends on the set of segments alone when the runs
fix the same origin and nothing disturbs them: no error, no gap and no end other
than the FIN.
-/

namespace Flowsql.Npm

open Flowsql.Library

variable {σ : Type} {stream : ByteStream}

/-- One call of a run over a byte stream. -/
inductive Arrival (stream : ByteStream) where
  | deliver (segment : Segment stream)
  | advanceWatermark (watermarkNs : Int)
  | endStream (reason : UInt8) (sessionReason : Option UInt8)
  | abort

def Arrival.call : Arrival stream → StreamCall
  | deliver segment => .push segment.packet
  | advanceWatermark watermarkNs => .advanceWatermark watermarkNs
  | endStream reason sessionReason => .endStream reason sessionReason
  | abort => .abort

/-- The segments of an arrival; other calls bring none. -/
def Arrival.segments : Arrival stream → List (Segment stream)
  | deliver segment => [segment]
  | _ => []

def segmentsOf (arrivals : List (Arrival stream)) : List (Segment stream) :=
  arrivals.flatMap Arrival.segments

def runArrivals (environment : Environment σ) (core : StreamDirection σ)
    (arrivals : List (Arrival stream)) : StreamDirection σ :=
  runStream environment core (arrivals.map Arrival.call)

/-- The position at which the published stream starts: that of the first segment that
takes up sequence numbers. -/
def originOf (segments : List (Segment stream)) : Option Nat :=
  (segments.find? Segment.carries).map Segment.start

/-- The highest end seen, once the segment has arrived too. -/
def nextHighest (highest : Option Nat) (segment : Segment stream) : Option Nat :=
  if segment.carries = true then some (highest.elim segment.end_ (max · segment.end_))
  else highest

/-- Every segment starts in the window around the highest end seen before it. -/
def WindowFrom : Option Nat → List (Segment stream) → Prop
  | _, [] => True
  | highest, segment :: rest =>
      (segment.carries = true → ∀ end_, highest = some end_ → InWindow end_ segment.start) ∧
        WindowFrom (nextHighest highest segment) rest

/-- Nothing but data was published, and the stream has ended at its FIN if at all. -/
structure Undisturbed (core : StreamDirection σ) : Prop where
  no_error : core.error = .none
  no_gap : ∀ event ∈ core.emitted, event.isGap = false
  only_fin : ∀ position reason sessionReason,
    .ended position reason sessionReason ∈ core.emitted → reason = .fin

/-- Every byte of a view is a captured byte of the stream. -/
def SoundView (origin : Nat) (seen : List (Segment stream))
    (view : Nat → Option (Option UInt8)) : Prop :=
  ∀ offset byte, view offset = some (some byte) →
    byte = stream.byteAt (origin + offset) ∧ ∃ segment ∈ seen, segment.CapturesAt (origin + offset)

/-- A run over a byte stream, with the highest end it has seen. -/
inductive Reassembling (environment : Environment σ)
    (agrees : List StreamEvent → Nat → σ → Prop) (objectCharge : Nat)
    (seen : List (Segment stream)) (core : StreamDirection σ) : Option Nat → Prop where
  | untouched (live : Live environment agrees objectCharge core)
      (unknown : core.origin = .unknown)
      (empty : core.extent = 0 ∧ core.progress = 0 ∧ core.fin = none)
      (nothing : ∀ segment ∈ seen, segment.carries = false) :
      Reassembling environment agrees objectCharge seen core none
  | tracking (origin : Nat) (live : Live environment agrees objectCharge core)
      (tracks : Tracks origin seen core) (stops : DrainStops false core)
      (originEq : originOf seen = some origin) :
      Reassembling environment agrees objectCharge seen core (some (origin + core.progress))
  | stopped (highest : Option Nat) (origin : Nat) (stops : stopped core = true)
      (between : Between environment agrees objectCharge core)
      (sound : SoundView origin seen (lookup StreamEvent.byteAt core.emitted))
      (originEq : core.published = 0 ∨ originOf seen = some origin)
      (complete : Undisturbed core →
        originOf seen = some origin ∧ origin + core.published = stream.length) :
      Reassembling environment agrees objectCharge seen core highest

section Steps

variable {environment : Environment σ} {agrees : List StreamEvent → Nat → σ → Prop}
  {core next : StreamDirection σ} {objectCharge origin : Nat} {seen : List (Segment stream)}
  {segment : Segment stream} {highest : Option Nat}

theorem originOf_append_of_some (known : originOf seen = some origin) (segment : Segment stream) :
    originOf (seen ++ [segment]) = some origin := by
  obtain ⟨first, found, startEq⟩ := Option.map_eq_some_iff.mp known
  rw [originOf, List.find?_append, found]
  exact congrArg some startEq

theorem originOf_append_of_nothing (nothing : ∀ segment ∈ seen, segment.carries = false)
    (carries : segment.carries = true) : originOf (seen ++ [segment]) = some segment.start := by
  have notFound : seen.find? Segment.carries = none :=
    List.find?_eq_none.mpr fun other member found => by
      rw [nothing other member] at found
      cases found
  rw [originOf, List.find?_append, notFound, Option.none_or, List.find?_cons_of_pos carries]
  rfl

theorem not_capturesAt_of_not_carries (nothing : segment.carries = false) (position : Nat) :
    ¬ segment.CapturesAt position := by
  have captured_le := segment.captured_le
  simp only [Segment.carries, Bool.or_eq_false_iff, decide_eq_false_iff_not, not_not] at nothing
  unfold Segment.CapturesAt
  omega

theorem SoundView.mono {view : Nat → Option (Option UInt8)} (sound : SoundView origin seen view)
    (segment : Segment stream) : SoundView origin (seen ++ [segment]) view := by
  intro offset byte viewEq
  obtain ⟨byteEq, witness, member, captures⟩ := sound offset byte viewEq
  exact ⟨byteEq, witness, List.mem_append_left _ member, captures⟩

/-- The events of a broken operation are those of its view. -/
theorem Broken.sound {view : Nat → Option (Option UInt8)} {error : StreamError}
    (broken : Broken agrees view error core) (sound : SoundView origin seen view) :
    SoundView origin seen (lookup StreamEvent.byteAt core.emitted) := by
  intro offset byte found
  rcases Nat.lt_or_ge offset core.published with published | unpublished
  · rw [broken.published_eq offset published] at found
    exact sound offset byte found
  · rw [lookup_eq_none broken.history.contiguous (Or.inr unpublished)] at found
    cases found

/-- A failed operation stops the run. -/
theorem reassembling_fail (origin : Nat) (keeps : environment.Keeps agrees)
    {view : Nat → Option (Option UInt8)} {error : StreamError}
    (broken : Broken agrees view error core) (sound : SoundView origin seen view)
    (originEq : core.published = 0 ∨ originOf seen = some origin) :
    Reassembling environment agrees objectCharge seen (fail environment error core) highest := by
  have failed := fail_failed keeps broken
  have emittedEq : (fail environment error core).emitted = core.emitted := clear_emitted
  have publishedEq : (fail environment error core).published = core.published := clear_published
  refine .stopped highest origin (stopped_of_failed failed) (.failed failed) ?_ ?_ ?_
  · rw [emittedEq]
    exact broken.sound sound
  · rw [publishedEq]
    exact originEq
  · intro undisturbed
    exact absurd undisturbed.no_error failed.is_error

theorem Finished.sound {reason : EndReason} {sessionReason : Option SessionEndReason}
    (finished : Finished environment agrees objectCharge core reason sessionReason next)
    (sound : SoundView origin seen core.view) :
    SoundView origin seen (lookup StreamEvent.byteAt next.emitted) := by
  obtain ⟨_, last, live, drained, _, frame⟩ := finished
  intro offset byte found
  have emittedEq : next.emitted =
      last.emitted ++ [.ended last.published reason sessionReason] := by rw [frame]
  rw [emittedEq, lookup_append, lookup_cons, lookup_nil] at found
  change ((lookup _ _ _).or (if last.published ≤ offset ∧ offset < last.published then _
    else _)) = _ at found
  rw [if_neg (by omega), Option.or_none] at found
  rcases Nat.lt_or_ge offset last.published with published | unpublished
  · rw [StreamDirection.view_of_published published, drained.view_eq] at found
    exact sound offset byte found
  · rw [lookup_eq_none live.history.contiguous (Or.inr unpublished)] at found
    cases found

/-- An end that is not the FIN's disturbs the run. -/
theorem reassembling_finished (origin : Nat) {reason : EndReason} {sessionReason : Option SessionEndReason}
    (finished : Finished environment agrees objectCharge core reason sessionReason next)
    (notFin : reason ≠ .fin) (sound : SoundView origin seen core.view)
    (originEq : next.published = 0 ∨ originOf seen = some origin) :
    Reassembling environment agrees objectCharge seen next highest := by
  refine .stopped highest origin (stopped_of_ended finished.ended) (.ended finished.ended)
    (finished.sound sound) originEq ?_
  intro undisturbed
  obtain ⟨_, last, _, _, _, frame⟩ := finished
  have member : StreamEvent.ended last.published reason sessionReason ∈ next.emitted := by
    rw [frame]
    simp
  exact absurd (undisturbed.only_fin _ _ _ member) notFin

/-- The end of an operation that tracks the stream. -/
theorem reassembling_settled (tracks : Tracks origin seen core)
    (originEq : originOf seen = some origin)
    (settled : Settled environment agrees objectCharge core next) :
    Reassembling environment agrees objectCharge seen next (some (origin + core.progress)) := by
  cases settled with
  | running live drained stops _ =>
      have progressEq : next.progress = core.progress := by rw [drained.frame]
      rw [← progressEq]
      exact .tracking origin live (tracks.drained drained) stops originEq
  | finished atFin finished =>
      refine .stopped _ origin (stopped_of_ended finished.ended) (.ended finished.ended)
        (finished.sound tracks.sound) (.inr originEq) fun _ => ⟨originEq, ?_⟩
      obtain ⟨_, last, _, drained, _, frame⟩ := finished
      have finEq : next.fin = core.fin := by
        rw [frame]
        change last.fin = core.fin
        rw [drained.frame]
      exact tracks.fin _ (finEq ▸ atFin)

/-! ## One arrival -/

theorem Tracks.of_mem {seen' : List (Segment stream)} (tracks : Tracks origin seen core)
    (same : ∀ segment, segment ∈ seen' ↔ segment ∈ seen) : Tracks origin seen' core where
  anchored := tracks.anchored
  base := tracks.base
  inside := tracks.inside
  fin := tracks.fin
  sound := by
    intro offset byte viewEq
    obtain ⟨byteEq, witness, member, captures⟩ := tracks.sound offset byte viewEq
    exact ⟨byteEq, witness, (same witness).mpr member, captures⟩
  complete := fun segment member => tracks.complete segment ((same segment).mp member)

/-- A segment without a byte behind the origin adds nothing. -/
theorem Tracks.append (tracks : Tracks origin seen core)
    (nothing : ∀ offset, ¬ segment.CapturesAt (origin + offset)) :
    Tracks origin (seen ++ [segment]) core where
  anchored := tracks.anchored
  base := tracks.base
  inside := tracks.inside
  fin := tracks.fin
  sound := SoundView.mono tracks.sound segment
  complete := by
    intro other member offset captures
    rcases List.mem_append.mp member with earlier | last
    · exact tracks.complete other earlier offset captures
    · exact absurd (List.mem_singleton.mp last ▸ captures) (nothing offset)

theorem Tracks.reframe (tracks : Tracks origin seen core)
    (frame : next = { core with truncated := next.truncated, watermark := next.watermark }) :
    Tracks origin seen next := by
  rw [frame]
  exact ⟨tracks.anchored, tracks.base, tracks.inside, tracks.fin, tracks.sound, tracks.complete⟩

theorem DrainStops.reframe (stops : DrainStops false core)
    (ranges_eq : next.ranges = core.ranges) (watermark_eq : next.watermark = core.watermark) :
    DrainStops false next := by
  unfold DrainStops at stops ⊢
  rw [ranges_eq, watermark_eq]
  exact stops

/-- A segment that takes up sequence numbers arrives. -/
theorem reassembling_push_carrying (keeps : environment.Keeps agrees)
    (live : Live environment agrees objectCharge core) (stops : DrainStops false core)
    (carries : segment.carries = true)
    (tracks : Tracks origin seen (Npm.anchored core segment.packet))
    (window : InWindow (origin + core.progress) segment.start)
    (originEq : originOf (seen ++ [segment]) = some origin) :
    Reassembling environment agrees objectCharge (seen ++ [segment])
      (push environment segment.packet core)
      (some (max (origin + core.progress) segment.end_)) := by
  have frame := anchored_frame core segment.packet
  have progressEq : (Npm.anchored core segment.packet).progress = core.progress := by rw [frame]
  have viewEq := anchored_view core segment.packet
  have sound : SoundView origin (seen ++ [segment]) core.view :=
    viewEq ▸ SoundView.mono tracks.sound segment
  have storedTracks : ∀ {begin prefix_ declaredEnd : Nat} {middle : StreamDirection σ},
      PlacedAt (Npm.anchored core segment.packet) (payloadSequence segment.packet) segment.packet
        begin prefix_ declaredEnd →
      Stored environment agrees objectCharge (Npm.anchored core segment.packet) segment.packet
        begin prefix_ declaredEnd middle →
      Tracks origin (seen ++ [segment]) middle ∧
        origin + middle.progress = max (origin + core.progress) segment.end_ := by
    intro begin prefix_ declaredEnd middle placed stored
    have put := tracks.putAt (progressEq ▸ window) placed
    have endEq := put.declaredEnd_eq
    have middleProgress : middle.progress = max core.progress declaredEnd := by
      rw [stored.frame]
      change max (Npm.anchored core segment.packet).progress _ = _
      rw [progressEq, tracks.endAfter_eq put]
    refine ⟨(tracks.stored (live.anchored _) put stored).of_mem ?_, by omega⟩
    simp [or_comm]
  rcases push_cases keeps live segment.packet with ingested | ⟨error, middle, broken, nextEq⟩
  · cases ingested with
    | noSequence empty _ => exact absurd (segment.carries_iff.mpr carries) empty
    | beforeOrigin _ before next_eq =>
        obtain ⟨begin, prefix_, mapped, beyond⟩ := beforeOrigin_of_place before
        rw [segment.payloadSequence_packet] at mapped
        rw [segment.wire_toNat] at beyond
        have prefix_eq := (mapSequence_of_window tracks.base (progressEq ▸ window) mapped).2
        have captured_le := segment.captured_le
        have maxEq : max (origin + core.progress) segment.end_ =
            origin + (Npm.anchored core segment.packet).progress := by
          unfold Segment.end_
          omega
        rw [next_eq, maxEq]
        apply Reassembling.tracking origin (live.anchored _) _ _ originEq
        · apply tracks.append
          intro offset captures
          unfold Segment.CapturesAt at captures
          omega
        · exact stops.reframe (by rw [frame]) (by rw [frame])
    | stored _ begin prefix_ declaredEnd placed middle stored settled =>
        obtain ⟨middleTracks, highestEq⟩ := storedTracks placed stored
        rw [← highestEq]
        exact reassembling_settled middleTracks originEq settled
    | ambiguous _ finished =>
        exact reassembling_finished _ finished (by decide) (viewEq ▸ sound) (.inr originEq)
    | reset rst _ _ => exact absurd rst Bool.false_ne_true
  · rw [nextEq]
    cases broken with
    | before broken => exact reassembling_fail _ keeps broken sound (.inr originEq)
    | after _ _ placed middle' stored broken =>
        exact reassembling_fail _ keeps broken (storedTracks placed stored).1.sound (.inr originEq)

/-- A segment without SYN, FIN and payload arrives. -/
theorem push_not_carrying (keeps : environment.Keeps agrees)
    (live : Live environment agrees objectCharge core) (empty : segment.carries = false) :
    push environment segment.packet core = noted core segment.packet ∨
      ∃ error middle, Broken agrees core.view error middle ∧
        push environment segment.packet core = fail environment error middle := by
  have notCarries : ¬ CarriesSequence segment.packet := by
    rw [segment.carries_iff, empty]
    decide
  rcases push_cases keeps live segment.packet with ingested | ⟨error, middle, broken, nextEq⟩
  · cases ingested with
    | noSequence _ next_eq => exact .inl next_eq
    | beforeOrigin carries _ _ => exact absurd carries notCarries
    | stored carries _ _ _ _ _ _ _ => exact absurd carries notCarries
    | ambiguous carries _ => exact absurd carries notCarries
    | reset rst _ _ => exact absurd rst Bool.false_ne_true
  · cases broken with
    | before broken => exact .inr ⟨error, middle, broken, nextEq⟩
    | after _ carries _ _ _ _ => exact absurd carries notCarries

/-- Nothing is published of an empty view. -/
theorem Broken.published_of_empty {view : Nat → Option (Option UInt8)} {error : StreamError}
    (broken : Broken agrees view error core) (empty : ∀ offset, view offset = none) :
    core.published = 0 := by
  by_contra positive
  have found : (lookup StreamEvent.byteAt core.emitted 0).isSome = true :=
    lookup_isSome broken.history.contiguous (Nat.zero_le 0) (Nat.pos_of_ne_zero positive)
  rw [broken.published_eq 0 (Nat.pos_of_ne_zero positive), empty] at found
  cases found

theorem view_of_untouched (live : Live environment agrees objectCharge core)
    (empty : core.extent = 0) (offset : Nat) : core.view offset = none := by
  have published := live.pending.le
  rw [view_of_unpublished (by omega)]
  exact live.pending.cellAt_eq_none (Or.inr (by omega))

theorem drainStops_of_untouched (live : Live environment agrees objectCharge core)
    (empty : core.extent = 0) : DrainStops false core := by
  have pending := live.pending
  have published := pending.le
  unfold DrainStops
  cases rangesEq : core.ranges with
  | nil => trivial
  | cons front rest =>
      rw [rangesEq] at pending
      obtain ⟨start, valid, tail⟩ := Pending.cons_iff.mp pending
      have ordered := valid.nonempty
      have below := tail.le
      omega

theorem sound_of_empty {view : Nat → Option (Option UInt8)}
    (empty : ∀ offset, view offset = none) : SoundView origin seen view := by
  intro offset byte viewEq
  rw [empty] at viewEq
  cases viewEq

/-- The first segment that takes up sequence numbers fixes the origin. -/
theorem tracks_of_untouched (live : Live environment agrees objectCharge core)
    (unknown : core.origin = .unknown)
    (empty : core.extent = 0 ∧ core.progress = 0 ∧ core.fin = none)
    (nothing : ∀ segment ∈ seen, segment.carries = false) (segment : Segment stream) :
    Tracks segment.start seen (Npm.anchored core segment.packet) := by
  have frame := anchored_frame core segment.packet
  have viewEmpty : ∀ offset, (Npm.anchored core segment.packet).view offset = none := by
    rw [anchored_view]
    exact view_of_untouched live empty.1
  have fixed : Npm.anchored core segment.packet = { noted core segment.packet with
      baseSequence := payloadSequence segment.packet,
      origin := if segment.packet.transport.tcp.syn then .syn else .midstream } := by
    unfold Npm.anchored fixOrigin
    exact if_pos unknown
  have inside := segment.inside
  refine ⟨?_, ?_, ?_, ?_, sound_of_empty viewEmpty, ?_⟩
  · rw [fixed]
    change (if segment.packet.transport.tcp.syn = true then StreamOrigin.syn
      else StreamOrigin.midstream) ≠ _
    split <;> decide
  · rw [fixed]
    exact segment.payloadSequence_packet
  · rw [frame]
    change segment.start + core.progress ≤ stream.length
    omega
  · intro position finEq
    rw [frame] at finEq
    change core.fin = some position at finEq
    rw [empty.2.2] at finEq
    cases finEq
  · intro other member offset captures
    exact absurd captures (not_capturesAt_of_not_carries (nothing other member) _)

theorem Reassembling.push (keeps : environment.Keeps agrees)
    (run : Reassembling environment agrees objectCharge seen core highest)
    (window : segment.carries = true → ∀ end_, highest = some end_ →
      InWindow end_ segment.start) :
    Reassembling environment agrees objectCharge (seen ++ [segment])
      (push environment segment.packet core) (nextHighest highest segment) := by
  unfold nextHighest
  cases run with
  | untouched live unknown empty nothing =>
      cases carries : segment.carries with
      | true =>
          rw [if_pos rfl]
          have tracks := tracks_of_untouched live unknown empty nothing segment
          have atOrigin : InWindow (segment.start + core.progress) segment.start := by
            unfold InWindow
            omega
          have reached := reassembling_push_carrying keeps live
            (drainStops_of_untouched live empty.1) carries tracks atOrigin
            (originOf_append_of_nothing nothing carries)
          have endEq : max (segment.start + core.progress) segment.end_ = segment.end_ := by
            unfold Segment.end_
            omega
          rw [endEq] at reached
          exact reached
      | false =>
          rw [if_neg (by decide)]
          rcases push_not_carrying keeps live carries with
            nextEq | ⟨error, middle, broken, nextEq⟩ <;> rw [nextEq]
          · refine .untouched (live.noted _) unknown empty ?_
            intro other member
            rcases List.mem_append.mp member with earlier | last
            · exact nothing other earlier
            · exact List.mem_singleton.mp last ▸ carries
          · have viewEmpty := view_of_untouched live empty.1
            exact reassembling_fail 0 keeps broken (sound_of_empty viewEmpty)
              (.inl (broken.published_of_empty viewEmpty))
  | tracking origin live tracks stops originEq =>
      have originEq' := originOf_append_of_some originEq segment
      have notedTracks : Tracks origin seen (noted core segment.packet) := tracks.reframe rfl
      cases carries : segment.carries with
      | true =>
          rw [if_pos rfl]
          have known : Npm.anchored core segment.packet = noted core segment.packet :=
            if_neg tracks.anchored
          exact reassembling_push_carrying keeps live stops carries (known ▸ notedTracks)
            (window carries _ rfl) originEq'
      | false =>
          rw [if_neg (by decide)]
          rcases push_not_carrying keeps live carries with
            nextEq | ⟨error, middle, broken, nextEq⟩ <;> rw [nextEq]
          · exact .tracking origin (live.noted _)
              (notedTracks.append fun offset => not_capturesAt_of_not_carries carries _)
              (stops.reframe rfl rfl) originEq'
          · exact reassembling_fail _ keeps broken (SoundView.mono tracks.sound segment)
              (.inr originEq')
  | stopped _ origin stops between sound originEq complete =>
      rw [Npm.push, if_pos stops]
      refine .stopped _ origin stops between (sound.mono segment)
        (originEq.imp_right fun known => originOf_append_of_some known segment) ?_
      intro undisturbed
      obtain ⟨known, ended⟩ := complete undisturbed
      exact ⟨originOf_append_of_some known segment, ended⟩

theorem abort_of_live (live : Live environment agrees objectCharge core) :
    abort environment core = fail environment .aborted core := by
  rw [abort, if_pos live.running, fail]

theorem Finished.published_eq {reason : EndReason} {sessionReason : Option SessionEndReason}
    (finished : Finished environment agrees objectCharge core reason sessionReason next) :
    next.published = core.extent := by
  obtain ⟨_, last, live, drained, empty, frame⟩ := finished
  have contiguous := live.pending.contiguous
  rw [empty, Contiguous.nil_iff] at contiguous
  rw [frame]
  change last.published = core.extent
  rw [contiguous, drained.frame]

/-- A stopped run only collects further segments. -/
theorem reassembling_silent {seen' : List (Segment stream)} (silent : Silent core next)
    (stops : stopped core = true) (between : Between environment agrees objectCharge next)
    (sound : SoundView origin seen' (lookup StreamEvent.byteAt core.emitted))
    (originEq : core.published = 0 ∨ originOf seen' = some origin)
    (complete : Undisturbed core →
      originOf seen' = some origin ∧ origin + core.published = stream.length) :
    Reassembling environment agrees objectCharge seen' next highest := by
  refine .stopped highest origin (silent.stopped_eq.trans stops) between ?_ ?_ ?_
  · rw [silent.emitted_eq]
    exact sound
  · rw [silent.published_eq]
    exact originEq
  · rintro ⟨noError, noGap, onlyFin⟩
    rw [silent.published_eq]
    rw [silent.emitted_eq] at noGap onlyFin
    exact complete ⟨silent.error_eq ▸ noError, noGap, onlyFin⟩

/-- Calls that bring no segment. -/
theorem Reassembling.call (keeps : environment.Keeps agrees)
    (run : Reassembling environment agrees objectCharge seen core highest)
    (arrival : Arrival stream) (noSegment : arrival.segments = []) :
    Reassembling environment agrees objectCharge seen
      (runCall environment core arrival.call) highest := by
  cases run with
  | untouched live unknown empty nothing =>
      have viewEmpty := view_of_untouched live empty.1
      have failing : ∀ {error : StreamError} {middle : StreamDirection σ},
          Broken agrees core.view error middle →
          Reassembling environment agrees objectCharge seen (fail environment error middle)
            none := fun broken =>
        reassembling_fail 0 keeps broken (sound_of_empty viewEmpty)
          (.inl (broken.published_of_empty viewEmpty))
      cases arrival with
      | deliver segment => cases noSegment
      | advanceWatermark watermarkNs =>
          change Reassembling _ _ _ _ (Npm.advanceWatermark environment watermarkNs core) _
          rcases advanceWatermark_cases keeps live watermarkNs with
            nextEq | settled | ⟨error, middle, broken, nextEq⟩
          · rw [nextEq]
            exact .untouched live unknown empty nothing
          · generalize Npm.advanceWatermark environment watermarkNs core = next at settled
            cases settled with
            | running nextLive drained _ _ =>
                refine .untouched nextLive ?_ ?_ nothing <;> rw [drained.frame]
                · exact unknown
                · exact empty
            | finished atFin finished =>
                obtain ⟨_, last, _, drained, _, frame⟩ := finished
                rw [frame] at atFin
                change last.fin = _ at atFin
                rw [drained.frame] at atFin
                rw [show core.fin = none from empty.2.2] at atFin
                cases atFin
          · rw [nextEq]
            exact failing broken
      | endStream reason sessionReason =>
          change Reassembling _ _ _ _ (Npm.endStream environment reason sessionReason core) _
          rcases endStream_cases keeps live reason sessionReason with
            ⟨reasons, notFin, finished⟩ | ⟨error, middle, broken, nextEq⟩
          · exact reassembling_finished 0 finished notFin (sound_of_empty viewEmpty)
              (.inl (finished.published_eq.trans empty.1))
          · rw [nextEq]
            exact failing broken
      | abort =>
          change Reassembling _ _ _ _ (Npm.abort environment core) _
          rw [abort_of_live live]
          exact failing (live.broken (by decide))
  | tracking origin live tracks stops originEq =>
      have failing : ∀ {error : StreamError} {middle : StreamDirection σ},
          Broken agrees core.view error middle →
          Reassembling environment agrees objectCharge seen (fail environment error middle)
            (some (origin + core.progress)) := fun broken =>
        reassembling_fail _ keeps broken tracks.sound (.inr originEq)
      cases arrival with
      | deliver segment => cases noSegment
      | advanceWatermark watermarkNs =>
          change Reassembling _ _ _ _ (Npm.advanceWatermark environment watermarkNs core) _
          rcases advanceWatermark_cases keeps live watermarkNs with
            nextEq | settled | ⟨error, middle, broken, nextEq⟩
          · rw [nextEq]
            exact .tracking origin live tracks stops originEq
          · have moved : Tracks origin seen { core with watermark := some watermarkNs } :=
              tracks.reframe rfl
            have settledRun := reassembling_settled moved originEq settled
            exact settledRun
          · rw [nextEq]
            exact failing broken
      | endStream reason sessionReason =>
          change Reassembling _ _ _ _ (Npm.endStream environment reason sessionReason core) _
          rcases endStream_cases keeps live reason sessionReason with
            ⟨reasons, notFin, finished⟩ | ⟨error, middle, broken, nextEq⟩
          · exact reassembling_finished _ finished notFin tracks.sound (.inr originEq)
          · rw [nextEq]
            exact failing broken
      | abort =>
          change Reassembling _ _ _ _ (Npm.abort environment core) _
          rw [abort_of_live live]
          exact failing (live.broken (by decide))
  | stopped _ origin stops between sound originEq complete =>
      exact reassembling_silent (runCall_silent stops _) stops (runCall_between keeps between _)
        sound originEq complete

/-! ## Runs -/

theorem Reassembling.arrival (keeps : environment.Keeps agrees)
    (run : Reassembling environment agrees objectCharge seen core highest)
    (arrival : Arrival stream) (window : WindowFrom highest arrival.segments) :
    Reassembling environment agrees objectCharge (seen ++ arrival.segments)
      (runCall environment core arrival.call)
      (arrival.segments.foldl nextHighest highest) := by
  cases arrival with
  | deliver segment => exact run.push keeps window.1
  | advanceWatermark watermarkNs =>
      exact (List.append_nil seen).symm ▸
        run.call keeps (.advanceWatermark watermarkNs) rfl
  | endStream reason sessionReason =>
      exact (List.append_nil seen).symm ▸
        run.call keeps (.endStream reason sessionReason) rfl
  | abort => exact (List.append_nil seen).symm ▸ run.call keeps .abort rfl

theorem WindowFrom.append {segments later : List (Segment stream)}
    (window : WindowFrom highest (segments ++ later)) :
    WindowFrom highest segments ∧ WindowFrom (segments.foldl nextHighest highest) later := by
  induction segments generalizing highest with
  | nil => exact ⟨trivial, window⟩
  | cons segment rest ih =>
      obtain ⟨restWindow, laterWindow⟩ := ih window.2
      exact ⟨⟨window.1, restWindow⟩, laterWindow⟩

/-- Any number of arrivals. -/
theorem Reassembling.run (keeps : environment.Keeps agrees) (arrivals : List (Arrival stream))
    (run : Reassembling environment agrees objectCharge seen core highest)
    (window : WindowFrom highest (segmentsOf arrivals)) :
    ∃ last, Reassembling environment agrees objectCharge (seen ++ segmentsOf arrivals)
      (runArrivals environment core arrivals) last := by
  induction arrivals generalizing seen core highest with
  | nil => exact ⟨highest, (List.append_nil seen).symm ▸ run⟩
  | cons arrival rest ih =>
      change WindowFrom highest (arrival.segments ++ segmentsOf rest) at window
      obtain ⟨arrivalWindow, restWindow⟩ := window.append
      have reached := ih (run.arrival keeps arrival arrivalWindow) restWindow
      rw [List.append_assoc] at reached
      exact reached

end Steps

end Flowsql.Npm
