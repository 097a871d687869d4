import Flowsql.Npm.TlsHandshake

/-!
# What a TLS handshake has seen

The state of a handshake against the framed events that led to it. Every event advances the
handshake or closes it with a result.
-/

namespace Flowsql.Npm

namespace TlsHelloFacts

/-- The version that a ServerHello selects. -/
def version (hello : TlsHelloFacts) : Nat := hello.selectedVersion.getD 0x0303

/-- A ClientHello without a list of versions offers TLS 1.2. -/
def offers (hello : TlsHelloFacts) (version : Nat) : Bool :=
  if hello.offeredVersions.isEmpty then version == 0x0303 else hello.offersVersion version

end TlsHelloFacts

/-- A ServerHello that asks the client to try again. -/
def TlsFramedEvent.IsRetryRequest (event : TlsFramedEvent) : Prop :=
  event.kind = .serverHello ∧ ∃ hello, event.hello = some hello ∧ hello.helloRetryRequest = true

namespace TlsHandshake

variable {history between more : List TlsFramedEvent} {handshake : TlsHandshake}
  {hello : TlsHelloFacts} {event : TlsFramedEvent}

/-- The event brings a valid ClientHello from the client. -/
def BringsClientHello (handshake : TlsHandshake) (hello : TlsHelloFacts) (event : TlsFramedEvent) :
    Prop :=
  event.kind = .clientHello ∧ event.direction = handshake.clientDirection ∧
    event.hello = some hello ∧ hello.validClientHello = true

/-- The event brings a ServerHello from the other side. -/
def BringsServerHello (handshake : TlsHandshake) (hello : TlsHelloFacts) (event : TlsFramedEvent) :
    Prop :=
  event.kind = .serverHello ∧ event.direction ≠ handshake.clientDirection ∧
    event.hello = some hello

/-- The events since the first ClientHello. -/
def Since (handshake : TlsHandshake) (history between : List TlsFramedEvent) : Prop :=
  ∃ before event hello, history = before ++ event :: between ∧
    handshake.firstClientHello = some hello ∧ handshake.BringsClientHello hello event

/-- The server asks to try again. -/
def Requested (handshake : TlsHandshake) (between : List TlsFramedEvent) : Prop :=
  ∃ request ∈ between, request.IsRetryRequest ∧ request.direction ≠ handshake.clientDirection

/-- The server asks to try again, and the client then does with an offer of TLS 1.3. -/
def Retried (handshake : TlsHandshake) (between : List TlsFramedEvent) : Prop :=
  ∃ request retry hello, [request, retry].Sublist between ∧ request.IsRetryRequest ∧
    request.direction ≠ handshake.clientDirection ∧ handshake.retryClientHello = some hello ∧
    handshake.BringsClientHello hello retry ∧ hello.offersVersion 0x0304 = true

/-- The final ServerHello follows the first ClientHello, which offers its version. If the server
asked to try again, the client did before, and the version is TLS 1.3. -/
def Observed (handshake : TlsHandshake) (history : List TlsFramedEvent) : Prop :=
  ∃ earlier between event later hello, history = earlier ++ event :: later ∧
    handshake.Since earlier between ∧ handshake.BringsServerHello hello event ∧
    handshake.finalServerHello = some hello ∧ hello.helloRetryRequest = false ∧
    (∃ first, handshake.firstClientHello = some first ∧ first.offers hello.version = true) ∧
    ((∀ event ∈ between, ¬ event.IsRetryRequest) ∨
      handshake.Retried between ∧ hello.selectsTls13 = true)

/-- The time between the hellos fits in an `int64_t`. -/
def TimesFit (handshake : TlsHandshake) : Prop :=
  ∀ first final clientAt serverAt, handshake.firstClientHello = some first →
    handshake.finalServerHello = some final → first.completeAtNs = some clientAt →
    final.completeAtNs = some serverAt → serverAt - clientAt ≤ maxInt64

/-- The exact time from the first ClientHello to the final ServerHello. -/
def Elapsed (handshake : TlsHandshake) (latency : Int) : Prop :=
  ∃ first final clientAt serverAt, handshake.firstClientHello = some first ∧
    handshake.finalServerHello = some final ∧ first.completeAtNs = some clientAt ∧
    final.completeAtNs = some serverAt ∧ latency = serverAt - clientAt ∧ 0 ≤ latency ∧
    latency ≤ maxInt64

/-- What the events have shown in each phase of an open handshake. -/
inductive Traced (history : List TlsFramedEvent) (handshake : TlsHandshake) : Prop where
  | candidate (phase : handshake.phase = .candidate) (first : handshake.firstClientHello = none)
      (final : handshake.finalServerHello = none)
  | awaitingServerHello {between : List TlsFramedEvent}
      (phase : handshake.phase = .awaitingServerHello) (since : handshake.Since history between)
      (plain : ∀ event ∈ between, ¬ event.IsRetryRequest)
      (final : handshake.finalServerHello = none)
  | awaitingRetryClientHello {between : List TlsFramedEvent}
      (phase : handshake.phase = .awaitingRetryClientHello)
      (since : handshake.Since history between) (requested : handshake.Requested between)
      (final : handshake.finalServerHello = none)
  | awaitingFinalServerHello {between : List TlsFramedEvent}
      (phase : handshake.phase = .awaitingFinalServerHello)
      (since : handshake.Since history between) (retried : handshake.Retried between)
      (final : handshake.finalServerHello = none)
  | awaitingTls12Boundary {hello : TlsHelloFacts}
      (phase : handshake.phase = .awaitingTls12Boundary)
      (final : handshake.finalServerHello = some hello) (older : hello.selectsTls13 = false)
      (observed : handshake.Observed history) (fits : handshake.TimesFit)

theorem Since.append (since : handshake.Since history between) (more : List TlsFramedEvent) :
    handshake.Since (history ++ more) (between ++ more) := by
  obtain ⟨before, event, hello, split, rest⟩ := since
  exact ⟨before, event, hello, by rw [split, List.append_assoc, List.cons_append], rest⟩

theorem Requested.append (requested : handshake.Requested between) (more : List TlsFramedEvent) :
    handshake.Requested (between ++ more) := by
  obtain ⟨request, member, asks⟩ := requested
  exact ⟨request, List.mem_append_left _ member, asks⟩

theorem Retried.append (retried : handshake.Retried between) (more : List TlsFramedEvent) :
    handshake.Retried (between ++ more) := by
  obtain ⟨request, retry, hello, sublist, rest⟩ := retried
  exact ⟨request, retry, hello, sublist.trans (List.sublist_append_left _ _), rest⟩

theorem Observed.append (observed : handshake.Observed history) (more : List TlsFramedEvent) :
    handshake.Observed (history ++ more) := by
  obtain ⟨earlier, between, event, later, hello, split, rest⟩ := observed
  exact ⟨earlier, between, event, later ++ more, hello,
    by rw [split, List.append_assoc, List.cons_append], rest⟩

theorem timesFit_of_none (final : handshake.finalServerHello = none) : handshake.TimesFit := by
  intro _ _ _ _ _ some_
  cases final.symm.trans some_

theorem Traced.timesFit (traced : handshake.Traced history) : handshake.TimesFit := by
  cases traced with
  | candidate phase first final => exact timesFit_of_none final
  | awaitingServerHello phase since plain final => exact timesFit_of_none final
  | awaitingRetryClientHello phase since requested final => exact timesFit_of_none final
  | awaitingFinalServerHello phase since retried final => exact timesFit_of_none final
  | awaitingTls12Boundary phase final older observed fits => exact fits

/-- A final ServerHello is stored between its arrival and the end of the handshake. -/
theorem Traced.boundary_iff (traced : handshake.Traced history) :
    handshake.phase = .awaitingTls12Boundary ↔
      ∃ hello, handshake.finalServerHello = some hello ∧ hello.selectsTls13 = false := by
  cases traced with
  | candidate phase first final => simp [phase, final]
  | awaitingServerHello phase since plain final => simp [phase, final]
  | awaitingRetryClientHello phase since requested final => simp [phase, final]
  | awaitingFinalServerHello phase since retried final => simp [phase, final]
  | awaitingTls12Boundary phase final older observed fits => simp [phase, final, older]

theorem Traced.observed (traced : handshake.Traced history)
    (final : handshake.finalServerHello.isSome = true) : handshake.Observed history := by
  cases traced with
  | awaitingTls12Boundary phase stored older observed fits => exact observed
  | candidate phase first missing => simp [missing] at final
  | awaitingServerHello phase since plain missing => simp [missing] at final
  | awaitingRetryClientHello phase since requested missing => simp [missing] at final
  | awaitingFinalServerHello phase since retried missing => simp [missing] at final

/-- An event that changes nothing. -/
theorem Traced.append (traced : handshake.Traced history)
    (plain : handshake.phase = .awaitingServerHello → ¬ event.IsRetryRequest) :
    handshake.Traced (history ++ [event]) := by
  cases traced with
  | candidate phase first final => exact .candidate phase first final
  | awaitingServerHello phase since earlier final =>
      refine .awaitingServerHello phase (since.append [event]) ?_ final
      intro other member
      rcases List.mem_append.mp member with old | new
      · exact earlier other old
      · rw [List.mem_singleton.mp new]
        exact plain phase
  | awaitingRetryClientHello phase since requested final =>
      exact .awaitingRetryClientHello phase (since.append _) (requested.append _) final
  | awaitingFinalServerHello phase since retried final =>
      exact .awaitingFinalServerHello phase (since.append _) (retried.append _) final
  | awaitingTls12Boundary phase final older observed fits =>
      exact .awaitingTls12Boundary phase final older (observed.append _) fits

/-- The first ClientHello. -/
theorem Traced.clientHello (brings : handshake.BringsClientHello hello event)
    (final : handshake.finalServerHello = none) :
    ({ handshake with firstClientHello := some hello, phase := .awaitingServerHello } :
      TlsHandshake).Traced (history ++ [event]) :=
  .awaitingServerHello rfl ⟨history, event, hello, rfl, rfl, brings⟩
    (fun _ member => absurd member List.not_mem_nil) final

theorem Traced.retryRequest (traced : handshake.Traced history)
    (phase : handshake.phase = .awaitingServerHello)
    (brings : handshake.BringsServerHello hello event) (request : hello.helloRetryRequest = true) :
    ({ handshake with helloRetryCount := 1, phase := .awaitingRetryClientHello } :
      TlsHandshake).Traced (history ++ [event]) := by
  cases traced with
  | awaitingServerHello _ since plain final =>
      obtain ⟨kind, direction, helloEq⟩ := brings
      exact .awaitingRetryClientHello rfl (since.append [event])
        ⟨event, by simp, ⟨kind, hello, helloEq, request⟩, direction⟩ final
  | candidate other | awaitingRetryClientHello other | awaitingFinalServerHello other
  | awaitingTls12Boundary other =>
      cases other.symm.trans phase

theorem Traced.retryClientHello (traced : handshake.Traced history)
    (phase : handshake.phase = .awaitingRetryClientHello)
    (brings : handshake.BringsClientHello hello event)
    (offered : hello.offersVersion 0x0304 = true) :
    ({ handshake with retryClientHello := some hello, phase := .awaitingFinalServerHello } :
      TlsHandshake).Traced (history ++ [event]) := by
  cases traced with
  | @awaitingRetryClientHello between _ since requested final =>
      obtain ⟨request, member, asks, direction⟩ := requested
      refine .awaitingFinalServerHello rfl (since.append [event]) ⟨request, event, hello, ?_, asks,
        direction, rfl, brings, offered⟩ final
      exact (List.singleton_sublist.mpr member).append (List.Sublist.refl [event])
  | candidate other | awaitingServerHello other | awaitingFinalServerHello other
  | awaitingTls12Boundary other =>
      cases other.symm.trans phase

/-! ## The final ServerHello -/

/-- `OnFramedEvent` takes the event as the final ServerHello. -/
def takesServerHello (handshake : TlsHandshake) (event : TlsFramedEvent) (hello : TlsHelloFacts) :
    Bool :=
  event.kind == .serverHello && event.direction != handshake.clientDirection &&
    hello.legacyVersion == 0x0303 && hello.validCipherSuite && !hello.helloRetryRequest &&
    if hello.selectsTls13 then
      (handshake.phase == .awaitingServerHello || handshake.phase == .awaitingFinalServerHello) &&
        handshake.firstClientHello.any (·.offersVersion 0x0304) && hello.selectedAlpn.isNone
    else
      handshake.phase == .awaitingServerHello && hello.selectedVersion.all (· == 0x0303)

/-- The first ClientHello offers the version of the ServerHello, and the time between the two
fits in an `int64_t`. -/
def isAnsweredBy (handshake : TlsHandshake) (hello : TlsHelloFacts) : Bool :=
  handshake.firstClientHello.all fun first =>
    first.offers hello.version &&
      match first.completeAtNs, hello.completeAtNs with
      | some clientAt, some serverAt => decide (serverAt - clientAt ≤ maxInt64)
      | _, _ => true

theorem timesFit_of_isAnsweredBy (answered : handshake.isAnsweredBy hello = true) :
    ({ handshake with finalServerHello := some hello } : TlsHandshake).TimesFit := by
  intro first final clientAt serverAt firstEq finalEq clientEq serverEq
  obtain rfl : hello = final := Option.some.inj finalEq
  have firstEq : handshake.firstClientHello = some first := firstEq
  simp only [isAnsweredBy, firstEq, Option.all_some, clientEq, serverEq, Bool.and_eq_true,
    decide_eq_true_eq] at answered
  exact answered.2

theorem Since.first (since : handshake.Since history between) :
    ∃ first, handshake.firstClientHello = some first := by
  obtain ⟨_, _, first, _, stored, _⟩ := since
  exact ⟨first, stored⟩

theorem Traced.first (traced : handshake.Traced history)
    (phase : handshake.phase = .awaitingServerHello ∨
      handshake.phase = .awaitingFinalServerHello) :
    ∃ first, handshake.firstClientHello = some first := by
  cases traced with
  | awaitingServerHello _ since plain final => exact since.first
  | awaitingFinalServerHello _ since retried final => exact since.first
  | candidate other | awaitingRetryClientHello other | awaitingTls12Boundary other =>
      simp [other] at phase

/-- A ServerHello that is taken, and that the first ClientHello allows. -/
theorem Traced.observed_final (traced : handshake.Traced history)
    (brings : handshake.BringsServerHello hello event) (request : hello.helloRetryRequest = false)
    (phase : handshake.phase = .awaitingServerHello ∨
      handshake.phase = .awaitingFinalServerHello ∧ hello.selectsTls13 = true)
    (answered : handshake.isAnsweredBy hello = true) :
    ({ handshake with finalServerHello := some hello } : TlsHandshake).Observed
      (history ++ [event]) := by
  have offered : ∀ between, handshake.Since history between →
      ∃ first, handshake.firstClientHello = some first ∧ first.offers hello.version = true := by
    intro between since
    obtain ⟨first, stored⟩ := since.first
    simp only [isAnsweredBy, stored, Option.all_some, Bool.and_eq_true] at answered
    exact ⟨first, stored, answered.1⟩
  cases traced with
  | @awaitingServerHello between _ since plain final =>
      exact ⟨history, between, event, [], hello, rfl, since, brings, rfl, request,
        offered between since, .inl plain⟩
  | @awaitingFinalServerHello between stored since retried final =>
      have tls13 : hello.selectsTls13 = true := by
        rcases phase with other | ⟨_, tls13⟩
        · cases stored.symm.trans other
        · exact tls13
      exact ⟨history, between, event, [], hello, rfl, since, brings, rfl, request,
        offered between since, .inr ⟨retried, tls13⟩⟩
  | candidate other | awaitingRetryClientHello other | awaitingTls12Boundary other =>
      simp [other] at phase

end TlsHandshake

/-- What is right about a result. -/
structure TlsHandshakeResult.Sound (history : List TlsFramedEvent) (result : TlsHandshakeResult) :
    Prop where
  observed : result.outcome = .serverHelloObserved → result.handshake.Observed history
  latency : ∀ latency, result.serverHelloLatencyNs = some latency →
    result.handshake.Elapsed latency

theorem TlsHandshakeResult.Sound.append {history : List TlsFramedEvent}
    {result : TlsHandshakeResult} (sound : result.Sound history) (more : List TlsFramedEvent) :
    result.Sound (history ++ more) :=
  ⟨fun outcome => (sound.observed outcome).append more, sound.latency⟩

theorem subInt64_eq {left right : Int} (ordered : right ≤ left) (fits : left - right ≤ maxInt64) :
    subInt64 left right = left - right := by
  unfold subInt64
  unfold maxInt64 at fits
  omega

theorem TlsHandshake.elapsed_serverHelloLatency {handshake : TlsHandshake}
    (fits : handshake.TimesFit) {latency : Int}
    (reported : handshake.serverHelloLatency = some latency) : handshake.Elapsed latency := by
  unfold serverHelloLatency at reported
  split at reported
  · next first final firstEq finalEq =>
      split at reported
      · next clientAt serverAt clientEq serverEq =>
          have most := fits first final clientAt serverAt firstEq finalEq clientEq serverEq
          split at reported
          · next ordered =>
              rw [subInt64_eq ordered most] at reported
              obtain rfl := Option.some.inj reported
              exact ⟨first, final, clientAt, serverAt, firstEq, finalEq, clientEq, serverEq, rfl,
                by omega, most⟩
          · cases reported
      · cases reported
  · cases reported

namespace TlsTracker

variable {history : List TlsFramedEvent} {tracker : TlsTracker} {candidate : TlsHandshake}
  {event : TlsFramedEvent} {hello : TlsHelloFacts} {observedAtNs : Int}

/-- The candidate goes on, or a result closes the tracker. -/
inductive Follows (history : List TlsFramedEvent) (tracker : TlsTracker) : TlsStep → Prop where
  | advances {next : TlsHandshake} (traced : next.Traced history) :
      Follows history tracker ⟨{ tracker with candidate := some next }, none⟩
  | closes {result : TlsHandshakeResult} (sound : result.Sound history) :
      Follows history tracker ⟨{ tracker with candidate := none, closed := true }, some result⟩

theorem follows_same (is : tracker.candidate = some candidate) (traced : candidate.Traced history) :
    Follows history tracker ⟨tracker, none⟩ := by
  obtain ⟨sessionId, timeout, framer, stored, watermark, closed⟩ := tracker
  cases is
  exact .advances traced

/-- The tracker closes with a result. -/
def Closes (history : List TlsFramedEvent) (tracker : TlsTracker) (step : TlsStep) : Prop :=
  ∃ result, result.Sound history ∧
    step = ⟨{ tracker with candidate := none, closed := true }, some result⟩

theorem Closes.follows {step : TlsStep} (closes : Closes history tracker step) :
    Follows history tracker step := by
  obtain ⟨result, sound, rfl⟩ := closes
  exact .closes sound

theorem close_closes {outcome : TlsHandshakeOutcome} (is : tracker.candidate = some candidate)
    (open_ : tracker.closed = false)
    (observed : outcome = .serverHelloObserved → candidate.Observed history)
    (fits : candidate.TimesFit) (reason : TlsIncompleteReason) :
    Closes history tracker (tracker.close outcome reason observedAtNs) := by
  unfold close
  simp only [is, open_]
  exact ⟨_, ⟨observed, fun latency => candidate.elapsed_serverHelloLatency fits⟩, rfl⟩

theorem fail_closes (is : tracker.candidate = some candidate) (open_ : tracker.closed = false)
    (fits : candidate.TimesFit) (reason : TlsIncompleteReason) :
    Closes history tracker (tracker.fail reason observedAtNs) := by
  unfold fail
  refine close_closes is open_ ?_ fits reason
  nofun

theorem close_follows {outcome : TlsHandshakeOutcome} (is : tracker.candidate = some candidate)
    (open_ : tracker.closed = false)
    (observed : outcome = .serverHelloObserved → candidate.Observed history)
    (fits : candidate.TimesFit) (reason : TlsIncompleteReason) :
    Follows history tracker (tracker.close outcome reason observedAtNs) :=
  (close_closes is open_ observed fits reason).follows

theorem fail_follows {before : List TlsFramedEvent} (is : tracker.candidate = some candidate)
    (open_ : tracker.closed = false) (traced : candidate.Traced before)
    (reason : TlsIncompleteReason) :
    Follows history tracker (tracker.fail reason observedAtNs) :=
  (fail_closes is open_ traced.timesFit reason).follows

theorem Follows.of_advanced {other : TlsHandshake} {step : TlsStep}
    (follows : Follows history { tracker with candidate := some other } step) :
    Follows history tracker step := by
  cases follows with
  | advances traced => exact .advances traced
  | closes sound => exact .closes sound

/-! ## Events -/

section Events

variable (is : tracker.candidate = some candidate) (open_ : tracker.closed = false)
  (traced : candidate.Traced history)

include is traced in
/-- An event that is no ServerHello and changes nothing. -/
theorem skip_follows (kind : event.kind ≠ .serverHello) :
    Follows (history ++ [event]) tracker ⟨tracker, none⟩ :=
  follows_same is (traced.append fun _ request => kind request.1)

include is open_ traced

theorem onAlert_follows (kind : event.kind ≠ .serverHello) :
    Follows (history ++ [event]) tracker (tracker.onAlert event observedAtNs) := by
  unfold onAlert
  split
  · unfold close
    simp only [is, open_, Option.map_some]
    exact .closes ⟨nofun, fun latency => candidate.elapsed_serverHelloLatency traced.timesFit⟩
  · exact skip_follows is traced kind

theorem onChangeCipherSpec_follows (kind : event.kind ≠ .serverHello) :
    Follows (history ++ [event]) tracker
      (tracker.onChangeCipherSpec candidate event observedAtNs) := by
  unfold onChangeCipherSpec
  split
  · exact fail_follows is open_ traced _
  split
  · next boundary =>
      obtain ⟨hello, final, _⟩ := traced.boundary_iff.mp boundary
      have observed := traced.observed (Option.isSome_iff_exists.mpr ⟨hello, final⟩)
      exact close_follows is open_ (fun _ => observed.append _) traced.timesFit _
  · exact skip_follows is traced kind

theorem onClientHello_follows (kind : event.kind = .clientHello) (helloEq : event.hello = some hello) :
    Follows (history ++ [event]) tracker
      (tracker.onClientHello candidate (event.direction = candidate.clientDirection) hello
        observedAtNs) := by
  unfold onClientHello
  split
  · exact fail_follows is open_ traced _
  next valid =>
    rw [not_or, not_not, not_not, decide_eq_true_eq] at valid
    have brings : candidate.BringsClientHello hello event :=
      ⟨kind, valid.1, helloEq, valid.2⟩
    split
    · next phase =>
        cases traced with
        | candidate _ first final => exact .advances (.clientHello brings final)
        | awaitingServerHello other | awaitingRetryClientHello other
        | awaitingFinalServerHello other | awaitingTls12Boundary other =>
            cases other.symm.trans phase
    split
    · next again => exact .advances (traced.retryClientHello again.1 brings again.2)
    · exact fail_follows is open_ traced _

theorem onHelloRetryRequest_follows (brings : candidate.BringsServerHello hello event)
    (request : hello.helloRetryRequest = true) :
    ∃ step, tracker.onHelloRetryRequest candidate hello observedAtNs = some step ∧
      Follows (history ++ [event]) tracker step := by
  unfold onHelloRetryRequest
  split
  · exact ⟨_, rfl, fail_follows is open_ traced _⟩
  next expected =>
    rw [not_or, not_not] at expected
    have advanced := traced.retryRequest expected.1 brings request
    cases traced with
    | awaitingServerHello phase since plain final =>
        obtain ⟨first, stored⟩ := since.first
        refine ⟨_, Option.map_eq_some_iff.mpr ⟨first, stored, rfl⟩, ?_⟩
        split
        · exact fail_follows is open_ (.awaitingServerHello phase since plain final) _
        · exact .advances advanced
    | candidate other | awaitingRetryClientHello other | awaitingFinalServerHello other
    | awaitingTls12Boundary other =>
        cases other.symm.trans expected.1

omit is in
theorem onFinalServerHello_follows (brings : candidate.BringsServerHello hello event)
    (request : hello.helloRetryRequest = false)
    (phase : candidate.phase = .awaitingServerHello ∨
      candidate.phase = .awaitingFinalServerHello ∧ hello.selectsTls13 = true)
    (answered : candidate.isAnsweredBy hello = true) :
    Follows (history ++ [event]) tracker
      (tracker.onFinalServerHello candidate hello observedAtNs) := by
  have observed := traced.observed_final brings request phase answered
  have fits := TlsHandshake.timesFit_of_isAnsweredBy answered
  unfold onFinalServerHello
  simp only
  split
  · refine Follows.of_advanced (close_follows rfl ?_ (fun _ => observed) fits _)
    exact open_
  · next older =>
      exact .advances (.awaitingTls12Boundary rfl rfl (by simpa using older) observed fits)

theorem onServerHello_follows (kind : event.kind = .serverHello) (helloEq : event.hello = some hello)
    (fair : candidate.takesServerHello event hello = true → candidate.isAnsweredBy hello = true) :
    ∃ step, tracker.onServerHello candidate (event.direction = candidate.clientDirection) hello
        observedAtNs = some step ∧ Follows (history ++ [event]) tracker step := by
  unfold onServerHello
  split
  · exact ⟨_, rfl, fail_follows is open_ traced _⟩
  next expected =>
    rw [not_or, decide_eq_true_eq, not_and_or, not_not, not_not] at expected
    obtain ⟨server, phase⟩ := expected
    have brings : candidate.BringsServerHello hello event := ⟨kind, server, helloEq⟩
    split
    · exact ⟨_, rfl, fail_follows is open_ traced _⟩
    next valid =>
      rw [not_or, not_not, not_not] at valid
      split
      · next request => exact onHelloRetryRequest_follows is open_ traced brings request
      next request =>
        have request : hello.helloRetryRequest = false := by simpa using request
        split
        · exact ⟨_, rfl, fail_follows is open_ traced _⟩
        next known =>
          split
          · exact ⟨_, rfl, fail_follows is open_ traced _⟩
          next retried =>
            have phaseAfter : candidate.phase = .awaitingServerHello ∨
                candidate.phase = .awaitingFinalServerHello ∧ hello.selectsTls13 = true := by
              rw [not_and_or, not_not] at retried
              tauto
            split
            · next tls13 =>
                obtain ⟨first, stored⟩ := traced.first phase
                refine ⟨_, Option.map_eq_some_iff.mpr ⟨first, stored, rfl⟩, ?_⟩
                split
                · exact fail_follows is open_ traced _
                next offered =>
                  rw [not_or, not_not, Bool.not_eq_true, Option.isSome_eq_false_iff] at offered
                  refine onFinalServerHello_follows open_ traced brings request phaseAfter
                    (fair ?_)
                  unfold TlsHandshake.takesServerHello
                  simp [kind, server, valid.1, valid.2, request, tls13, stored, offered.1,
                    offered.2]
                  exact phase
            · next tls12 =>
                refine ⟨_, rfl, onFinalServerHello_follows open_ traced brings request phaseAfter
                    (fair ?_)⟩
                have first : candidate.phase = .awaitingServerHello :=
                  phaseAfter.resolve_right fun again => tls12 again.2
                have older : hello.selectedVersion.all (· == 0x0303) = true := by
                  unfold TlsHelloFacts.selectsTls13 at tls12
                  cases selected : hello.selectedVersion with
                  | none => rfl
                  | some version =>
                      simp only [selected, Option.any_some, Option.some_beq_some, beq_iff_eq,
                        Bool.and_eq_true, bne_iff_ne] at known tls12
                      simpa [tls12] using known
                unfold TlsHandshake.takesServerHello
                simp [kind, server, valid.1, valid.2, request, tls12, first, older]

/-- Every event of an open candidate advances it or closes the tracker, and no ClientHello is
read that is not there. -/
theorem onCandidateEvent_follows
    (fair : ∀ hello, event.hello = some hello → candidate.takesServerHello event hello = true →
      candidate.isAnsweredBy hello = true) :
    ∃ step, tracker.onCandidateEvent candidate event observedAtNs = some step ∧
      Follows (history ++ [event]) tracker step := by
  unfold onCandidateEvent
  simp only
  split
  · exact ⟨_, rfl, fail_follows is open_ traced _⟩
  split
  · next kind => exact ⟨_, rfl, onAlert_follows is open_ traced (by simp [kind])⟩
  · next kind => exact ⟨_, rfl, onChangeCipherSpec_follows is open_ traced (by simp [kind])⟩
  · next kind =>
      refine ⟨_, rfl, ?_⟩
      split
      · exact fail_follows is open_ traced _
      · exact skip_follows is traced (by simp [kind])
  · next kind =>
      refine ⟨_, rfl, ?_⟩
      split
      · exact fail_follows is open_ traced _
      · exact skip_follows is traced (by simp [kind])
  · next kind =>
      split
      · exact ⟨_, rfl, fail_follows is open_ traced _⟩
      · next hello helloEq => exact ⟨_, rfl, onClientHello_follows is open_ traced kind helloEq⟩
  · next kind =>
      split
      · exact ⟨_, rfl, fail_follows is open_ traced _⟩
      · next hello helloEq =>
          exact onServerHello_follows is open_ traced kind helloEq (fair hello helloEq)

end Events

end TlsTracker

end Flowsql.Npm
