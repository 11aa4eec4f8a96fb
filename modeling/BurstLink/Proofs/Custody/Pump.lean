import BurstLink.Proofs.Custody.Requests

/-! # The radio under custody

While operations wait, the radio makes steps and its interrupt is handled. Whoever holds the lock,
the station goes on looking as custody says; at rest a step brings a radio that is switching off
closer to being off, and changes nothing else.

Main statements: `Station.Custody.serviceRadio` and `Station.Custody.pump`. -/

namespace BurstLink

namespace Station

variable {delays tears : Prop} {s t : Station} {f : Flight}

/-! ## Steps at rest -/

/-- A radio at rest is off, on the way there, or has a carrier on air. -/
theorem AtRest.phase (h : s.AtRest delays tears) :
    s.radio.Off delays ∨ s.radio.phase = .txIdle := by
  cases h with
  | dark mode h =>
    have phase : s.radio.phase = .disabled := by rw [h.wiped]
    exact .inl (Radio.off_of_disabled phase)
  | standby h => exact .inl h.off
  | toning h => exact .inr h.phase
  | torn may h => exact .inl h.off
  | carrier h tuned => exact tuned.elim (fun on => .inr on.2.1) fun off => .inl off.2.1
  | gauge h off amplifiers => exact .inl off

/-- At rest nothing is in progress. -/
theorem AtRest.calm (h : s.AtRest delays tears) : s.Calm delays := by
  cases h with
  | dark mode h => exact h.calm
  | standby h => exact h.calm
  | toning h => exact h.calm
  | torn may h => exact h.calm
  | carrier h tuned => exact h.calm
  | gauge h off amplifiers => exact h.calm

/-- While the radio switches off, a step brings it closer to being off. -/
theorem serviceRadio_of_disabling {reads : Nat} (phase : s.radio.phase = .disabling reads)
    (interrupt : s.radio.interruptEnabled = false) :
    s.serviceRadio = { s with radio := s.radio.settle } := by
  have step : s.radio.service s.loaded = (s.radio.settle, none) := by
    simp [Radio.service, Radio.interruptPending, interrupt, Radio.step, phase]
  rw [serviceRadio_of_service step, store_none]

/-- Switching off with the link torn down. -/
theorem Torn.settled (h : s.Torn delays) : ({ s with radio := s.radio.settle } : Station).Torn
    delays := by
  have off := Radio.settle_off h.off
  obtain ⟨phase, pending, events, -, settled⟩ := s.radio.settle_settles
  rw [settled] at off ⊢
  exact ⟨⟨h.calm.1, h.calm.2, h.calm.3, h.calm.4, h.calm.5⟩, h.mode, h.uninitialized, h.noCarrier,
    h.powered, h.formatted, h.txPower, h.timer, off, h.receiverOff⟩

/-- A station at rest whose radio is switching off stays at rest. -/
theorem AtRest.settled (h : s.AtRest delays tears) {reads : Nat}
    (phase : s.radio.phase = .disabling reads) :
    ({ s with radio := s.radio.settle } : Station).AtRest delays tears := by
  cases h with
  | dark mode h =>
    have off : s.radio.phase = .disabled := by rw [h.wiped]
    exact absurd (phase.symm.trans off) (by simp)
  | standby h =>
    -- the radio may be coming to a stop still, and settles without a sound
    have off := Radio.settle_off h.off
    have programmed := h.programmed.kept s.radio.settle_settles.keeps
    obtain ⟨phase, pending, events, -, settled⟩ := s.radio.settle_settles
    rw [settled] at off programmed ⊢
    exact .standby ⟨⟨h.calm.1, h.calm.2, h.calm.3, h.calm.4, h.calm.5⟩, h.mode, h.initialized,
      h.noCarrier, programmed, h.shorts, off, h.amplifiers⟩
  | toning h => exact absurd (phase.symm.trans h.phase) (by simp)
  | torn may h => exact .torn may h.settled
  | carrier h tuned =>
    rcases tuned with ⟨-, tone, -⟩ | ⟨noCarrier, off, amplifiers⟩
    · exact absurd (phase.symm.trans tone) (by simp)
    · have off := Radio.settle_off off
      obtain ⟨phase, pending, events, -, settled⟩ := s.radio.settle_settles
      rw [settled] at off ⊢
      exact .carrier ⟨⟨h.calm.1, h.calm.2, h.calm.3, h.calm.4, h.calm.5⟩, h.mode, h.uninitialized,
        h.powered, h.unformatted, h.timer, h.bitrate, h.txPower, h.shorts⟩
        (.inr ⟨noCarrier, off, amplifiers⟩)
  | gauge h off amplifiers =>
    have off := Radio.settle_off off
    have pending := s.radio.settle_settles.pending_eq_none h.pending
    obtain ⟨phase, _, events, -, settled⟩ := s.radio.settle_settles
    rw [settled] at off pending ⊢
    exact .gauge ⟨⟨h.calm.1, h.calm.2, h.calm.3, h.calm.4, h.calm.5⟩, h.mode, h.uninitialized,
      h.noCarrier, h.powered, h.unformatted, h.timer, h.shorts, pending⟩ off amplifiers

/-- **A step of the radio leaves a station at rest.** -/
theorem AtRest.serviceRadio (h : s.AtRest delays tears) : s.serviceRadio.AtRest delays tears := by
  rcases h.phase with (off | ⟨-, reads, phase⟩) | tone
  · rw [serviceRadio_of_still (Radio.service_disabled off _)]
    exact h
  · rw [serviceRadio_of_disabling phase h.calm.interrupt]
    exact h.settled phase
  · rw [serviceRadio_of_still (Radio.service_txIdle tone _)]
    exact h

/-- A step of the radio leaves a torn link torn. -/
theorem Torn.serviceRadio (h : s.Torn delays) : s.serviceRadio.Torn delays := by
  rcases h.off with off | ⟨-, reads, phase⟩
  · rw [serviceRadio_of_still (Radio.service_disabled off _)]
    exact h
  · rw [serviceRadio_of_disabling phase h.calm.interrupt]
    exact h.settled

/-- The radio of nobody makes no step. -/
theorem Vacant.serviceRadio (h : s.Vacant delays) : s.serviceRadio = s := by
  have phase : s.radio.phase = .disabled := by rw [h.wiped]
  exact serviceRadio_of_still (Radio.service_disabled phase _)

/-- During a measurement a step brings the receiver up or takes a sample. -/
theorem Gauging.serviceRadio (h : s.Gauging delays) : s.serviceRadio.Gauging delays := by
  have quiet : s.radio.interruptPending = false := by
    simp [Radio.interruptPending, h.gauge.calm.interrupt]
  have starts : s.radio.shorts.contains .readyStart = true := by rw [h.gauge.shorts]; simp
  rcases h.phase with rising | receiving
  · have step : s.radio.service s.loaded = (s.radio.rampUp, none) := by
      simp [Radio.service, quiet, Radio.step, rising]
    rw [serviceRadio_of_service step, store_none, Radio.rampUp_eq starts]
    split
    · exact h
    · exact ⟨h.gauge.of_radio ⟨_, _, _, _, _, rfl⟩, .inr rfl, h.amplifiers⟩
  · have step : s.radio.service s.loaded = (s.radio.sampleAmbient, none) := by
      simp [Radio.service, quiet, Radio.step, receiving, h.gauge.pending]
    rw [serviceRadio_of_service step, store_none]
    unfold Radio.sampleAmbient
    split
    · exact ⟨h.gauge.of_radio ⟨_, _, _, _, _, rfl⟩, .inr receiving, h.amplifiers⟩
    · exact h

/-- A step of the radio does not touch the lock. -/
theorem serviceRadio_locked (s : Station) : s.serviceRadio.locked = s.locked := by
  obtain ⟨buffers, same⟩ := s.serviceRadio_eq
  rw [same]

/-- **A step of the radio keeps custody.** -/
theorem Custody.serviceRadio {holder : Option Activity} (h : s.Custody delays tears holder) :
    s.serviceRadio.Custody delays tears holder := by
  cases holder with
  | none => exact ⟨s.serviceRadio_locked.trans h.1, h.2.serviceRadio⟩
  | some activity =>
    obtain ⟨locked, held⟩ := h
    refine ⟨s.serviceRadio_locked.trans locked, ?_⟩
    cases activity with
    | queued request => exact held
    | sending f purpose => exact InFlight.serviceRadio held
    | switching t => exact Torn.serviceRadio held
    | measuring m => exact Gauging.serviceRadio held
    | listening l =>
      rw [held.1.serviceRadio]
      exact held
    | testing t => exact held

/-- Without an exchange in progress no interrupt is handled. -/
theorem pump_of_quiet (quiet : s.serviceRadio.radio.interruptPending = false) :
    s.pump.1 = s.serviceRadio := by
  unfold pump
  dsimp only
  split
  · rfl
  · rw [quiet]
    rfl

/-- The interrupt handler knows nothing of the lock. -/
theorem handleInterrupt_locked (s : Station) : s.handleInterrupt.locked = s.locked := by
  obtain ⟨_, _, _, _, _, _, _, _, _, -, same⟩ := s.handleInterrupt_eq
  rw [same]

/-- Neither does a step of the radio with its interrupt. -/
theorem pump_locked (s : Station) : s.pump.1.locked = s.locked := by
  unfold pump
  dsimp only
  split
  · exact s.serviceRadio_locked
  · split
    · exact s.serviceRadio.handleInterrupt_locked.trans s.serviceRadio_locked
    · exact s.serviceRadio_locked

/-- **A step of the radio and its interrupt keep custody.** -/
theorem Custody.pump {holder : Option Activity} (h : s.Custody delays tears holder) :
    s.pump.1.Custody delays tears holder := by
  have served := h.serviceRadio
  -- outside a send the interrupt is not enabled, so the pump is a step of the radio
  have calm : s.serviceRadio.Calm delays → s.pump.1 = s.serviceRadio := fun calm =>
    pump_of_quiet (by simp [Radio.interruptPending, calm.interrupt])
  cases holder with
  | none =>
    rw [calm served.2.calm]
    exact served
  | some activity =>
    cases activity with
    | queued request => exact absurd h.2 id
    | sending f purpose => exact ⟨s.pump_locked.trans h.1, InFlight.pump h.2⟩
    | switching t =>
      rw [calm (Torn.calm served.2)]
      exact served
    | measuring m =>
      rw [calm (GaugeMode.calm (Gauging.gauge served.2))]
      exact served
    | listening l =>
      rw [calm (Vacant.calm served.2.1)]
      exact served
    | testing t => exact absurd h.2 id

end Station

end BurstLink
