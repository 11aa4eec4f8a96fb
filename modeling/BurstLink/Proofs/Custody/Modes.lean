import BurstLink.Proofs.Custody.Flight

/-! # Modes under custody

Each mode gives the radio up without power, and the next one takes it from there. Only the link has
to wait in between.

Main statements: `Station.Vacant.enterMode`, `Station.AtRest.startSwitch`, and
`Station.Torn.checkSwitch`. -/

namespace BurstLink.Station

variable {delays tears : Prop} {s t : Station}

/-! ## Taking the radio -/

/-- The station with the link just brought up. -/
theorem bringUp_eq (s : Station) : s.bringUp = { s with
    radio := ((s.onRadio Radio.startTimer).programRadio s.link.config).radio
    transfer := {}
    completed := false
    frontEnd := s.frontEnd.map FrontEnd.prepare
    link := { s.link with initialized := true }
    journal := .linkUp s.link.config.channel :: s.journal } := rfl

/-- Switches of the front end other than those of the amplifiers leave the amplifiers as they are.
-/
theorem Amplifiers.map {pa lna : Bool} (h : s.Amplifiers pa lna) {g : FrontEnd → FrontEnd}
    (same : ∀ f, (g f).pa = f.pa ∧ (g f).lna = f.lna) :
    (s.onFrontEnd g).Amplifiers pa lna := by
  intro f found
  obtain ⟨f, before, rfl⟩ := Option.map_eq_some_iff.mp found
  rw [(same f).1, (same f).2]
  exact h f before

/-- The link takes a radio without power. -/
theorem Vacant.bringUp (h : s.Vacant delays) (mode : s.mode = .link) :
    s.bringUp.Standby delays := by
  have interrupt : s.radio.interruptEnabled = false := by rw [h.wiped]
  have phase : s.radio.phase = .disabled := by rw [h.wiped]
  rw [bringUp_eq, programRadio_eq]
  exact ⟨⟨interrupt, rfl, rfl, rfl, h.calm.prompt⟩, mode, rfl, h.noCarrier,
    ⟨rfl, rfl, rfl, rfl, rfl, Address.ofRegisters_base_pipePrefix .., rfl⟩, rfl,
    Radio.off_of_disabled phase, h.amplifiers.map fun _ => ⟨rfl, rfl⟩⟩

/-- The carrier mode takes a radio without power. -/
theorem Vacant.enterCarrierMode (h : s.Vacant delays) (mode : s.mode = .carrier) :
    s.enterCarrierMode.CarrierMode delays ∧ s.enterCarrierMode.Tuned delays := by
  have interrupt : s.radio.interruptEnabled = false := by rw [h.wiped]
  have phase : s.radio.phase = .disabled := by rw [h.wiped]
  have formatted : s.radio.packetConfigured = false := by rw [h.wiped]
  have shorts : s.radio.shorts = .none := by rw [h.wiped]
  exact ⟨⟨⟨interrupt, h.calm.routes, h.calm.transfer, h.calm.completed, h.calm.prompt⟩, mode,
    h.uninitialized, rfl, formatted, h.timer, rfl, rfl, shorts⟩,
    .inr ⟨h.noCarrier, Radio.off_of_disabled phase, h.amplifiers⟩⟩

/-- The power measurement mode takes a radio without power. -/
theorem Vacant.enterPowerMode (h : s.Vacant delays) (mode : s.mode = .powerMeasurement) :
    s.enterPowerMode.AtRest delays tears := by
  have interrupt : s.radio.interruptEnabled = false := by rw [h.wiped]
  have phase : s.radio.phase = .disabled := by rw [h.wiped]
  have formatted : s.radio.packetConfigured = false := by rw [h.wiped]
  have pending : s.radio.pending = none := by rw [h.wiped]
  exact .gauge ⟨⟨interrupt, h.calm.routes, h.calm.transfer, h.calm.completed, h.calm.prompt⟩, mode,
    h.uninitialized, h.noCarrier, rfl, formatted, h.timer, rfl, pending⟩
    (Radio.off_of_disabled phase) h.amplifiers

/-- **Every mode takes a radio without power and leaves the station at rest.** -/
theorem Vacant.enterMode (h : s.Vacant delays) (target : Mode) :
    (s.enterMode target).AtRest delays tears := by
  have named : ({ s with mode := target } : Station).Vacant delays :=
    ⟨⟨h.calm.interrupt, h.calm.routes, h.calm.transfer, h.calm.completed, h.calm.prompt⟩,
      h.uninitialized, h.noCarrier, h.wiped, h.timer, h.amplifiers⟩
  cases target with
  | disabled => exact .dark (.inl rfl) named
  | link => exact .standby (named.bringUp rfl)
  | presenceScan => exact .dark (.inr rfl) named
  | carrier =>
    obtain ⟨mode, tuned⟩ := named.enterCarrierMode rfl
    exact .carrier mode tuned
  | powerMeasurement => exact named.enterPowerMode rfl

/-! ## Giving the radio up -/

/-- A radio that stands by can be told to switch off. -/
theorem prompt_of_off (prompt : delays ∨ s.radio.air.disableLatency = 0)
    (off : s.radio.Off delays) : s.radio.Prompt delays := by
  rcases prompt with hd | zero
  · exact .inl hd
  · rcases off with off | ⟨hd, -⟩
    · exact .inr ⟨zero, fun reads h => absurd (off.symm.trans h) (by simp)⟩
    · exact .inl hd

/-- A radio that is on can be told to switch off. -/
theorem prompt_of_phase (prompt : delays ∨ s.radio.air.disableLatency = 0)
    (never : ∀ reads, s.radio.phase ≠ .disabling reads) : s.radio.Prompt delays :=
  prompt.imp_right fun zero => ⟨zero, never⟩

/-- The carrier goes off air: the radio is off or on the way there, and so are the amplifiers. -/
theorem stopTone_eq (s : Station) : ∃ journal, s.stopTone =
    { s with
      radio := s.radio.forceOff
      journal := journal
      frontEnd := s.frontEnd.map (FrontEnd.setPa false) } := by
  exact ⟨_, by rw [stopTone, s.disableRadio_eq]; rfl⟩

/-- The carrier mode gives the radio up. -/
theorem CarrierMode.exit (h : s.CarrierMode delays) (tuned : s.Tuned delays) :
    s.exitCarrierMode.Vacant delays := by
  unfold exitCarrierMode
  rcases tuned with ⟨on, -, amplifiers⟩ | ⟨off, -, amplifiers⟩
  · obtain ⟨journal, same⟩ := s.stopTone_eq
    obtain ⟨phase, pending, events, -, settled⟩ := s.radio.forceOff_settles
    rw [if_pos on, same, settled]
    exact ⟨⟨rfl, h.calm.routes, h.calm.transfer, h.calm.completed, h.calm.prompt⟩,
      h.uninitialized, rfl, rfl, h.timer, amplifiers.setPa false⟩
  · rw [if_neg (by simp [off])]
    exact ⟨⟨rfl, h.calm.routes, h.calm.transfer, h.calm.completed, h.calm.prompt⟩,
      h.uninitialized, off, rfl, h.timer, amplifiers⟩

/-- The power measurement mode gives the radio up. -/
theorem GaugeMode.exit (h : s.GaugeMode delays) (amplifiers : s.Amplifiers false false) :
    s.exitPowerMode.Vacant delays := by
  obtain ⟨phase, pending, events, -, settled⟩ := s.radio.trigger_disable_settles
  unfold exitPowerMode onRadio
  dsimp only
  rw [settled]
  exact ⟨⟨rfl, h.calm.routes, h.calm.transfer, h.calm.completed, h.calm.prompt⟩,
    h.uninitialized, h.noCarrier, rfl, h.timer, amplifiers⟩

/-- The link gives the radio up. -/
theorem Torn.exit (h : s.Torn delays) : s.finishTeardown.Vacant delays :=
  ⟨⟨rfl, rfl, h.calm.transfer, rfl, h.calm.prompt⟩, h.uninitialized, h.noCarrier, rfl, rfl,
    amplifiers_off _⟩

/-- The link stops, from whatever it did at rest. -/
theorem beginTeardown_torn (calm : s.Calm delays) (mode : s.mode = .link)
    (powered : s.radio.powered = true) (formatted : s.radio.packetConfigured = true)
    (txPower : s.radio.txPower = .zeroDbm) (timer : s.radio.timerRunning = true)
    (prompt : s.radio.Prompt delays) (receiverOff : ∀ f ∈ s.frontEnd, f.lna = false) :
    s.beginTeardown.Torn delays := by
  have off : ((s.radio.setInterrupt false).trigger .disable).Off delays :=
    Radio.trigger_disable_off powered prompt
  obtain ⟨phase, pending, events, -, settled⟩ :=
    (s.radio.setInterrupt false).trigger_disable_settles
  unfold beginTeardown onLink onRadio
  dsimp only
  rw [settled] at off ⊢
  exact ⟨⟨rfl, calm.routes, calm.transfer, calm.completed, calm.prompt⟩, mode, rfl, rfl, powered,
    formatted, txPower, timer, off, receiverOff⟩

/-- From standby the link is left torn until the radio has had its time to stop. -/
theorem Standby.beginTeardown (h : s.Standby delays) : s.beginTeardown.Torn delays :=
  beginTeardown_torn h.calm h.mode h.programmed.powered h.programmed.formatted h.programmed.txPower
    h.programmed.timer (prompt_of_off h.calm.prompt h.off) fun f found => (h.amplifiers f found).2

/-- So it is while its carrier is on air: the tone ends with the radio. -/
theorem Toning.beginTeardown (h : s.Toning delays) : s.beginTeardown.Torn delays :=
  beginTeardown_torn h.calm h.mode h.programmed.powered h.programmed.formatted h.programmed.txPower
    h.programmed.timer (prompt_of_phase h.calm.prompt (by simp [h.phase]))
    fun f found => (h.amplifiers f found).2

/-- A link that was torn before is torn anew. -/
theorem Torn.beginTeardown (h : s.Torn delays) : s.beginTeardown.Torn delays :=
  beginTeardown_torn h.calm h.mode h.powered h.formatted h.txPower h.timer
    (prompt_of_off h.calm.prompt h.off) h.receiverOff

/-! ## Switching -/

/-- A station that has no owner in use is vacant. -/
theorem AtRest.vacant_of_mode (h : s.AtRest delays tears)
    (unowned : s.mode = .disabled ∨ s.mode = .presenceScan) : s.Vacant delays := by
  cases h with
  | dark mode h => exact h
  | standby h => simp [h.mode] at unowned
  | toning h => simp [h.mode] at unowned
  | torn may h => simp [h.mode] at unowned
  | carrier h tuned => simp [h.mode] at unowned
  | gauge h off amplifiers => simp [h.mode] at unowned

/-- In the link's mode the link is up, or was about to be taken down; told to stop it is torn. -/
theorem AtRest.beginTeardown (h : s.AtRest delays tears) (mode : s.mode = .link) :
    s.beginTeardown.Torn delays := by
  cases h with
  | dark unowned h => simp [mode] at unowned
  | standby h => exact h.beginTeardown
  | toning h => exact h.beginTeardown
  | torn may h => exact h.beginTeardown
  | carrier h tuned => simp [h.mode] at mode
  | gauge h off amplifiers => simp [h.mode] at mode

/-- Carrier mode is left to nobody, whether or not the carrier is on. -/
theorem AtRest.exitCarrierMode (h : s.AtRest delays tears) (mode : s.mode = .carrier) :
    s.exitCarrierMode.Vacant delays := by
  cases h with
  | dark unowned h => simp [mode] at unowned
  | standby h => simp [h.mode] at mode
  | toning h => simp [h.mode] at mode
  | torn may h => simp [h.mode] at mode
  | carrier h tuned => exact h.exit tuned
  | gauge h off amplifiers => simp [h.mode] at mode

/-- In the power measurement mode, at rest, that mode owns the radio. -/
theorem AtRest.gauge_of_mode (h : s.AtRest delays tears) (mode : s.mode = .powerMeasurement) :
    s.GaugeMode delays ∧ s.radio.Off delays ∧ s.Amplifiers false false := by
  cases h with
  | dark unowned h => simp [mode] at unowned
  | standby h => simp [h.mode] at mode
  | toning h => simp [h.mode] at mode
  | torn may h => simp [h.mode] at mode
  | carrier h tuned => simp [h.mode] at mode
  | gauge h off amplifiers => exact ⟨h, off, amplifiers⟩

/-- **A switch from a station at rest leaves it at rest, or waits for the link to stop.** -/
theorem AtRest.startSwitch (h : s.AtRest delays tears) (target : Mode) :
    Leaves delays tears (ofSwitch (s.startSwitch target)) := by
  unfold Leaves ofSwitch asProgress
  rw [Look.meets_map]
  unfold Station.startSwitch
  split
  · exact h
  have noted := (note_agree (.modeChange s.mode target) s).atRest h
  have mode : (s.note (.modeChange s.mode target)).mode = s.mode := rfl
  generalize s.note (.modeChange s.mode target) = s' at noted mode
  dsimp only
  split
  · rename_i current
    exact (noted.vacant_of_mode (.inl current)).enterMode target
  · rename_i current
    exact noted.beginTeardown current
  · rename_i current
    exact (noted.vacant_of_mode (.inr current)).enterMode target
  · rename_i current
    exact (noted.exitCarrierMode current).enterMode target
  · rename_i current
    obtain ⟨gauge, -, amplifiers⟩ := noted.gauge_of_mode current
    exact (gauge.exit amplifiers).enterMode target

/-- **A switch that waits for the link to stop goes on waiting, or leaves the station at rest.** -/
theorem Torn.checkSwitch (h : s.Torn delays) (t : Teardown) :
    Leaves delays tears (ofSwitch (s.checkSwitch t)) := by
  unfold Leaves ofSwitch asProgress
  rw [Look.meets_map]
  unfold Station.checkSwitch
  split
  · exact h.exit.enterMode t.target
  · exact h

end BurstLink.Station
