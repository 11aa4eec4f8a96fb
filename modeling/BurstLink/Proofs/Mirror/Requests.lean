import BurstLink.Proofs.Mirror.Reflection
import BurstLink.Proofs.Packets.Access

/-! # Every request in the reflection

While nobody holds the lock, a link that is up shows in the registers. An operation that holds it
may have the registers arranged for a packet, or have taken the link down, and it puts things right
before it gives the lock back.

Main definitions:

* **`Reflection.Faithful`** — the registers show the link, if it is up.
* **`Reflection.Standby`**, **`Reflection.Sending`** — the link is up, with nothing or with a packet
  to send.
* **`Station.Reflects`** — what shows while the given activity holds the lock.

Main statements: `Reflection.Faithful.start`, `Station.Reflects.poll` and `Station.Reflects.drop`.
-/

namespace BurstLink

/-! ## What shows -/

namespace Reflection

/-- The registers show the link, if it is up. -/
structure Faithful (v : Reflection) : Prop where
  mode : v.initialized = true → v.mode = .link
  holds : v.initialized = true → v.program.Holds v.config
  shorts : v.initialized = true → v.carrier = false → v.program.shorts = .rssi

/-- The link is up with the given configuration, and no carrier is on air. -/
structure Up (c : LinkConfig) (v : Reflection) : Prop where
  mode : v.mode = .link
  initialized : v.initialized = true
  noCarrier : v.carrier = false
  config : v.config = c
  holds : v.program.Holds c

/-- The link is up, and there is nothing to send. -/
structure Standby (c : LinkConfig) (v : Reflection) : Prop extends Up c v where
  shorts : v.program.shorts = .rssi

/-- The link is up, and may have shortcuts for a packet. -/
structure Sending (c : LinkConfig) (v : Reflection) : Prop extends Up c v where
  shorts : v.program.shorts.difference .txThenRx = .rssi

variable {v : Reflection} {c : LinkConfig}

/-- A link that is not up need not show. -/
theorem faithful_of_down (down : v.initialized = false) : v.Faithful := by
  refine ⟨?_, ?_, ?_⟩ <;> intro up <;> exact absurd (up.symm.trans down) (by simp)

/-- A link on standby is reflected faithfully. -/
theorem Standby.faithful (h : v.Standby c) : v.Faithful where
  mode _ := h.mode
  holds _ := by rw [h.config]; exact h.holds
  shorts _ _ := h.shorts

/-- A link that is ready for a send is on standby. -/
theorem Faithful.standby (h : v.Faithful) (up : v.initialized = true)
    (noCarrier : v.carrier = false) : v.Standby v.config :=
  ⟨⟨h.mode up, up, noCarrier, rfl, h.holds up⟩, h.shorts up noCarrier⟩

/-- Outside its mode the link is not up. -/
theorem Faithful.down_of_mode (h : v.Faithful) (other : v.mode ≠ .link) :
    v.initialized = false := by
  cases up : v.initialized with
  | false => rfl
  | true => exact absurd (h.mode up) other

end Reflection

namespace Station

variable {s t : Station} {f : Flight}

/-- What shows while an activity holds the lock. -/
def Reflects (activity : Activity) (s : Station) : Prop :=
  match activity with
  | .sending f _ => s.reflection.Sending f.config
  | .switching _ => s.reflection.initialized = false
  | .measuring _ => s.reflection.initialized = false
  | .listening _ => s.reflection.initialized = false
  | .queued _ => False
  | .testing _ => False

/-- What a look leaves: something that holds the lock, or a link that shows if it is up. -/
def Restores (found : Station × Progress) : Prop :=
  found.2.Meets (fun activity => found.1.Reflects activity) fun _ => found.1.reflection.Faithful

/-! ## Sends -/

/-- The start of an exchange arranges the shortcuts for the packet. -/
theorem sending_fly (h : s.reflection.Standby f.config) :
    (s.fly f).1.reflection.Sending f.config := by
  have armed : ((s.armed f.packet f.config.ackEnabled).trigger .txEnable).program =
      { s.radio.program with
        shorts := s.radio.shorts.union (if f.config.ackEnabled then .txThenRx else .txOnce) } := by
    rw [Radio.program_trigger, armed_eq]
    rfl
  have shorts : s.radio.shorts = .rssi := h.shorts
  have flown : (s.fly f).1.reflection = { s.reflection with
      program := { s.radio.program with shorts := .exchange f.config.ackEnabled } } := by
    rw [shorts] at armed
    rw [fly, startExchange_eq]
    exact congrArg (Reflection.mk s.mode s.link.config s.link.initialized s.link.carrier) armed
  rw [flown]
  exact ⟨⟨h.mode, h.initialized, h.noCarrier, h.config, h.holds.withShorts _⟩,
    Shorts.exchange_difference_txThenRx _⟩

/-- A send that takes off. -/
theorem sending_takeOff {c : LinkConfig} (h : s.reflection.Standby c) (packet ack : Buffer) :
    (s.takeOff packet ack).1.reflection.Sending (s.takeOff packet ack).2.config := by
  have config : s.link.config = c := h.config
  subst config
  have stamped : (s.stamped packet).reflection.Standby (s.takingOff packet ack).config := h
  rw [takeOff_eq]
  exact sending_fly stamped

/-- A complete exchange takes its shortcuts away. -/
theorem standby_finishExchange {c : LinkConfig} (h : s.reflection.Sending c) :
    s.finishExchange.reflection.Standby c :=
  ⟨⟨h.mode, h.initialized, h.noCarrier, h.config, h.holds.withShorts _⟩, h.shorts⟩

/-- **Brought to rest, the link is on standby**, whether the radio switched off in time or had to be
power cycled. -/
theorem standby_forceIdle {c : LinkConfig} (h : s.reflection.Sending c) :
    (s.forceIdle c).reflection.Standby c := by
  have disarmed : s.disarm.reflection.Standby c :=
    ⟨⟨h.mode, h.initialized, h.noCarrier, h.config, h.holds.withShorts _⟩, h.shorts⟩
  rw [← reflection_disableRadio] at disarmed
  rw [forceIdle_eq_recover]
  unfold recover
  generalize s.disarm.disableRadio = found at disarmed
  dsimp only
  split
  · exact disarmed
  · have cycled := reflection_programRadio c
      ((found.1.note .powerCycle).onRadio (Radio.setPower false))
    have shows : (((found.1.note .powerCycle).onRadio (Radio.setPower false)).programRadio
        c).reflection.Standby c := by
      rw [cycled]
      exact ⟨⟨disarmed.mode, disarmed.initialized, disarmed.noCarrier, disarmed.config,
        c.holds_program⟩, rfl⟩
    exact shows

/-- A send that is looked at goes on, or is over with the link on standby. -/
theorem sending_checkFlight (h : s.reflection.Sending f.config) :
    (s.checkFlight f).2.Meets (fun f' => (s.checkFlight f).1.reflection.Sending f'.config)
      fun _ => (s.checkFlight f).1.reflection.Standby f.config := by
  unfold checkFlight
  split
  · have finished := standby_finishExchange h
    generalize s.finishExchange = t at finished
    have landed : ∀ acked, (t.land f acked).1.reflection.Standby f.config := by
      intro acked
      rw [(land_agree f acked t).reflection]
      exact finished
    dsimp only
    split
    · exact landed true
    · split
      · have noted : (t.note (.retry (f.retries + 1) f.pid)).reflection.Standby f.config := finished
        exact sending_fly (f := { f with retries := f.retries + 1 }) noted
      · exact landed false
  · split
    · exact standby_forceIdle (s := s.note .exchangeStuck) h
    · exact h

/-- What the start of a send leaves: the reflection as it was, or a send. -/
def Launches (s : Station) : Station × Launch → Prop
  | (t, .refused _) => t.reflection = s.reflection
  | (t, .lost) => t.reflection = s.reflection
  | (t, .flying f) => t.reflection.Sending f.config

/-- **A send starts from a faithful reflection**, and leaves it as it is unless it goes on air. -/
theorem launches (h : s.reflection.Faithful) (packet ack : Buffer) :
    s.Launches (s.launch packet ack) := by
  unfold launch
  split
  · exact rfl
  · rename_i ready
    obtain ⟨up, noCarrier⟩ := s.ready_eq_ok_iff.mp ready
    have standby := h.standby up noCarrier
    dsimp only
    split
    · exact rfl
    · have drawn := (s.drawLoss_agree s.link.config.packetLossPercent).reflection
      split
      · rename_i t draw
        rw [draw] at drawn
        exact drawn
      · rename_i t draw
        rw [draw] at drawn
        rw [← drawn] at standby
        exact sending_takeOff standby packet ack

/-- The link moves to a channel, and the registers with it. -/
theorem faithful_tune (h : s.reflection.Faithful) (up : s.link.initialized = true)
    (channel : UInt8) : (s.tune channel).reflection.Faithful where
  mode := h.mode
  holds _ :=
    have holds := h.holds up
    ⟨holds.powered, holds.formatted, holds.txPower, rfl, holds.bitrate, holds.address⟩
  shorts := h.shorts

/-- What a part of a scan leaves: a send, or the link up with its registers. -/
def Scans (found : Station × ScanLook) : Prop :=
  found.2.Meets (fun rest => found.1.reflection.Sending rest.1.config)
    fun _ => found.1.reflection.Faithful

/-- A scan that goes on. The induction is on the channels that are left. -/
theorem scans_scanOn (h : s.reflection.Faithful) (up : s.link.initialized = true)
    (packet ack : Buffer) (first last : UInt8) (hits left : List UInt8) :
    Scans (s.scanOn packet ack first last hits left) := by
  induction left generalizing s with
  | nil => exact h
  | cons channel left ih =>
    have tuned := faithful_tune h up channel
    have launched := launches tuned packet ack
    unfold scanOn
    split
    · rename_i t failure found
      rw [found] at launched
      have same : t.reflection = (s.tune channel).reflection := launched
      show t.reflection.Faithful
      rw [same]
      exact tuned
    · rename_i t found
      rw [found] at launched
      have same : t.reflection = (s.tune channel).reflection := launched
      refine ih (same ▸ tuned) ?_
      exact (congrArg Reflection.initialized same).trans up
    · rename_i t f found
      rw [found] at launched
      exact launched

/-- A scan that scores a channel. -/
theorem scans_scoreScan {c : LinkConfig} (h : s.reflection.Standby c) (scan : ChannelScan)
    (result : Except Failure Outcome) : Scans (s.scoreScan f scan result) := by
  have goOn : ∀ hits,
      Scans (s.scanOn f.packet f.ack scan.first scan.last hits scan.left) := fun hits =>
    scans_scanOn h.faithful h.initialized ..
  unfold scoreScan
  split
  · split
    · dsimp only
      split
      · exact h.faithful
      · exact goOn _
    · exact goOn _
  · exact goOn _
  · exact h.faithful

/-- A scan as an operation. -/
theorem restores_ofScan {found : Station × ScanLook} (h : Scans found) :
    Restores (ofScan found) := by
  unfold Restores ofScan asProgress
  rw [Look.meets_map]
  exact h

/-- An operation that sends. -/
theorem restores_checkSend (h : s.reflection.Sending f.config) (purpose : Purpose) :
    Restores (s.checkSend f purpose) := by
  have checked := sending_checkFlight h
  unfold checkSend
  split
  · rename_i t f' found
    rw [found] at checked
    exact checked
  · rename_i t result found
    rw [found] at checked
    have standby : t.reflection.Standby f.config := checked
    cases purpose with
    | single withAck => exact standby.faithful
    | scan scan => exact restores_ofScan (scans_scoreScan standby scan result)

/-- A send of its own leaves a faithful reflection. -/
theorem restores_startSend (h : s.reflection.Faithful) (packet ack : Buffer) (withAck : Bool) :
    Restores (s.startSend packet ack withAck) := by
  have launched := launches h packet ack
  unfold startSend
  split
  · rename_i t failure found
    rw [found] at launched
    have same : t.reflection = s.reflection := launched
    show t.reflection.Faithful
    rw [same]
    exact h
  · rename_i t found
    rw [found] at launched
    have same : t.reflection = s.reflection := launched
    show t.reflection.Faithful
    rw [same]
    exact h
  · rename_i t f found
    rw [found] at launched
    exact launched

/-- So does the start of a channel scan. -/
theorem restores_startScan (h : s.reflection.Faithful) (first last : UInt8)
    (payload : List UInt8) : Restores (ofScan (s.startScan first last payload)) := by
  refine restores_ofScan ?_
  unfold startScan
  split
  · exact h
  · rename_i ready
    have added : ({ s with buffers :=
        ((s.buffers.add (.ofPayload (.truncate payload))).1.add .empty).1 } :
          Station).reflection.Faithful := h
    exact scans_scanOn added (s.ready_eq_ok_iff.mp ready).1 ..

/-! ## Settings and carriers -/

/-- **A configuration that is stored reaches the registers of a link that is up.** -/
theorem faithful_storeConfig (h : s.reflection.Faithful) (config : LinkConfig) :
    (s.storeConfig config).reflection.Faithful := by
  unfold storeConfig
  dsimp only
  split
  · rename_i up
    have holds := h.holds up
    exact ⟨h.mode, fun _ => ⟨holds.powered, holds.formatted, holds.txPower, rfl, rfl,
      Address.ofRegisters_base_pipePrefix ..⟩, h.shorts⟩
  · rename_i down
    have down : s.link.initialized = false := Bool.eq_false_iff.mpr down
    exact Reflection.faithful_of_down down

/-- A carrier has no shortcuts. -/
theorem reflection_startTone (s : Station) : s.startTone.reflection =
    { s.reflection with program := { s.radio.program with shorts := .none } } :=
  reflection_onRadio (s := (s.onRadio (Radio.setShorts .none)).setPa true)
    (Radio.program_trigger .txEnable _)

/-- Taking the carrier off air does not touch what is mirrored. -/
theorem reflection_stopTone (s : Station) : s.stopTone.reflection = s.reflection :=
  s.reflection_disableRadio

/-- A carrier toggle takes the shortcuts away with the carrier on, and restores them with it off. -/
theorem faithful_toggleCarrier (h : s.reflection.Faithful) (on : Bool) :
    (s.toggleCarrier on).1.reflection.Faithful := by
  unfold toggleCarrier
  split
  · exact h
  rename_i down
  have up : s.link.initialized = true := by simpa using down
  split
  · exact h
  -- of the program only the shortcuts differ, and they are those of the link unless the carrier is
  -- on
  · have shows : ∀ shorts carrier, (carrier = false → shorts = .rssi) →
        ({ s.reflection with
          carrier := carrier
          program := { s.radio.program with shorts := shorts } } : Reflection).Faithful :=
      fun shorts carrier quiet =>
        ⟨h.mode, fun _ => (h.holds up).withShorts shorts, fun _ => quiet⟩
    split
    · have toned : ((s.startTone.note (.carrierOn s.link.config.channel)).setCarrierFlag
          true).reflection = { s.reflection with
            carrier := true
            program := { s.radio.program with shorts := .none } } :=
        congrArg (fun v : Reflection => { v with carrier := true }) s.reflection_startTone
      show ((s.startTone.note _).setCarrierFlag true).reflection.Faithful
      rw [toned]
      exact shows _ _ (by simp)
    · have quiet : (((s.stopTone.onRadio (Radio.setShorts .rssi)).note .carrierOff).setCarrierFlag
          false).reflection = { s.reflection with
            carrier := false
            program := { s.radio.program with shorts := .rssi } } :=
        congrArg (fun v : Reflection => { v with
          carrier := false
          program := { v.program with shorts := .rssi } }) s.reflection_stopTone
      show (((s.stopTone.onRadio _).note _).setCarrierFlag false).reflection.Faithful
      rw [quiet]
      exact shows _ _ fun _ => rfl

/-- Taking the carrier off air leaves the link up or down, as it was. -/
theorem initialized_stopTone (s : Station) : s.stopTone.link.initialized = s.link.initialized :=
  congrArg Reflection.initialized s.reflection_stopTone

/-- In the carrier mode the link is not up, so its carrier need not show. -/
theorem faithful_startCarrier (h : s.reflection.Faithful) (channel : UInt8) :
    (s.startCarrier channel).1.reflection.Faithful := by
  unfold startCarrier
  split
  · rename_i mode
    have down : s.link.initialized = false := h.down_of_mode (by simp [reflection, mode])
    refine Reflection.faithful_of_down ?_
    show (ite _ _ _ : Station).link.initialized = false
    split
    · exact s.initialized_stopTone.trans down
    · exact down
  · exact h

/-- The carrier mode takes the carrier off air without touching the mirror. -/
theorem faithful_stopCarrier (h : s.reflection.Faithful) :
    s.stopCarrier.1.reflection.Faithful := by
  unfold stopCarrier
  split
  · dsimp only
    split
    · rename_i mode on
      have down : s.link.initialized = false := h.down_of_mode (by simp [reflection, mode])
      exact Reflection.faithful_of_down (s.initialized_stopTone.trans down)
    · exact h
  · exact h

/-! ## Modes -/

/-- **Every mode leaves the link down or in the registers** when it takes the radio. -/
theorem faithful_enterMode (down : s.link.initialized = false) (target : Mode) :
    (s.enterMode target).reflection.Faithful := by
  cases target with
  | link =>
    have programmed := reflection_programRadio s.link.config
      (({ s with mode := .link } : Station).onRadio Radio.startTimer)
    have up : (s.enterMode .link).reflection = { s.reflection with
        mode := .link
        initialized := true
        program := s.link.config.program } :=
      congrArg (fun v : Reflection => { v with initialized := true }) programmed
    rw [up]
    exact ⟨fun _ => rfl, fun _ => s.link.config.holds_program, fun _ _ => rfl⟩
  | _ => exact Reflection.faithful_of_down down

/-- What a mode switch leaves. -/
theorem restores_ofSwitch {found : Station × Look Teardown Unit}
    (h : found.2.Meets (fun _ => found.1.link.initialized = false)
      fun _ => found.1.reflection.Faithful) : Restores (ofSwitch found) := by
  unfold Restores ofSwitch asProgress
  rw [Look.meets_map]
  exact h

/-- Leaving the carrier mode leaves the link up or down, as it was. -/
theorem initialized_exitCarrierMode (s : Station) :
    s.exitCarrierMode.link.initialized = s.link.initialized := by
  unfold exitCarrierMode
  show (ite _ _ _ : Station).link.initialized = _
  split
  · exact s.initialized_stopTone
  · rfl

/-- A switch waits with the link down, or leaves it down or in the registers. -/
theorem restores_startSwitch (h : s.reflection.Faithful) (target : Mode) :
    Restores (ofSwitch (s.startSwitch target)) := by
  refine restores_ofSwitch ?_
  have down : s.mode ≠ .link → s.link.initialized = false := h.down_of_mode
  unfold startSwitch
  split
  · exact h
  · dsimp only
    split
    · rename_i mode
      have mode : s.mode = .disabled := mode
      exact faithful_enterMode (s := s.note _) (down (by simp [mode])) target
    · exact rfl
    · rename_i mode
      have mode : s.mode = .presenceScan := mode
      exact faithful_enterMode (s := s.note _) (down (by simp [mode])) target
    · rename_i mode
      have mode : s.mode = .carrier := mode
      refine faithful_enterMode ?_ target
      exact (initialized_exitCarrierMode _).trans (down (by simp [mode]))
    · rename_i mode
      have mode : s.mode = .powerMeasurement := mode
      exact faithful_enterMode (s := (s.note _).exitPowerMode) (down (by simp [mode])) target

/-- The rest of a mode switch brings the link up anew or leaves it down. -/
theorem restores_checkSwitch (down : s.link.initialized = false) (t : Teardown) :
    Restores (ofSwitch (s.checkSwitch t)) := by
  refine restores_ofSwitch ?_
  unfold checkSwitch
  split
  · exact faithful_enterMode (s := s.finishTeardown) down t.target
  · exact down

/-! ## Measurements and presence scans -/

/-- What goes on without the link leaves it down. -/
theorem restores_of_down {ω α : Type} {activity : ω → Activity} {result : α → Result}
    {found : Station × Look ω α} (down : found.1.link.initialized = false)
    (unlinked : ∀ rest (s : Station), s.Reflects (activity rest) ↔ s.link.initialized = false) :
    Restores (asProgress activity result found) := by
  obtain ⟨t, rest | answer⟩ := found
  · exact (unlinked rest t).mpr down
  · exact Reflection.faithful_of_down down

/-- The end of a measurement leaves the link up or down, as it was. -/
theorem initialized_endMeasurement (s : Station) :
    s.endMeasurement.link.initialized = s.link.initialized :=
  congrArg Reflection.initialized s.reflection_disableRadio

/-- So does the wait for a sample. -/
theorem initialized_awaitSample (channel : UInt8) (looks : Nat) (s : Station) :
    (s.awaitSample channel looks).1.link.initialized = s.link.initialized := by
  cases looks with
  | zero => exact initialized_endMeasurement (s.note _)
  | succ looks =>
    unfold awaitSample
    dsimp only
    split
    · exact initialized_endMeasurement _
    · rfl

/-- So does the wait for the receiver. -/
theorem initialized_awaitReceiver (channel : UInt8) (looks : Nat) (s : Station) :
    (s.awaitReceiver channel looks).1.link.initialized = s.link.initialized := by
  cases looks with
  | zero => exact initialized_endMeasurement (s.note _)
  | succ looks =>
    unfold awaitReceiver
    dsimp only
    split
    · exact initialized_awaitSample ..
    · rfl

/-- A look at a measurement does: it takes place while the link is down. -/
theorem restores_checkMeasurement (down : s.link.initialized = false) (m : Measurement) :
    Restores (ofMeasurement (s.checkMeasurement m)) := by
  refine restores_of_down ?_ fun _ _ => .rfl
  unfold checkMeasurement
  split
  · split
    · exact (initialized_awaitReceiver ..).trans down
    · exact (initialized_awaitSample ..).trans down
  · exact down

/-- The start of a measurement does: outside its mode it is refused. -/
theorem restores_startMeasurement (h : s.reflection.Faithful) (channel : UInt8) :
    Restores (ofMeasurement (s.startMeasurement channel)) := by
  unfold startMeasurement
  split
  · rename_i mode
    have down : s.link.initialized = false := h.down_of_mode (by simp [reflection, mode])
    exact restores_of_down ((initialized_awaitReceiver ..).trans down) fun _ _ => .rfl
  · exact h

/-- Collecting reports leaves the link up or down, as it was. -/
theorem initialized_collect (l : Listening) (s : Station) :
    (s.collect l).1.link.initialized = s.link.initialized :=
  congrArg Reflection.initialized (s.collect_agree l).reflection

/-- A look at a presence scan does: it takes place while the link is down. -/
theorem restores_checkListening (down : s.link.initialized = false) (l : Listening) :
    Restores (ofListening (s.checkListening l)) := by
  refine restores_of_down ?_ fun _ _ => .rfl
  unfold checkListening
  split
  · split <;> exact down
  · exact (initialized_collect ..).trans down

/-- The start of a presence scan does: outside its mode it is refused. -/
theorem restores_startListening (h : s.reflection.Faithful) (scanner : Handle Scanner)
    (channel : UInt8) (window : Nat) :
    Restores (ofListening (s.startListening scanner channel window)) := by
  unfold startListening
  split
  · rename_i mode
    have down : s.link.initialized = false := h.down_of_mode (by simp [reflection, mode])
    refine restores_of_down ?_ fun _ _ => .rfl
    refine (initialized_collect ..).trans ?_
    exact (congrArg Reflection.initialized (reports_agree scanner _ _).reflection).trans down
  · exact h

/-! ## Starting, looking and giving up -/

/-- **An operation that starts restores the reflection.** -/
theorem restores_start (h : s.reflection.Faithful) {request : Request}
    (needs : request.needsLock = true) : Restores (s.start request) := by
  cases request with
  | switchMode mode => exact restores_startSwitch h mode
  | switchModeNamed name =>
    unfold start
    dsimp only
    split
    · exact restores_startSwitch h _
    · exact h
  | readConfig => exact h
  | configure config => exact faithful_storeConfig h config
  | change change => exact faithful_storeConfig h _
  | setPowerLevel level => exact h
  | send packet ack => exact restores_startSend h packet ack false
  | sendPayload bytes =>
    have added : ({ s with buffers :=
        ((s.buffers.add (.ofPayload (.truncate bytes))).1.add .empty).1 } :
          Station).reflection.Faithful := h
    exact restores_startSend added _ _ true
  | scanChannels first last bytes => exact restores_startScan h first last bytes
  | toggleCarrier on => exact faithful_toggleCarrier h on
  | startCarrier channel => exact faithful_startCarrier h channel
  | stopCarrier => exact faithful_stopCarrier h
  | measureRssi channel => exact restores_startMeasurement h channel
  | scanPresence scanner channel window => exact restores_startListening h scanner channel window
  | testAmplifiers => exact absurd needs (by simp [Request.needsLock])

/-- What shows while the given activity holds the lock, or nobody does. -/
def Mirrored (holder : Option Activity) (s : Station) : Prop :=
  match holder with
  | none => s.locked = false ∧ s.reflection.Faithful
  | some activity => s.locked = true ∧ s.Reflects activity

/-- An activity that the reflection knows of holds the lock. -/
theorem Reflects.holdsLock {activity : Activity} (h : s.Reflects activity) :
    activity.holdsLock = true := by
  cases activity with
  | queued => exact absurd h id
  | testing => exact absurd h id
  | _ => rfl

/-- Only the reflection and the lock matter. -/
theorem Mirrored.of_eq {holder : Option Activity} (h : s.Mirrored holder)
    (reflection : t.reflection = s.reflection) (locked : t.locked = s.locked) :
    t.Mirrored holder := by
  cases holder with
  | none => exact ⟨locked.trans h.1, reflection ▸ h.2⟩
  | some activity =>
    refine ⟨locked.trans h.1, ?_⟩
    have shown : s.Reflects activity := h.2
    cases activity with
    | sending f purpose =>
      show t.reflection.Sending f.config
      rw [reflection]
      exact shown
    | queued => exact shown
    | testing => exact shown
    | _ => exact (congrArg Reflection.initialized reflection).trans shown

/-- What a look restores decides who holds the lock. -/
theorem Restores.mirrored {found : Station × Progress} (h : Restores found) :
    (withLock found).1.Mirrored (Progress.holder (withLock found).2) := by
  obtain ⟨t, activity | result⟩ := found
  · have shown : t.Reflects activity := h
    have holds := shown.holdsLock
    simp only [withLock, Progress.holder, Progress.holdsLock, holds, if_true]
    refine ⟨rfl, ?_⟩
    cases activity <;> exact shown
  · exact ⟨rfl, h⟩

end Station

namespace Activity

open Station

variable {s : Station} {activity : Activity}

/-- **A look at the activity that holds the lock.** -/
theorem mirrored_poll_holding (h : s.Mirrored (some activity)) :
    (activity.poll s).1.Mirrored (Progress.holder (activity.poll s).2) := by
  have shown : s.Reflects activity := h.2
  cases activity with
  | queued request => exact absurd shown id
  | testing t => exact absurd shown id
  | sending f purpose => exact (restores_checkSend shown purpose).mirrored
  | switching t => exact (restores_checkSwitch shown t).mirrored
  | measuring m => exact (restores_checkMeasurement shown m).mirrored
  | listening l => exact (restores_checkListening shown l).mirrored

/-- The front-end test uses neither the lock nor the radio. -/
theorem mirrored_testing {holder : Option Activity} (h : s.Mirrored holder) (t : AmplifierTest) :
    Progress.holder ((testing t).poll s).2 = none ∧ ((testing t).poll s).1.Mirrored holder := by
  cases t with
  | power deadline =>
    show Progress.holder (ofAmplifierTest (ite _ _ _)).2 = none ∧
      (ofAmplifierTest (ite _ _ _)).1.Mirrored holder
    split
    · exact ⟨rfl, h.of_eq rfl rfl⟩
    · exact ⟨rfl, h⟩
  | lowNoise pa deadline =>
    show Progress.holder (ofAmplifierTest (ite _ _ _)).2 = none ∧
      (ofAmplifierTest (ite _ _ _)).1.Mirrored holder
    split
    · exact ⟨rfl, h.of_eq rfl rfl⟩
    · exact ⟨rfl, h⟩

/-- **A look at an activity that does not hold the lock** leaves lock and reflection alone, unless
the lock is free and the activity takes it. -/
theorem mirrored_poll_other {holder : Option Activity} (h : s.Mirrored holder)
    (other : activity.holdsLock = false) :
    (Progress.holder (activity.poll s).2 = none ∧ (activity.poll s).1.Mirrored holder) ∨
      holder = none ∧ (activity.poll s).1.Mirrored (Progress.holder (activity.poll s).2) := by
  cases activity with
  | queued request =>
    cases decided : request.answer? with
    | some result =>
      rw [poll_queued_of_answer? decided]
      exact .inl ⟨rfl, h⟩
    | none =>
      cases needs : request.needsLock with
      | true =>
        cases holder with
        | none =>
          rw [poll_queued_of_free h.1 decided needs]
          exact .inr ⟨rfl, (restores_start h.2 needs).mirrored⟩
        | some activity =>
          rw [poll_queued_of_locked h.1 decided needs]
          exact .inl ⟨rfl, h⟩
      | false =>
        cases request with
        | testAmplifiers => exact .inl ⟨rfl, h.of_eq rfl rfl⟩
        | _ => exact absurd needs (by simp [Request.needsLock])
  | testing t => exact .inl (mirrored_testing h t)
  | _ => exact absurd other (by simp [holdsLock])

/-- **Giving up the activity that holds the lock.** -/
theorem mirrored_drop (h : s.Mirrored (some activity)) : (activity.drop s).Mirrored none := by
  have shown : s.Reflects activity := h.2
  cases activity with
  | queued request => exact absurd shown id
  | testing t => exact absurd shown id
  | sending f purpose => exact ⟨rfl, (standby_forceIdle shown).faithful⟩
  | switching t => exact ⟨rfl, Reflection.faithful_of_down shown⟩
  | measuring m =>
    exact ⟨rfl, Reflection.faithful_of_down (s.initialized_endMeasurement.trans shown)⟩
  | listening l => exact ⟨rfl, Reflection.faithful_of_down shown⟩

end Activity

end BurstLink
