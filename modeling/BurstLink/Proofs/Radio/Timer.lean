import BurstLink.Proofs.Radio.Unread

/-! # What the timer shows

A step of the radio reads what the timer shows only to let it show something else. So two radios
that differ in that alone make the same steps.

Main definition: **`Radio.Timeless`**, a change of the radio that does not depend on the timer.

Main statements: `Radio.retime_step` and `Radio.retime_service`. -/

namespace BurstLink

namespace Radio

/-- The change depends on what the timer shows in what the timer shows afterwards alone. -/
def Timeless (g : Radio → Radio) : Prop := ∀ τ r, ∃ τ', g (r.retime τ) = (g r).retime τ'

variable {g g' : Radio → Radio}

/-- One change after another. -/
theorem Timeless.comp (h' : Timeless g') (h : Timeless g) : Timeless fun r => g' (g r) := by
  intro τ r
  obtain ⟨τ', same⟩ := h τ r
  show ∃ τ'', g' (g (r.retime τ)) = (g' (g r)).retime τ''
  rw [same]
  exact h' τ' (g r)

/-- One of two changes, depending on something else. -/
theorem Timeless.ite {c : Radio → Prop} [DecidablePred c] (same : ∀ τ r, c (r.retime τ) = c r)
    (h : Timeless g) (h' : Timeless g') : Timeless fun r => if c r then g r else g' r := by
  intro τ r
  have decided := same τ r
  show ∃ τ', (if c (r.retime τ) then _ else _) = (if c r then _ else _ : Radio).retime τ'
  by_cases holds : c r
  · rw [if_pos holds, if_pos (decided ▸ holds)]
    exact h τ r
  · rw [if_neg holds, if_neg (decided ▸ holds)]
    exact h' τ r

/-- A detached change does not depend on the timer. -/
theorem Detached.timeless (h : Detached g) : Timeless g := fun τ r => ⟨τ, h.retime τ r⟩

/-- Power does not depend on the timer; a radio without power has its timer wiped. -/
theorem timeless_setPower (on : Bool) : Timeless (setPower on) := by
  intro τ r
  cases on with
  | true => exact ⟨τ, rfl⟩
  | false => exact ⟨⟨τ.now, 0, 0, none⟩, rfl⟩

/-! ## Steps -/

/-- The end of a frame reads the timer to latch it. -/
theorem timeless_endFrame (idle : Phase) : Timeless (endFrame idle) := by
  have latched : Timeless fun r => { r with
      endCapture := if r.routes.endToCapture then r.now else r.endCapture }.raise .frameEnd :=
    fun τ r => ⟨⟨τ.now, τ.compare, if r.routes.endToCapture then τ.now else τ.endCapture,
      τ.armedDeadline⟩, rfl⟩
  have chained : Timeless fun r => { r with
      phase := if r.shorts.contains .disabledRxEnable then .rxRampUp else .disabled }.raise
        .disabled := fun τ r => ⟨τ, rfl⟩
  have stays : Timeless fun r => { r with phase := idle } := fun τ r => ⟨τ, rfl⟩
  exact (chained.ite (c := fun r => r.shorts.contains .endDisable = true) (fun _ _ => rfl)
    stays).comp latched

/-- An address match reads the timer to latch it. -/
theorem timeless_addressMatch : Timeless addressMatch := fun τ r =>
  ⟨⟨τ.now, if r.routes.addressToCapture then τ.now else τ.compare, τ.endCapture,
    τ.armedDeadline⟩, rfl⟩

/-- Time that passes moves the timer alone. -/
theorem timeless_elapse (ticks : UInt32) : Timeless (elapse ticks) := fun τ _ =>
  ⟨⟨τ.now + ticks, τ.compare, τ.endCapture, τ.armedDeadline⟩, rfl⟩

/-- A transmission puts the same packet on air, whatever the timer shows. -/
theorem timeless_transmit (packet : Option Packet) : Timeless (transmit packet) := by
  cases packet with
  | none => exact timeless_endFrame .txIdle
  | some p =>
    have recorded : Timeless fun r => { r with air := r.air.record ⟨r.channel, p⟩ } :=
      fun τ r => ⟨τ, rfl⟩
    exact (timeless_endFrame .txIdle).comp <| (timeless_elapse (dataTicks p)).comp <|
      timeless_addressMatch.comp <| (timeless_elapse airtimeBase).comp recorded

/-- The reception of a frame scores it alike, whatever the timer shows. -/
theorem timeless_receive (answer : Answer) : Timeless (receive answer) := by
  have scored : Timeless fun r => { r with rssi := answer.rssi, crcOk := answer.crcOk } :=
    fun τ r => ⟨τ, rfl⟩
  exact (timeless_endFrame .rxIdle).comp <|
    (timeless_elapse (airtimeBase + dataTicks answer.packet)).comp <| scored.comp <|
      timeless_addressMatch.comp (timeless_elapse turnaroundTicks)

/-- Whether the timeout fires depends on whether the timer runs, and not on what it shows. -/
theorem timeless_ackTimeout : Timeless ackTimeout := by
  have fired : Timeless fun r =>
      { r with now := r.compare, compareFired := true, crcOk := false } :=
    fun τ r => ⟨⟨τ.compare, τ.compare, τ.endCapture, τ.armedDeadline⟩, rfl⟩
  have listens : Timeless fun r => { r with phase := .rx } := fun τ r => ⟨τ, rfl⟩
  exact (detached_switchOff.timeless.comp fired).ite
    (c := fun r => (r.timerRunning && r.routes.compareToDisable) = true) (fun _ _ => rfl) listens

/-- **A step of the radio** reads nothing of what the timer shows, and the frame that it receives
does not depend on it. -/
theorem retime_step (τ : Timing) (packet : Option Packet) (r : Radio) :
    ∃ τ', (r.retime τ).step packet = ((r.step packet).1.retime τ', (r.step packet).2) := by
  have plain : ∀ {g : Radio → Radio} (frame : Option Packet), Timeless g →
      ∃ τ', (g (r.retime τ), frame) = ((g r).retime τ', frame) := by
    intro g frame timeless
    obtain ⟨τ', same⟩ := timeless τ r
    exact ⟨τ', by rw [same]⟩
  unfold step
  rw [show (r.retime τ).phase = r.phase from rfl]
  split
  · exact plain none detached_settle.timeless
  · exact plain none (timeless_transmit packet)
  · exact plain none detached_rampUp.timeless
  · rw [show (r.retime τ).pending = r.pending from rfl, show (r.retime τ).air = r.air from rfl]
    have taken : Timeless fun r => { r with pending := none } := fun τ r => ⟨τ, rfl⟩
    split
    · exact plain none detached_sampleAmbient.timeless
    · split
      · exact plain none (timeless_ackTimeout.comp taken)
      · exact plain _ ((timeless_receive _).comp taken)
  · exact plain none detached_sampleAmbient.timeless
  · exact ⟨τ, rfl⟩
  · exact ⟨τ, rfl⟩
  · exact ⟨τ, rfl⟩

/-- So does a step that waits for a pending interrupt. -/
theorem retime_service (τ : Timing) (packet : Option Packet) (r : Radio) :
    ∃ τ', (r.retime τ).service packet =
      ((r.service packet).1.retime τ', (r.service packet).2) := by
  unfold service
  rw [show (r.retime τ).interruptPending = r.interruptPending from rfl]
  split
  · exact ⟨τ, rfl⟩
  · exact r.retime_step τ packet

end Radio

end BurstLink
