import BurstLink.Proofs.Custody.Bench
import BurstLink.Proofs.ForcedIdle
import BurstLink.Proofs.Packets.Access

/-! # The attempts of a send

The attempts of a send go through the responses to come one after the other, until one decides the
send or the attempts are used up, or until a frame does not fit into the transmission history.

Main definitions:

* **`Station.viewAfter`** — what a send has in view after a number of attempts.
* **`Station.Attempting`** — an attempt of a send has just started.
* **`Station.Fulfils`** — a forecast has come true.
* **`Station.LandsAs`** — a send in progress will be over as forecast, whatever it is part of.
* **`Station.OverflowsWithin`** — a send in progress will run into the limit of the history.
* **`Station.GoesThrough`** — the one or the other, by the room that the history has.

Main statement: `Station.Attempting.goesThrough`. -/

namespace BurstLink

/-! ## The response that decides -/

namespace Air

variable {c : LinkConfig} {pid : Pid} {air : Air} {i k : Nat}

/-- The first response within the attempts that decides is the decisive one. -/
theorem decisive?_eq_some (inRange : i < c.attempts) (decides : (air.response i).Decides c pid)
    (before : ∀ j < i, ¬(air.response j).Decides c pid) : air.decisive? c pid = some i := by
  unfold decisive?
  rw [List.find?_range_eq_some]
  exact ⟨by simpa using decides, List.mem_range.mpr inRange, fun j earlier => by
    simpa using before j earlier⟩

/-- Without a response that decides, all attempts are used up. -/
theorem decisive?_eq_none (never : ∀ j < c.attempts, ¬(air.response j).Decides c pid) :
    air.decisive? c pid = none := by
  unfold decisive?
  rw [List.find?_range_eq_none]
  intro j inRange
  simpa using never j inRange

/-- No attempt before an undecided one decides. -/
theorem le_of_decisive? (found : air.decisive? c pid = some k)
    (before : ∀ j < i, ¬(air.response j).Decides c pid) : i ≤ k := by
  unfold decisive? at found
  rw [List.find?_range_eq_some] at found
  refine Nat.le_of_not_lt fun earlier => before k earlier ?_
  simpa using found.1

/-- Taking the next response. -/
theorem nextResponse_afterSending (air : Air) (i frames : Nat) (frame : Frame) :
    (air.afterSending i frames frame).nextResponse =
      (air.response i, air.afterSending (i + 1) frames frame) := by
  have left : air.script.drop (i + 1) = (air.script.drop i).tail := by rw [List.tail_drop]
  have first : air.response i = (air.script.drop i).headD air.fallback := by
    simp [response, List.getD_eq_getElem?_getD, List.headD_eq_head?_getD, List.head?_drop]
  unfold nextResponse afterSending
  rw [left, first]
  cases air.script.drop i with
  | nil => rfl
  | cons response script => rfl

/-- One more frame. -/
theorem afterSending_afterSending (air : Air) (responses frames : Nat) (frame : Frame) :
    (air.afterSending responses frames frame).afterSending 0 1 frame =
      air.afterSending responses (frames + 1) frame := by
  simp [afterSending, List.replicate_succ']

end Air

namespace Station

variable {s₀ s t : Station} {f : Flight} {packet ack : Packet} {draws : Draws} {i k : Nat}

/-! ## What is in view between attempts -/

/-- What a send has in view after a number of attempts, none of which hung. -/
def viewAfter (packet ack : Packet) (draws : Draws) (attempts : Nat) (s : Station) : View :=
  { link := { s.link with pid := s.link.pid.next, draws := draws }
    air := s.radio.air.afterSending attempts attempts
      ⟨s.link.config.channel, packet.setPid s.link.pid⟩
    rssi := s.radio.air.rssiAfter s.link.config s.link.pid s.radio.rssi attempts
    packet := packet.setPid s.link.pid
    ack := s.radio.air.ackAfter s.link.config s.link.pid ack attempts }

/-- What a send has in view once another attempt has started: it has taken the next response and
cleared the acknowledgement. -/
def viewDuring (packet ack : Packet) (draws : Draws) (attempts : Nat) (s : Station) : View :=
  { s.viewAfter packet ack draws attempts with
    air := s.radio.air.afterSending (attempts + 1) attempts
      ⟨s.link.config.channel, packet.setPid s.link.pid⟩
    ack := (s.viewAfter packet ack draws attempts).ack.clear }

/-- The attempt puts its packet on air and hears what it hears. -/
theorem hearing_viewDuring (packet ack : Packet) (draws : Draws) (i : Nat) (s : Station) :
    View.hearing { s.viewDuring packet ack draws i with
        air := (s.viewDuring packet ack draws i).air.afterSending 0 1
          ⟨s.link.config.channel, packet.setPid s.link.pid⟩ }
      ((s.radio.air.response i).heard s.link.config s.link.pid) =
    s.viewAfter packet ack draws (i + 1) := by
  cases heard : (s.radio.air.response i).heard s.link.config s.link.pid <;>
    simp [viewDuring, viewAfter, View.hearing, Air.rssiAfter, Air.ackAfter, heard,
      Air.afterSending_afterSending]

/-- The forecast, by the response that decides. -/
theorem forecastOnAir_of_wedged (found : s.radio.air.decisive? s.link.config s.link.pid = some k)
    (hangs : s.radio.air.response k = .wedged) :
    s.forecastOnAir packet ack draws =
      { result := .error .hardwareStuck
        link := (s.viewDuring packet ack draws k).link
        air := (s.viewDuring packet ack draws k).air
        packet := (s.viewDuring packet ack draws k).packet
        ack := (s.viewDuring packet ack draws k).ack } := by
  unfold forecastOnAir
  simp only [found, hangs, if_true]
  rfl

/-- A decided send reports what the deciding attempt gave, with the simulated loss of its
acknowledgement. -/
theorem forecastOnAir_of_decided (found : s.radio.air.decisive? s.link.config s.link.pid = some k)
    (runs : s.radio.air.response k ≠ .wedged) :
    s.forecastOnAir packet ack draws =
      { result := .ok ⟨!(s.link.config.ackEnabled && draws.loss s.link.config.ackLossPercent),
          (s.viewAfter packet ack draws (k + 1)).rssi, k⟩
        link := if s.link.config.ackEnabled then
            { (s.viewAfter packet ack draws (k + 1)).link with
              draws := draws.afterLoss s.link.config.ackLossPercent }
          else (s.viewAfter packet ack draws (k + 1)).link
        air := (s.viewAfter packet ack draws (k + 1)).air
        packet := (s.viewAfter packet ack draws (k + 1)).packet
        ack := (s.viewAfter packet ack draws (k + 1)).ack } := by
  unfold forecastOnAir
  simp only [found, runs, if_false]
  rfl

/-- A send whose attempts are exhausted fails after the last one, with all of them counted. -/
theorem forecastOnAir_of_exhausted
    (found : s.radio.air.decisive? s.link.config s.link.pid = none) :
    s.forecastOnAir packet ack draws =
      { result := .ok ⟨false, (s.viewAfter packet ack draws s.link.config.attempts).rssi,
          s.link.config.attempts - 1⟩
        link := (s.viewAfter packet ack draws s.link.config.attempts).link
        air := (s.viewAfter packet ack draws s.link.config.attempts).air
        packet := (s.viewAfter packet ack draws s.link.config.attempts).packet
        ack := (s.viewAfter packet ack draws s.link.config.attempts).ack } := by
  unfold forecastOnAir
  simp only [found]
  rfl

/-- The attempt that hangs puts no frame on air. -/
theorem length_forecastOnAir_of_wedged
    (found : s.radio.air.decisive? s.link.config s.link.pid = some k)
    (hangs : s.radio.air.response k = .wedged) :
    (s.forecastOnAir packet ack draws).air.history.length = s.radio.air.history.length + k := by
  rw [forecastOnAir_of_wedged found hangs]
  simp [viewDuring, Air.afterSending]

/-- The deciding attempt and those before it put one frame each on air. -/
theorem length_forecastOnAir_of_decided
    (found : s.radio.air.decisive? s.link.config s.link.pid = some k)
    (runs : s.radio.air.response k ≠ .wedged) :
    (s.forecastOnAir packet ack draws).air.history.length =
      s.radio.air.history.length + (k + 1) := by
  rw [forecastOnAir_of_decided found runs]
  simp [viewAfter, Air.afterSending]

/-- Exhausted attempts put one frame each on air. -/
theorem length_forecastOnAir_of_exhausted
    (found : s.radio.air.decisive? s.link.config s.link.pid = none) :
    (s.forecastOnAir packet ack draws).air.history.length =
      s.radio.air.history.length + s.link.config.attempts := by
  rw [forecastOnAir_of_exhausted found]
  simp [viewAfter, Air.afterSending]

/-- An attempt that does not hang puts a frame on air, after those of the attempts before it. -/
theorem room_of_attempt (inRange : i < s.link.config.attempts)
    (before : ∀ j < i, ¬(s.radio.air.response j).Decides s.link.config s.link.pid)
    (runs : s.radio.air.response i ≠ .wedged) :
    s.radio.air.history.length + i <
      (s.forecastOnAir packet ack draws).air.history.length := by
  cases found : s.radio.air.decisive? s.link.config s.link.pid with
  | none =>
    rw [length_forecastOnAir_of_exhausted found]
    omega
  | some k =>
    have later := Air.le_of_decisive? found before
    by_cases hangs : s.radio.air.response k = .wedged
    -- the attempt that hangs puts no frame on air, but it comes later than this one
    · have other : i ≠ k := fun same => runs (same ▸ hangs)
      rw [length_forecastOnAir_of_wedged found hangs]
      omega
    · rw [length_forecastOnAir_of_decided found hangs]
      omega

/-! ## Attempts -/

/-- A forecast has come true. -/
structure Fulfils (forecast : Forecast) (f : Flight) (s : Station) : Prop where
  link : s.link = forecast.link
  air : s.radio.air = forecast.air
  packet : s.buffers.get f.packet = forecast.packet
  ack : s.buffers.get f.ack = forecast.ack

/-- A forecast has come true once all that a send can see is as it says. -/
theorem fulfils_of_view {forecast : Forecast} (rssi : UInt8)
    (seen : s.view f = ⟨forecast.link, forecast.air, rssi, forecast.packet, forecast.ack⟩) :
    s.Fulfils forecast f :=
  ⟨congrArg View.link seen, congrArg View.air seen, congrArg View.packet seen,
    congrArg View.ack seen⟩

/-- An attempt of a send has just started; the send started from the station `s₀`. -/
structure Attempting (s₀ : Station) (packet ack : Packet) (draws : Draws) (f : Flight)
    (s : Station) : Prop where
  config : f.config = s₀.link.config
  pid : f.pid = s₀.link.pid
  exchanging : s.Exchanging f (s₀.viewDuring packet ack draws f.retries)
  sends : s.radio.Sends (s₀.radio.air.response f.retries)
  deadline : f.deadline = s.clock + exchangeTimeout

/-- A send in progress has come to the look that finds it over, with the given forecast come true
and the given signal strength in the register. Until then `rounds` more rounds than one pass,
whatever the send is part of; the flight may have been repeated. -/
structure Landing (forecast : Forecast) (rssi : UInt8) (rounds : Nat) (f : Flight) (s : Station)
    (g : Flight) (t s' : Station) : Prop where
  reached : ∀ purpose, (Activity.sending f purpose).Reaches rounds s (.sending g purpose) t
  flying : t.InFlight True g
  packet : g.packet = f.packet
  ack : g.ack = f.ack
  looked : t.checkFlight g = (s', .finished forecast.result)
  fulfils : s'.Fulfils forecast f
  rssi : s'.radio.rssi = rssi

/-- The send is over as forecast after so many more rounds at most. -/
def LandsAs (forecast : Forecast) (rssi : UInt8) (patience : Nat) (f : Flight) (s : Station) :
    Prop :=
  ∃ n ≤ patience, ∃ g t s', s.Landing forecast rssi n f g t s'

/-- The send runs into the limit of the transmission history after so many rounds at most, whatever
it is part of. -/
def OverflowsWithin (patience : Nat) (f : Flight) (s : Station) : Prop :=
  ∃ n ≤ patience, ∀ purpose, (Activity.sending f purpose).Overflows n s .transmissions

/-- The transmission history takes every frame of a forecast. -/
def HasRoomFor (forecast : Forecast) (s : Station) : Prop :=
  s.radio.air.historyFull = false ∧ forecast.air.history.length ≤
    max Overflow.transmissions.limit s.radio.air.history.length

/-- A send that started from the station `s₀` and has so many attempts left lands as forecast if the
history has room for the frames, and runs into its limit otherwise. -/
def GoesThrough (s₀ : Station) (forecast : Forecast) (rssi : UInt8) (left : Nat) (f : Flight)
    (s : Station) : Prop :=
  s₀.HasRoomFor forecast ∧ s.LandsAs forecast rssi (3 * left + exchangeTimeout) f ∨
    ¬s₀.HasRoomFor forecast ∧ s.OverflowsWithin (3 * left) f

/-- The look at a send finds it over, with the given forecast come true and the given signal
strength in the register. -/
def FinishesAs (forecast : Forecast) (rssi : UInt8) (f : Flight) (t : Station) : Prop :=
  ∃ s', t.checkFlight f = (s', .finished forecast.result) ∧ s'.Fulfils forecast f ∧
    s'.radio.rssi = rssi

/-- A send that reaches such a look without being repeated. -/
theorem FinishesAs.landsAs {forecast : Forecast} {rssi : UInt8} {rounds patience : Nat}
    (h : t.FinishesAs forecast rssi f) (flying : t.InFlight True f) (patient : rounds ≤ patience)
    (reached : ∀ purpose,
      (Activity.sending f purpose).Reaches rounds s (.sending f purpose) t) :
    s.LandsAs forecast rssi patience f := by
  obtain ⟨s', looked, fulfils, strength⟩ := h
  exact ⟨rounds, patient, f, t, s', reached, flying, rfl, rfl, looked, fulfils, strength⟩

/-- A send that repeats its attempt goes through as the next attempt does. -/
theorem GoesThrough.again {forecast : Forecast} {rssi : UInt8} {rounds left : Nat} {g : Flight}
    {t' : Station} (h : s₀.GoesThrough forecast rssi left g t') (packet : g.packet = f.packet)
    (ack : g.ack = f.ack) (short : rounds ≤ 2)
    (reached : ∀ purpose,
      (Activity.sending f purpose).Reaches rounds s (.sending f purpose) t)
    (repeated : ∀ purpose,
      (Activity.sending f purpose).poll t = (t', .waiting (.sending g purpose))) :
    s₀.GoesThrough forecast rssi (left + 1) f s := by
  rcases h with ⟨room, n, patient, g', t'', s', landing⟩ | ⟨noRoom, n, patient, overflows⟩
  · refine .inl ⟨room, n + 1 + rounds, by omega, g', t'', s', ?_, landing.flying,
      landing.packet.trans packet, landing.ack.trans ack, landing.looked, ?_, landing.rssi⟩
    · intro purpose
      exact (reached purpose).trans (repeated purpose) (landing.reached purpose)
    · obtain ⟨link, air, sent, answer⟩ := landing.fulfils
      exact ⟨link, air, packet ▸ sent, ack ▸ answer⟩
  · refine .inr ⟨noRoom, n + 1 + rounds, by omega, ?_⟩
    intro purpose
    exact (reached purpose).overflows (repeated purpose) (overflows purpose)

/-- The signal strength after a radio that hangs was brought to rest. -/
theorem forceIdle_view_of_wedged (config : LinkConfig) (f : Flight)
    (powered : s.radio.powered = true) (phase : s.radio.phase = .wedged) :
    (s.forceIdle config).view f =
      { s.view f with rssi := s.radio.air.rssiIdled s.radio.rssi } := by
  obtain ⟨rssi, seen⟩ := forceIdle_view config f s
  have shown : (s.forceIdle config).radio.rssi = rssi := congrArg View.rssi seen
  have radio := radio_forceIdle config powered
  rw [Radio.looksLeft_of_fresh (by simp [phase]) (by simp [phase])] at radio
  rw [seen, ← shown, radio]
  unfold Air.rssiIdled
  by_cases quick : s.radio.air.disableLatency ≤ disableMaxPolls
  · obtain ⟨phase', pending, events, -, settled⟩ := s.disarm.radio.forceOff_settles
    rw [if_pos quick, if_pos quick, settled]
    rfl
  · rw [if_neg quick, if_neg quick]
    rfl

/-- An attempt that hangs ends the send. -/
theorem Attempting.lands_of_wedged (h : s₀.Attempting packet ack draws f s)
    (fits : s₀.radio.air.historyFull = false)
    (found : s₀.radio.air.decisive? s₀.link.config s₀.link.pid = some f.retries)
    (hangs : s₀.radio.air.response f.retries = .wedged) (patience : Nat) :
    s.LandsAs (s₀.forecastOnAir packet ack draws) s₀.rssiOnAir (patience + exchangeTimeout) f := by
  have phase : s.radio.phase = .wedged := by
    have sends := h.sends
    unfold Radio.Sends at sends
    rwa [if_pos hangs] at sends
  -- the patience for an exchange is twenty thousand rounds
  have late : f.deadline ≤ s.clock + (19999 + 1) * roundTime := by
    rw [h.deadline]
    exact Nat.le_refl _
  obtain ⟨t, exchanging, phase', unfinished, overdue, k, short, reached⟩ :=
    h.exchanging.hangs phase fits 19999 late
  have looked := checkFlight_of_late unfinished overdue
  have idled := forceIdle_view_of_wedged (s := t.note .exchangeStuck) f.config f
    exchanging.flying.programmed.powered phase'
  have view : t.view f = s₀.viewDuring packet ack draws f.retries := exchanging.view
  have air : t.radio.air = (s₀.viewDuring packet ack draws f.retries).air :=
    congrArg View.air view
  have strength : t.radio.rssi = (s₀.viewDuring packet ack draws f.retries).rssi :=
    congrArg View.rssi view
  have seen : ((t.note .exchangeStuck).forceIdle f.config).view f =
      { s₀.viewDuring packet ack draws f.retries with rssi := s₀.rssiOnAir } := by
    have shown : s₀.rssiOnAir = (t.note .exchangeStuck).radio.air.rssiIdled
        (t.note .exchangeStuck).radio.rssi := by
      show _ = t.radio.air.rssiIdled t.radio.rssi
      rw [air, strength]
      unfold rssiOnAir
      simp only [found, hangs, if_true]
      rfl
    rw [idled, ← view, shown]
    rfl
  have patient : k ≤ patience + exchangeTimeout := by
    unfold exchangeTimeout
    omega
  have finishes : t.FinishesAs (s₀.forecastOnAir packet ack draws) s₀.rssiOnAir f := by
    rw [forecastOnAir_of_wedged found hangs]
    exact ⟨_, looked, fulfils_of_view _ seen, congrArg View.rssi seen⟩
  exact finishes.landsAs exchanging.flying patient reached

/-- **An attempt that does not hang completes its exchange**, and what has come in decides the send
exactly if the response does. -/
theorem Attempting.completes (h : s₀.Attempting packet ack draws f s)
    (responsive : s₀.radio.air.unresponsive = false) (fits : s₀.radio.air.historyFull = false)
    (room : s₀.radio.air.history.length + f.retries < Overflow.transmissions.limit)
    (runs : s₀.radio.air.response f.retries ≠ .wedged) :
    ∃ t, t.completed = true ∧ t.Exchanging f (s₀.viewAfter packet ack draws (f.retries + 1)) ∧
      (!f.config.ackEnabled || t.finishExchange.accepts f) =
        decide ((s₀.radio.air.response f.retries).Decides s₀.link.config s₀.link.pid) ∧
      ∃ k ≤ 2, ∀ purpose, (Activity.sending f purpose).Reaches k s (.sending f purpose) t := by
  have sends := h.sends
  unfold Radio.Sends at sends
  rw [if_neg runs] at sends
  have room' : (s₀.viewDuring packet ack draws f.retries).air.history.length <
      Overflow.transmissions.limit := by
    simpa [viewDuring, Air.afterSending] using room
  have hearing := hearing_viewDuring packet ack draws f.retries s₀
  have stamped : (s₀.viewDuring packet ack draws f.retries).packet = packet.setPid f.pid := by
    rw [h.pid]
    rfl
  -- without acknowledgements one round completes the exchange, and nothing is heard;
  -- with them it takes three
  cases acks : f.config.ackEnabled with
  | false =>
    obtain ⟨t, passed, exchanging, completed⟩ := h.exchanging.sent sends.1 acks room' fits
    have deaf : (s₀.radio.air.response f.retries).heard s₀.link.config s₀.link.pid = none := by
      rw [AirResponse.heard, ← h.config, acks]
      rfl
    rw [deaf, ← h.config, ← h.pid, ← stamped] at hearing
    refine ⟨t, completed, hearing ▸ exchanging, ?_, 0, Nat.zero_le 2, fun _ => .first passed⟩
    simp [AirResponse.Decides, ← h.config, acks]
  | true =>
    have pid : (s₀.viewDuring packet ack draws f.retries).packet.pid = f.pid := by
      rw [stamped, Packet.pid_setPid]
    have early : s.clock + 2 * roundTime < f.deadline := by
      rw [h.deadline]
      unfold roundTime exchangeTimeout
      omega
    obtain ⟨t, heard, reached⟩ :=
      h.exchanging.heard sends.1 acks sends.2 responsive room' fits pid early
    have listens : (s₀.radio.air.response f.retries).heard s₀.link.config s₀.link.pid =
        (s₀.radio.air.response f.retries).answer f.pid := by
      rw [AirResponse.heard, ← h.config, acks, if_pos rfl, h.pid]
    have accepts := heard.accepts
    rw [listens, ← h.config, ← h.pid, ← stamped] at hearing
    refine ⟨t, heard.completed, hearing ▸ heard.toExchanging, ?_, 2, Nat.le_refl 2, reached⟩
    rw [accepts]
    simp [AirResponse.Decides, ← h.config, ← h.pid, acks, runs]

/-- A look at an attempt that has completed its exchange and decides ends the send. -/
theorem Exchanging.finishes_of_decided {t : Station} (config : f.config = s₀.link.config)
    (exchanging : t.Exchanging f (s₀.viewAfter packet ack draws (f.retries + 1)))
    (completed : t.completed = true)
    (decided : (!f.config.ackEnabled || t.finishExchange.accepts f) = true)
    (found : s₀.radio.air.decisive? s₀.link.config s₀.link.pid = some f.retries)
    (runs : s₀.radio.air.response f.retries ≠ .wedged) :
    t.FinishesAs (s₀.forecastOnAir packet ack draws) s₀.rssiOnAir f := by
  have looked := checkFlight_of_decided completed decided
  obtain ⟨result, seen⟩ := t.finishExchange.land_eq f true
  have view : t.finishExchange.view f = s₀.viewAfter packet ack draws (f.retries + 1) :=
    exchanging.view
  -- what is in view after the last attempt is what the forecast says
  have link : t.finishExchange.link =
      (s₀.viewAfter packet ack draws (f.retries + 1)).link := congrArg View.link view
  have rssi : t.finishExchange.radio.rssi =
      (s₀.viewAfter packet ack draws (f.retries + 1)).rssi := congrArg View.rssi view
  have shown : s₀.rssiOnAir = (s₀.viewAfter packet ack draws (f.retries + 1)).rssi := by
    unfold rssiOnAir
    simp only [found, runs, if_false]
    rfl
  rw [result, link, rssi, config] at looked
  rw [view, link, config] at seen
  rw [forecastOnAir_of_decided found runs, shown]
  exact ⟨_, looked, fulfils_of_view _ seen, congrArg View.rssi seen⟩

/-- A look at the last attempt ends the send even if the attempt does not decide. -/
theorem Exchanging.finishes_of_exhausted {t : Station} (config : f.config = s₀.link.config)
    (exchanging : t.Exchanging f (s₀.viewAfter packet ack draws (f.retries + 1)))
    (completed : t.completed = true)
    (undecided : (!f.config.ackEnabled || t.finishExchange.accepts f) = false)
    (found : s₀.radio.air.decisive? s₀.link.config s₀.link.pid = none)
    (last : f.retries + 1 = s₀.link.config.attempts) :
    t.FinishesAs (s₀.forecastOnAir packet ack draws) s₀.rssiOnAir f := by
  have looked := checkFlight_of_exhausted completed undecided (Nat.le_of_eq (by rw [config, last]))
  obtain ⟨result, seen⟩ := t.finishExchange.land_eq f false
  have view : t.finishExchange.view f = s₀.viewAfter packet ack draws (f.retries + 1) :=
    exchanging.view
  have rssi : t.finishExchange.radio.rssi =
      (s₀.viewAfter packet ack draws (f.retries + 1)).rssi := congrArg View.rssi view
  have link : t.finishExchange.link =
      (s₀.viewAfter packet ack draws (f.retries + 1)).link := congrArg View.link view
  have retries : f.retries = s₀.link.config.attempts - 1 := by omega
  have shown : s₀.rssiOnAir = (s₀.viewAfter packet ack draws s₀.link.config.attempts).rssi := by
    unfold rssiOnAir
    simp only [found]
    rfl
  rw [result, rssi, last, retries] at looked
  rw [view, link, last] at seen
  rw [forecastOnAir_of_exhausted found, shown]
  exact ⟨_, looked, fulfils_of_view _ seen, congrArg View.rssi seen⟩

/-- The next attempt starts. -/
theorem Exchanging.nextAttempt {t : Station} (config : f.config = s₀.link.config)
    (pid : f.pid = s₀.link.pid)
    (exchanging : t.Exchanging f (s₀.viewAfter packet ack draws (f.retries + 1)))
    (completed : t.completed = true) :
    s₀.Attempting packet ack draws (t.nextAttempt f).2 ((t.nextAttempt f).1.setLocked true) := by
  have standby : (t.finishExchange.note (.retry (f.retries + 1) f.pid)).Standby True :=
    (note_agree ..).standby (exchanging.flying.finishExchange completed).toStandby
  have view : (t.finishExchange.note (.retry (f.retries + 1) f.pid)).view
      { f with retries := f.retries + 1 } = s₀.viewAfter packet ack draws (f.retries + 1) :=
    exchanging.view
  obtain ⟨exchanging', sends, deadline⟩ :=
    standby.fly (f := { f with retries := f.retries + 1 }) exchanging.flying.apart
      exchanging.flying.config view
  -- of the responses to come, the next attempt takes the one with its own number
  have next : (s₀.viewAfter packet ack draws (f.retries + 1)).air.nextResponse =
      (s₀.radio.air.response (f.retries + 1), s₀.radio.air.afterSending (f.retries + 1 + 1)
        (f.retries + 1) ⟨s₀.link.config.channel, packet.setPid s₀.link.pid⟩) :=
    Air.nextResponse_afterSending ..
  rw [next] at exchanging' sends
  exact ⟨config, pid, exchanging', sends, deadline⟩

/-- A step after which a frame has not fitted into the history runs into the limit. -/
theorem pump_of_full (full : s.serviceRadio.radio.air.historyFull = true) :
    s.pump = (s.serviceRadio, some .transmissions) := by
  simp [Station.pump, overflowed, full]

/-- Once a frame did not fit into the history, every round runs into the limit. -/
theorem round_of_historyFull (full : s.radio.air.historyFull = true) :
    s.round = (s.later.serviceRadio, some .transmissions) := by
  have still : s.later.serviceRadio.radio.air.historyFull = true := by
    rw [air_serviceRadio]
    cases s.later.emits with
    | none => exact full
    | some frame =>
      show (s.radio.air.record frame).historyFull = true
      unfold Air.record
      split
      · exact full
      · rfl
  exact pump_of_full still

/-- A round in which the packet is on air runs into the limit if there is no room for its frame. -/
theorem Exchanging.round_of_noRoom {v : View} (h : s.Exchanging f v) (phase : s.radio.phase = .tx)
    (noRoom : Overflow.transmissions.limit ≤ v.air.history.length) :
    s.round = (s.later.serviceRadio, some .transmissions) := by
  obtain ⟨air, unhandled⟩ := h.flying.onAir_of_tx phase
  have surroundings : s.radio.air = v.air := congrArg View.air h.view
  have reads : s.radio.reads = true :=
    Radio.reads_iff.mpr ⟨Radio.interruptPending_of_unhandled unhandled, phase⟩
  have emits : s.later.emits = some ⟨s.radio.channel, s.buffers.get f.packet⟩ := by
    show (if s.radio.reads then s.loaded.map fun p => (⟨s.radio.channel, p⟩ : Frame) else none) = _
    rw [if_pos reads, Station.loaded, air.buffer]
    rfl
  have full : s.later.serviceRadio.radio.air.historyFull = true := by
    rw [air_serviceRadio, emits]
    show (s.radio.air.record _).historyFull = true
    rw [surroundings, Air.record, if_neg (Nat.not_lt.mpr noRoom)]
  exact pump_of_full full

/-- Without room for one more frame an attempt that does not hang runs into the limit. -/
theorem Attempting.overflows (h : s₀.Attempting packet ack draws f s)
    (runs : s₀.radio.air.response f.retries ≠ .wedged)
    (noRoom : Overflow.transmissions.limit ≤ s₀.radio.air.history.length + f.retries)
    (patience : Nat) : s.OverflowsWithin patience f := by
  have phase : s.radio.phase = .tx := by
    have sends := h.sends
    unfold Radio.Sends at sends
    rw [if_neg runs] at sends
    exact sends.1
  have noRoom' : Overflow.transmissions.limit ≤
      (s₀.viewDuring packet ack draws f.retries).air.history.length := by
    simpa [viewDuring, Air.afterSending] using noRoom
  exact ⟨0, Nat.zero_le _, fun _ => .now (h.exchanging.round_of_noRoom phase noRoom')⟩

/-- Once a frame did not fit into the history, every attempt runs into the limit. -/
theorem Attempting.overflows_of_historyFull (h : s₀.Attempting packet ack draws f s)
    (full : s₀.radio.air.historyFull = true) (patience : Nat) : s.OverflowsWithin patience f := by
  have air : s.radio.air = s₀.radio.air.afterSending (f.retries + 1) f.retries
      ⟨s₀.link.config.channel, packet.setPid s₀.link.pid⟩ :=
    congrArg View.air h.exchanging.view
  have full' : s.radio.air.historyFull = true := air ▸ full
  exact ⟨0, Nat.zero_le _, fun _ => .now (round_of_historyFull full')⟩

/-- **An attempt that has started ends as forecast**, whatever comes of it, exactly if the history
has room for the frames. The induction is on the attempts that are left; the hypothesis that no
attempt before this one decides grows by one with each of them. -/
theorem Attempting.goesThrough (h : s₀.Attempting packet ack draws f s)
    (before : ∀ j < f.retries,
      ¬(s₀.radio.air.response j).Decides s₀.link.config s₀.link.pid)
    (inRange : f.retries < s₀.link.config.attempts)
    (responsive : s₀.radio.air.unresponsive = false)
    (soFar : s₀.radio.air.history.length + f.retries ≤
      max Overflow.transmissions.limit s₀.radio.air.history.length) :
    s₀.GoesThrough (s₀.forecastOnAir packet ack draws) s₀.rssiOnAir
      (s₀.link.config.attempts - f.retries) f s := by
  generalize left_eq : s₀.link.config.attempts - f.retries = left
  induction left generalizing f s with
  | zero => omega
  | succ left ih =>
    cases fits : s₀.radio.air.historyFull with
    | true =>
      have noRoom : ¬s₀.HasRoomFor (s₀.forecastOnAir packet ack draws) := fun room =>
        absurd (fits.symm.trans room.1) (by simp)
      exact .inr ⟨noRoom, h.overflows_of_historyFull fits _⟩
    | false =>
    by_cases hangs : s₀.radio.air.response f.retries = .wedged
    · have found := Air.decisive?_eq_some inRange (.inl hangs) before
      have room : s₀.HasRoomFor (s₀.forecastOnAir packet ack draws) :=
        ⟨fits, length_forecastOnAir_of_wedged found hangs ▸ soFar⟩
      exact .inl ⟨room, h.lands_of_wedged fits found hangs _⟩
    have frame : s₀.radio.air.history.length + f.retries <
        (s₀.forecastOnAir packet ack draws).air.history.length :=
      room_of_attempt inRange before hangs
    by_cases noRoom : Overflow.transmissions.limit ≤ s₀.radio.air.history.length + f.retries
    · exact .inr ⟨fun room => absurd room.2 (by omega), h.overflows hangs noRoom _⟩
    obtain ⟨t, completed, exchanging, decides, k, short, reached⟩ :=
      h.completes responsive fits (by omega) hangs
    have patient : k ≤ 3 * (left + 1) + exchangeTimeout := by omega
    have soFar' : s₀.radio.air.history.length + (f.retries + 1) ≤
        max Overflow.transmissions.limit s₀.radio.air.history.length := by omega
    by_cases decided : (s₀.radio.air.response f.retries).Decides s₀.link.config s₀.link.pid
    · rw [decide_eq_true decided] at decides
      have found := Air.decisive?_eq_some inRange decided before
      have room : s₀.HasRoomFor (s₀.forecastOnAir packet ack draws) :=
        ⟨fits, length_forecastOnAir_of_decided found hangs ▸ soFar'⟩
      have finishes := exchanging.finishes_of_decided h.config completed decides found hangs
      exact .inl ⟨room, finishes.landsAs exchanging.flying patient reached⟩
    rw [decide_eq_false decided] at decides
    have before' : ∀ j < f.retries + 1,
        ¬(s₀.radio.air.response j).Decides s₀.link.config s₀.link.pid := by
      intro j earlier
      rcases Nat.lt_succ_iff_lt_or_eq.mp earlier with earlier | rfl
      · exact before j earlier
      · exact decided
    -- an attempt that does not decide is followed by another one, unless it was the last
    by_cases more : f.retries + 1 < s₀.link.config.attempts
    · have next := exchanging.nextAttempt h.config h.pid completed
      have repeated := checkFlight_of_undecided completed decides (by rwa [h.config])
      have left_eq' : s₀.link.config.attempts - (f.retries + 1) = left := by omega
      exact (ih next before' more soFar' left_eq').again rfl rfl short reached fun purpose =>
        poll_sending_of_waiting purpose repeated
    · have last : f.retries + 1 = s₀.link.config.attempts := by omega
      have found := Air.decisive?_eq_none (last ▸ before')
      have room : s₀.HasRoomFor (s₀.forecastOnAir packet ack draws) :=
        ⟨fits, by rw [length_forecastOnAir_of_exhausted found, ← last]; exact soFar'⟩
      have finishes := exchanging.finishes_of_exhausted h.config completed decides found last
      exact .inl ⟨room, finishes.landsAs exchanging.flying patient reached⟩

end Station

end BurstLink
