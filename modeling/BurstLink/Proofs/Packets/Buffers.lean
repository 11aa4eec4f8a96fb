import BurstLink.Proofs.Custody.Bench
import BurstLink.Proofs.Packets.Access
import BurstLink.Proofs.Packets.Looks

/-! # Buffers

Every send has two buffers of its own. A look at an operation touches the packets in its buffers
only: it stamps the one that goes out and overwrites the one for the acknowledgement.

Main definitions:

* **`Packet.Alike`** — two packets that differ at most in their identifier.
* **`Activity.handles`** — the buffers of an operation.

Main statements: what a look does to packets, identifiers and the sign of completion
(`Activity.Traffic.get_of_not_mem`, `Activity.Traffic.alike`, `Activity.Traffic.outgoing`,
`Activity.Traffic.stamped`, `Activity.Traffic.pid`, `Activity.Traffic.completed`). -/

namespace BurstLink

/-! ## Identifiers on packets -/

namespace Packet

variable {p q r : Packet}

/-- A packet has one identifier: the one stamped last. -/
@[simp] theorem setPid_setPid (first last : Pid) (p : Packet) :
    (p.setPid first).setPid last = p.setPid last := by
  obtain ⟨length, ⟨s1⟩, data⟩ := p
  obtain ⟨v⟩ := first
  obtain ⟨w⟩ := last
  have kept : (((⟨s1⟩ : UInt8) &&& (1 : UInt8) ||| (⟨v⟩ : Pid).toByte <<< (1 : UInt8)) &&&
        (1 : UInt8) ||| (⟨w⟩ : Pid).toByte <<< (1 : UInt8)) =
      ((⟨s1⟩ : UInt8) &&& (1 : UInt8) ||| (⟨w⟩ : Pid).toByte <<< (1 : UInt8)) := by
    clear length data
    revert v w s1
    decide +kernel
  simp only [setPid, kept]

/-- The packets differ at most in their identifier. -/
def Alike (p q : Packet) : Prop := p.setPid .zero = q.setPid .zero

@[refl] theorem Alike.refl (p : Packet) : p.Alike p := rfl

theorem Alike.trans (h : p.Alike q) (h' : q.Alike r) : p.Alike r := Eq.trans h h'

/-- A stamp makes no difference to likeness. -/
theorem alike_setPid (id : Pid) (p : Packet) : (p.setPid id).Alike p := setPid_setPid id .zero p

/-- Packets that are alike become the same with the same identifier. -/
theorem Alike.setPid_eq (h : p.Alike q) (id : Pid) : p.setPid id = q.setPid id := by
  have stamped := congrArg (Packet.setPid id) h
  rwa [setPid_setPid, setPid_setPid] at stamped

/-- Packets that are alike differ at most in the byte of the identifier. -/
theorem Alike.eq_with (h : p.Alike q) : p = { q with s1 := p.s1 } := by
  obtain ⟨length, s1, data⟩ := p
  obtain ⟨length', s1', data'⟩ := q
  obtain ⟨rfl, -, rfl⟩ := Packet.mk.inj h
  rfl

end Packet

/-! ## What a look does -/

namespace Station

/-- The lock touches no buffer. -/
theorem buffers_setLocked (locked : Bool) (s : Station) :
    (s.setLocked locked).buffers = s.buffers := rfl

theorem radio_setLocked (locked : Bool) (s : Station) : (s.setLocked locked).radio = s.radio := rfl

theorem link_setLocked (locked : Bool) (s : Station) : (s.setLocked locked).link = s.link := rfl

theorem completed_setLocked (locked : Bool) (s : Station) :
    (s.setLocked locked).completed = s.completed := rfl

end Station

namespace Activity

open Station

variable {s : Station} {activity rest : Activity} {found : Station × Progress} {b : Buffer}

/-- The buffers of an operation. -/
def handles (activity : Activity) : List Buffer :=
  activity.buffers?.elim [] fun own => [own.1, own.2]

/-- The handles of an operation are the two that it has, if it has any. -/
theorem mem_handles : b ∈ activity.handles ↔
    ∃ own, activity.buffers? = some own ∧ (b = own.1 ∨ b = own.2) := by
  cases h : activity.buffers? <;> simp [handles, h]

/-- An activity that has nothing to send has no buffers. -/
theorem buffers?_of_not_sends (silent : activity.sends = false) : activity.buffers? = none := by
  cases activity with
  | queued request =>
    cases request with
    | send packet ack => exact absurd silent (by simp [sends])
    | _ => rfl
  | sending f purpose => exact absurd silent (by simp [sends])
  | _ => rfl

/-- An operation that is not a send has nothing on the air. -/
theorem outgoing?_of_not_sends (silent : activity.sends = false) (s : Station) :
    activity.outgoing? s = none := by
  cases activity with
  | queued request =>
    cases request with
    | send packet ack => exact absurd silent (by simp [sends])
    | sendPayload bytes => exact absurd silent (by simp [sends])
    | scanChannels first last bytes => exact absurd silent (by simp [sends])
    | _ => rfl
  | sending f purpose => exact absurd silent (by simp [sends])
  | _ => rfl

/-- What an operation sends depends on the packet in its first buffer only. -/
theorem outgoing?_congr {t : Station}
    (same : ∀ own, activity.buffers? = some own → t.buffers.get own.1 = s.buffers.get own.1) :
    activity.outgoing? t = activity.outgoing? s := by
  cases activity with
  | queued request =>
    cases request with
    | send packet ack => exact congrArg some (same _ rfl)
    | _ => rfl
  | sending f purpose => exact congrArg some (same _ rfl)
  | _ => rfl

namespace Traffic

/-- Buffers are added, never removed. -/
theorem count (h : activity.Traffic s found) : s.buffers.count ≤ found.1.buffers.count := by
  cases h with
  | unchanged => exact Nat.le_refl _
  | spared kept => exact kept.count
  | repeated retries was kept =>
    rw [buffers_setLocked, count_fly]
    exact kept.count
  | admitted purpose kept =>
    rw [buffers_setLocked, count_takeOff]
    exact kept.count

/-- A look puts nothing on air. -/
theorem history (h : activity.Traffic s found) :
    found.1.radio.air.history = s.radio.air.history := by
  cases h with
  | unchanged => rfl
  | spared kept => exact kept.history
  | repeated retries was kept =>
    rw [radio_setLocked, history_fly]
    exact kept.history
  | admitted purpose kept =>
    rw [radio_setLocked, history_takeOff]
    exact kept.history

/-- **The identifier of the next send moves on with each send that passes the checks, and only
then.** -/
theorem pid (h : activity.Traffic s found) : found.1.link.pid =
    if activity.admits s then s.link.pid.next else s.link.pid := by
  cases h with
  | unchanged untaken refused =>
    rw [refused]
    rfl
  | spared kept taken refused =>
    rw [refused]
    exact kept.pid
  | repeated retries was kept refused =>
    rw [refused, link_setLocked, link_fly]
    exact kept.pid
  | admitted purpose kept passed =>
    rw [passed, link_setLocked, pid_takeOff, kept.pid]
    rfl

/-- A sign of completion that is up after a look was up before it, and the look was none at a
send. -/
theorem completed (h : activity.Traffic s found) (done : found.1.completed = true) :
    s.completed = true ∧ activity.flight?.isSome = false := by
  have unlooked : ∀ t : Station, t.completed = true →
      (activity.flight?.isSome → t.completed = false) → activity.flight?.isSome = false := by
    intro t on down
    cases flying : activity.flight?.isSome with
    | false => rfl
    | true => exact absurd (on.symm.trans (down flying)) (by simp)
  cases h with
  | unchanged untaken => exact ⟨done, unlooked s done untaken⟩
  | spared kept taken => exact ⟨kept.completed done, unlooked _ done taken⟩
  | repeated =>
    rw [completed_setLocked, completed_fly] at done
    exact absurd done (by simp)
  | admitted =>
    rw [completed_setLocked, completed_takeOff] at done
    exact absurd done (by simp)

/-- A look after which nothing is being sent has sent nothing. -/
theorem spares (h : activity.Traffic s found)
    (silent : ∀ f purpose, found.2 ≠ .waiting (.sending f purpose)) : s.Spares found.1 := by
  cases h with
  | unchanged => exact s.spares_setLocked _
  | spared kept => exact kept
  | repeated => exact absurd rfl (silent _ _)
  | admitted => exact absurd rfl (silent _ _)

/-- A look that lets a send pass leaves a send in progress. -/
theorem sending_of_admits (h : activity.Traffic s found) (passed : activity.admits s = true) :
    ∃ f purpose, found.2 = .waiting (.sending f purpose) := by
  cases h with
  | unchanged untaken refused => exact absurd (passed.symm.trans refused) (by simp)
  | spared kept taken refused => exact absurd (passed.symm.trans refused) (by simp)
  | repeated retries was kept refused => exact absurd (passed.symm.trans refused) (by simp)
  | admitted => exact ⟨_, _, rfl⟩

/-- A look touches no packet but those of the operation that is looked at. -/
theorem get_of_not_mem (h : activity.Traffic s found) (known : b.index < s.buffers.count)
    (other : b ∉ activity.handles) : found.1.buffers.get b = s.buffers.get b := by
  have apart : ∀ {own}, activity.buffers? = some own → b ≠ own.1 ∧ b ≠ own.2 := by
    intro own has
    constructor
    · exact fun eq => other (mem_handles.mpr ⟨own, has, .inl eq⟩)
    · exact fun eq => other (mem_handles.mpr ⟨own, has, .inr eq⟩)
  have fresh : ∀ new : Buffer, s.buffers.count ≤ new.index → b ≠ new := by
    rintro new beyond rfl
    exact absurd known (Nat.not_lt.mpr beyond)
  cases h with
  | unchanged => rfl
  | spared kept => exact kept.packets b known
  | @repeated u f purpose retries was kept =>
    have noAck : b ≠ f.ack := (apart (congrArg buffers? was)).2
    rw [buffers_setLocked, get_fly (f := { f with retries := retries }) noAck]
    exact kept.packets b known
  | @admitted u packet ack purpose kept passed outgoing own =>
    have others : b ≠ packet ∧ b ≠ ack := by
      rcases own with has | ⟨-, new, new'⟩
      · exact apart has
      · exact ⟨fresh packet new, fresh ack new'⟩
    rw [buffers_setLocked, get_takeOff_of_ne others.1 others.2]
    exact kept.packets b known

/-- The buffers of what goes on: those it had, none, or new ones. -/
theorem buffers (h : activity.Traffic s found) (goesOn : found.2 = .waiting rest) :
    rest.buffers? = activity.buffers? ∨ activity.buffers? = none ∧
      (rest.buffers? = none ∨ ∃ packet ack, rest.buffers? = some (packet, ack) ∧ packet ≠ ack ∧
        (s.buffers.count ≤ packet.index ∧ packet.index < found.1.buffers.count) ∧
        (s.buffers.count ≤ ack.index ∧ ack.index < found.1.buffers.count)) := by
  cases h with
  | unchanged =>
    obtain rfl := Look.waiting.inj goesOn
    exact .inl rfl
  | spared kept taken refused silent =>
    obtain ⟨was, is⟩ := silent rest goesOn
    exact .inl ((buffers?_of_not_sends is).trans (buffers?_of_not_sends was).symm)
  | repeated retries was kept =>
    obtain rfl := Look.waiting.inj goesOn
    exact .inl (congrArg buffers? was).symm
  | @admitted u packet ack purpose kept passed outgoing own apart known =>
    obtain rfl := Look.waiting.inj goesOn
    rw [buffers_setLocked, count_takeOff]
    rcases own with has | ⟨none', new, new'⟩
    · exact .inl has.symm
    · exact .inr ⟨none', .inr ⟨packet, ack, rfl, apart, ⟨new, known.1⟩, ⟨new', known.2⟩⟩⟩

/-- **The packet of a send in progress**: a send that passed the checks in this look has stamped it
with the identifier of the link, and a send that was in progress before leaves it alone. -/
theorem stamped (h : activity.Traffic s found) (fits : activity.Fits s) {f : Flight}
    {purpose : Purpose} (goesOn : found.2 = .waiting (.sending f purpose)) :
    (∃ p, activity.admits s = true ∧ activity.outgoing? s = some p ∧
        found.1.buffers.get f.packet = p.setPid s.link.pid) ∨
      activity.admits s = false ∧
        (∃ before purpose', activity = .sending before purpose' ∧ before.packet = f.packet) ∧
        found.1.buffers.get f.packet = s.buffers.get f.packet := by
  cases h with
  | unchanged untaken refused =>
    obtain rfl := Look.waiting.inj goesOn
    exact .inr ⟨refused, ⟨f, purpose, rfl, rfl⟩, rfl⟩
  | spared kept taken refused silent => exact absurd (silent _ goesOn).2 (by simp [sends])
  -- a further attempt sends the packet as it was stamped for the first one
  | @repeated u f₀ purpose₀ retries was kept refused =>
    obtain ⟨flight, -⟩ := sending.inj (Look.waiting.inj goesOn)
    have same : f₀.packet = f.packet := by
      rw [← flight]
      rfl
    subst was
    obtain ⟨apart, known, -⟩ := fits f₀.packet f₀.ack rfl
    rw [← same, buffers_setLocked, get_fly (f := { f₀ with retries := retries }) apart]
    exact .inr ⟨refused, ⟨f₀, purpose₀, rfl, rfl⟩, kept.packets _ known⟩
  | @admitted u packet ack purpose₀ kept passed outgoing own apart =>
    obtain ⟨flight, -⟩ := sending.inj (Look.waiting.inj goesOn)
    have same : packet = f.packet := by
      rw [← flight]
      rfl
    rw [← same, buffers_setLocked, get_takeOff apart, kept.pid]
    exact .inl ⟨u.buffers.get packet, passed, outgoing, rfl⟩

/-- **What goes on sends what it was to send**, up to the identifier. -/
theorem outgoing (h : activity.Traffic s found) (fits : activity.Fits s)
    (goesOn : found.2 = .waiting rest) :
    (rest.outgoing? found.1).map (Packet.setPid .zero) =
      (activity.outgoing? s).map (Packet.setPid .zero) := by
  have inFlight : ∀ f purpose, rest = .sending f purpose →
      (rest.outgoing? found.1).map (Packet.setPid .zero) =
        (activity.outgoing? s).map (Packet.setPid .zero) := by
    rintro f purpose rfl
    rcases h.stamped fits goesOn with ⟨p, -, sent, same⟩ | ⟨-, ⟨before, -, rfl, as⟩, same⟩
    · rw [sent]
      exact congrArg some ((congrArg (Packet.setPid .zero) same).trans (Packet.setPid_setPid ..))
    · have kept : found.1.buffers.get f.packet = s.buffers.get before.packet := by rw [same, as]
      exact congrArg some (congrArg (Packet.setPid .zero) kept)
  cases h with
  | unchanged =>
    obtain rfl := Look.waiting.inj goesOn
    rfl
  | spared kept taken refused silent =>
    obtain ⟨was, is⟩ := silent rest goesOn
    rw [outgoing?_of_not_sends was, outgoing?_of_not_sends is]
  | repeated => exact inFlight _ _ (Look.waiting.inj goesOn).symm
  | admitted => exact inFlight _ _ (Look.waiting.inj goesOn).symm

/-- **A look stamps packets at most**, acknowledgements apart. -/
theorem alike (h : activity.Traffic s found) (known : b.index < s.buffers.count)
    (noAck : ∀ own, activity.buffers? = some own → b ≠ own.2) :
    (found.1.buffers.get b).Alike (s.buffers.get b) := by
  by_cases other : b ∈ activity.handles
  · obtain ⟨⟨p, a⟩, has, rfl | eq⟩ := mem_handles.mp other
    · have apart := noAck _ has
      cases h with
      | unchanged => rfl
      | spared kept => exact congrArg (Packet.setPid .zero) (kept.packets _ known)
      | @repeated u f purpose retries was kept =>
        rw [was] at has
        obtain ⟨rfl, rfl⟩ := Prod.mk.inj (Option.some.inj has)
        rw [buffers_setLocked, get_fly (f := { f with retries := retries }) apart]
        exact congrArg (Packet.setPid .zero) (kept.packets _ known)
      | @admitted u packet ack purpose kept passed outgoing own =>
        rcases own with has' | ⟨none', -⟩
        · obtain ⟨rfl, rfl⟩ := Prod.mk.inj (Option.some.inj (has.symm.trans has'))
          rw [buffers_setLocked, get_takeOff apart, ← kept.packets _ known]
          exact Packet.alike_setPid ..
        · exact absurd (has.symm.trans none') (by simp)
    · exact absurd eq (noAck _ has)
  · exact congrArg (Packet.setPid .zero) (h.get_of_not_mem known other)

end Traffic

end Activity

end BurstLink
