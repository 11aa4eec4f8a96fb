import BurstLink.Presence
import Mathlib.Data.List.Induction

/-! # The table of a presence scan

A scan takes detections one after the other into a table with room for sixteen devices. A device
keeps its place from when it was detected first; its signal strength is that of its last detection,
also when the table is full. What detections make of an empty table can be said without the table.

Main definitions:

* **`Sightings.table`** — the table after some detections.
* **`Sightings.Lists`** — a list of devices, in terms of the detections alone.

Main statements: the table is that list (`Sightings.lists_table`), and no other one is
(`Sightings.Lists.eq_table`). -/

namespace BurstLink

namespace Sightings

variable {ds list : List Detection} {d e : Detection}

/-- The table after some detections. -/
def table (ds : List Detection) : List Detection := ds.foldl (fun found d => see d found) []

/-- The last detection is the last one that the table sees. -/
theorem table_concat (ds : List Detection) (d : Detection) : table (ds ++ [d]) = see d (table ds) :=
  List.foldl_append

/-- More detections go into the table that there is. -/
theorem foldl_table (ds more : List Detection) :
    more.foldl (fun found d => see d found) (table ds) = table (ds ++ more) :=
  List.foldl_append.symm

/-- A device is known if its address is in the table. -/
theorem knows_iff {mac : Vector UInt8 macLength} :
    knows mac list = true ↔ mac ∈ list.map Detection.mac := by
  simp [knows]

/-- An address is listed once more only if it is new. -/
theorem eraseDups_concat {α : Type} [BEq α] [LawfulBEq α] (l : List α) (a : α) :
    (l ++ [a]).eraseDups = l.eraseDups ++ if l.contains a then [] else [a] := by
  rw [List.eraseDups_append]
  congr 1
  cases known : l.contains a with
  | true => simp [List.removeAll, List.contains_iff_mem.mp known]
  | false =>
    have new : a ∉ l := fun listed => by simp [listed] at known
    simp [List.removeAll, new, List.eraseDups_cons]

/-! ## What the table lists -/

/-- The devices among some detections: the first sixteen of them, in the order of their first
detections, each once and with the signal strength of its last one. -/
structure Lists (ds list : List Detection) : Prop where
  /-- The first sixteen addresses. -/
  macs : list.map Detection.mac = (ds.map Detection.mac).eraseDups.take maxPresenceDevices
  /-- No address twice. -/
  distinct : (list.map Detection.mac).Nodup
  /-- Each entry is the last detection of its device. -/
  latest : ∀ e ∈ list, (ds.filter fun d => d.mac == e.mac).getLast? = some e

/-- The addresses after one more detection. -/
theorem Lists.macs_see (h : Lists ds list) (d : Detection) : (see d list).map Detection.mac =
    ((ds ++ [d]).map Detection.mac).eraseDups.take maxPresenceDevices := by
  rw [map_mac_see, List.map_append, List.map_singleton, eraseDups_concat, h.macs]
  by_cases known : d.mac ∈ list.map Detection.mac
  · -- the device is in the table, so it was detected before
    have before : d.mac ∈ ds.map Detection.mac := by
      rw [h.macs] at known
      exact List.mem_eraseDups.mp (List.mem_of_mem_take known)
    simp [knows_iff.mpr known, before]
  · have unknown : knows d.mac list = false := by
      rw [← Bool.not_eq_true]
      exact fun yes => known (knows_iff.mp yes)
    have length : list.length = min maxPresenceDevices (ds.map Detection.mac).eraseDups.length := by
      rw [← List.length_take, ← h.macs, List.length_map]
    by_cases full : maxPresenceDevices ≤ list.length
    · -- there is no room for it, and sixteen devices come before it
      have enough : maxPresenceDevices ≤ (ds.map Detection.mac).eraseDups.length := by omega
      simp [unknown, isFull, full, List.take_append_of_le_length enough]
    · -- there is room: all devices detected before are in the table, and this one is not
      have few : (ds.map Detection.mac).eraseDups.length < maxPresenceDevices := by omega
      have all : (ds.map Detection.mac).eraseDups.take maxPresenceDevices =
          (ds.map Detection.mac).eraseDups := List.take_of_length_le (Nat.le_of_lt few)
      have new : d.mac ∉ ds.map Detection.mac := by
        intro before
        rw [h.macs, all] at known
        exact known (List.mem_eraseDups.mpr before)
      have fits : ((ds.map Detection.mac).eraseDups ++ [d.mac]).length ≤ maxPresenceDevices := by
        rw [List.length_append]
        exact few
      simp [unknown, isFull, full, new, all, List.take_of_length_le fits]

/-- No address gets a second entry. -/
theorem nodup_see (distinct : (list.map Detection.mac).Nodup) (d : Detection) :
    ((see d list).map Detection.mac).Nodup := by
  rw [map_mac_see]
  by_cases known : d.mac ∈ list.map Detection.mac
  · simpa [knows_iff.mpr known] using distinct
  · split
    · simpa using distinct
    · exact List.nodup_append.mpr ⟨distinct, by simp, by
        intro mac listed other is
        rw [List.mem_singleton.mp is]
        exact fun same => known (same ▸ listed)⟩

/-- The entries after one more detection: the detection itself, and those of the other devices. -/
theorem mem_see (member : e ∈ see d list) :
    e = d ∨ e ∈ list ∧ e.mac ≠ d.mac := by
  unfold see at member
  split at member
  · obtain ⟨known, listed, rfl⟩ := List.mem_map.mp member
    by_cases same : known.mac = d.mac
    · rw [if_pos same]
      exact .inl (by rw [same])
    · rw [if_neg same]
      exact .inr ⟨listed, same⟩
  · rename_i unknown
    have other : e ∈ list → e.mac ≠ d.mac := fun listed same =>
      unknown (knows_iff.mpr (List.mem_map.mpr ⟨e, listed, same⟩))
    split at member
    · exact .inr ⟨member, other member⟩
    · rcases List.mem_append.mp member with listed | is
      · exact .inr ⟨listed, other listed⟩
      · exact .inl (List.mem_singleton.mp is)

/-- Each entry is the last detection of its device still after one more detection. -/
theorem Lists.latest_see (h : Lists ds list) (member : e ∈ see d list) :
    ((ds ++ [d]).filter fun d => d.mac == e.mac).getLast? = some e := by
  rw [List.filter_append]
  rcases mem_see member with rfl | ⟨listed, other⟩
  · simp
  · have apart : (d.mac == e.mac) = false := beq_false_of_ne other.symm
    simpa [apart] using h.latest e listed

/-- **The table lists the devices among the detections.** The induction is on the detections, from
the last one. -/
theorem lists_table (ds : List Detection) : Lists ds (table ds) := by
  induction ds using List.reverseRecOn with
  | nil => exact ⟨rfl, List.nodup_nil, fun e listed => absurd listed List.not_mem_nil⟩
  | append_singleton ds d ih =>
    rw [table_concat]
    exact ⟨ih.macs_see d, nodup_see ih.distinct d, fun e member => ih.latest_see member⟩

/-- **Nothing else lists them**: the addresses are given in their order, and with each address its
last detection. -/
theorem Lists.eq_table (h : Lists ds list) : list = table ds := by
  have same := lists_table ds
  have macs : list.map Detection.mac = (table ds).map Detection.mac := h.macs.trans same.macs.symm
  have length : list.length = (table ds).length := by
    simpa using congrArg List.length macs
  refine List.ext_getElem length fun i inside inside' => ?_
  have mac : list[i].mac = (table ds)[i].mac := by
    simpa [inside, inside'] using congrArg (fun macs => macs[i]?) macs
  have mine := h.latest list[i] (List.getElem_mem inside)
  have other := same.latest (table ds)[i] (List.getElem_mem inside')
  rw [← mac, mine] at other
  exact Option.some.inj other

end Sightings

end BurstLink
