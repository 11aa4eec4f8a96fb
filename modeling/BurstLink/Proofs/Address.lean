import BurstLink.Address
import Mathlib.Logic.Function.Basic

/-! # Addresses in registers

An address written into the two registers is read back from them, whatever the upper bytes of the
prefix register hold, and every pair of register values stands for an address that encodes to it.
So the encoding loses nothing: the forty bits of an address are the base register and the lowest
byte of the prefix register, in another order.

Main statements:

* **`getLsbD_reverseEachByte`** — where each bit of a word goes when its bytes are reversed.
* **`Address.ofRegisters_base_pipePrefix`**, **`Address.base_ofRegisters`**,
  **`Address.pipePrefix_ofRegisters`** — the two round trips.
* **`Address.registers_biject`** — the encoding is a bijection, and what it does to each bit. -/

namespace BurstLink

/-- Reversing the bits of every byte twice gives the word back. -/
@[simp] theorem reverseEachByte_reverseEachByte (w : UInt32) :
    reverseEachByte (reverseEachByte w) = w := by
  have bytes := byteOfWord_wordOfBytes (reverseByte (byteOfWord w 3)) (reverseByte (byteOfWord w 2))
    (reverseByte (byteOfWord w 1)) (reverseByte (byteOfWord w 0))
  obtain ⟨h₃, h₂, h₁, h₀⟩ := bytes
  rw [reverseEachByte_eq w, reverseEachByte_eq, h₃, h₂, h₁, h₀]
  simp

/-- Byte `i` of a word whose bytes are reversed is byte `i` of the word, reversed. -/
theorem byteOfWord_reverseEachByte (w : UInt32) (i : Fin 4) :
    byteOfWord (reverseEachByte w) i = reverseByte (byteOfWord w i) := by
  obtain ⟨h₃, h₂, h₁, h₀⟩ := byteOfWord_wordOfBytes (reverseByte (byteOfWord w 3))
    (reverseByte (byteOfWord w 2)) (reverseByte (byteOfWord w 1)) (reverseByte (byteOfWord w 0))
  rw [← reverseEachByte_eq] at h₃ h₂ h₁ h₀
  match i with
  | 0 => exact h₀
  | 1 => exact h₁
  | 2 => exact h₂
  | 3 => exact h₃

/-- **Bit `j` of byte `i` goes to bit `7 - j` of the same byte.** -/
theorem getLsbD_reverseEachByte (w : UInt32) (i : Fin 4) (j : Fin 8) :
    (reverseEachByte w).toBitVec.getLsbD (8 * i + (7 - j)) = w.toBitVec.getLsbD (8 * i + j) := by
  have hj : 7 - j.val < 8 := by omega
  have back : 7 - (7 - j.val) = j.val := by omega
  rw [← getLsbD_byteOfWord _ i _ hj, byteOfWord_reverseEachByte, getLsbD_reverseByte, back,
    getLsbD_byteOfWord _ i _ j.isLt]
  simp [hj]

/-- Words agree as soon as their four bytes do. -/
theorem word_ext {v w : UInt32} (h : ∀ i : Fin 4, byteOfWord v i = byteOfWord w i) : v = w := by
  have h₃ := h 3
  have h₂ := h 2
  have h₁ := h 1
  have h₀ := h 0
  rw [← wordOfBytes_byteOfWord v, ← wordOfBytes_byteOfWord w]
  exact congr (congr (congr (congrArg wordOfBytes h₃) h₂) h₁) h₀

/-- The lowest byte of a word whose lowest byte was replaced. -/
theorem byteOfWord_replaced (w : UInt32) (b : UInt8) :
    byteOfWord ((w &&& 0xffffff00) ||| b.toUInt32) 0 = b := by
  have mask : ∀ j : Fin 8, (0xffffff00 : UInt32).toBitVec.getLsbD (0 + j.val) = false := by decide
  apply UInt8.toBitVec_inj.1
  apply BitVec.eq_of_getLsbD_eq
  intro i hi
  simp only [byteOfWord, UInt32.toBitVec_or, UInt32.toBitVec_and, UInt8.toBitVec_toUInt32,
    BitVec.getLsbD_extractLsb', BitVec.getLsbD_or, BitVec.getLsbD_and, BitVec.getLsbD_setWidth,
    Nat.mul_zero]
  rw [mask ⟨i, hi⟩, Bool.and_false, Bool.false_or]
  simp [hi, show i < 32 by omega]

/-- The other bytes of a word whose lowest byte was replaced. -/
theorem byteOfWord_replaced_upper (w : UInt32) (b : UInt8) (i : Fin 3) :
    byteOfWord ((w &&& 0xffffff00) ||| b.toUInt32) (i + 1) = byteOfWord w (i + 1) := by
  have mask : ∀ (i : Fin 3) (j : Fin 8),
      (0xffffff00 : UInt32).toBitVec.getLsbD (8 * (i.val + 1) + j.val) = true := by decide
  apply UInt8.toBitVec_inj.1
  apply BitVec.eq_of_getLsbD_eq
  intro j hj
  -- The new byte ends below the bits in question, and the mask keeps every one of them.
  have above : b.toBitVec.getLsbD (8 * (i.val + 1) + j) = false :=
    BitVec.getLsbD_of_ge _ _ (by omega)
  rw [getLsbD_byteOfWord _ _ _ hj, getLsbD_byteOfWord _ _ _ hj, UInt32.toBitVec_or,
    UInt32.toBitVec_and, UInt8.toBitVec_toUInt32, BitVec.getLsbD_or, BitVec.getLsbD_and,
    BitVec.getLsbD_setWidth, above, mask i ⟨j, hj⟩, Bool.and_true, Bool.and_false, Bool.or_false]

/-- A word whose lowest byte was replaced, byte by byte. -/
theorem replaced_eq_wordOfBytes (w : UInt32) (b : UInt8) :
    (w &&& 0xffffff00) ||| b.toUInt32 =
      wordOfBytes (byteOfWord w 3) (byteOfWord w 2) (byteOfWord w 1) b := by
  obtain ⟨h₃, h₂, h₁, h₀⟩ :=
    byteOfWord_wordOfBytes (byteOfWord w 3) (byteOfWord w 2) (byteOfWord w 1) b
  apply word_ext
  intro i
  match i with
  | 0 => exact (byteOfWord_replaced w b).trans h₀.symm
  | 1 => exact (byteOfWord_replaced_upper w b 0).trans h₁.symm
  | 2 => exact (byteOfWord_replaced_upper w b 1).trans h₂.symm
  | 3 => exact (byteOfWord_replaced_upper w b 2).trans h₃.symm

/-- The lowest byte of a byte widened to a word. -/
@[simp] theorem byteOfWord_toUInt32 (b : UInt8) : byteOfWord b.toUInt32 0 = b := by
  simpa using byteOfWord_replaced 0 b

/-- The word above the lowest byte does not see that byte. -/
theorem shiftRight_replaced (w : UInt32) (b : UInt8) :
    ((w &&& 0xffffff00) ||| b.toUInt32) >>> 8 = w >>> 8 := by
  apply UInt32.toBitVec_inj.1
  apply BitVec.eq_of_getLsbD_eq
  intro n hn
  have shift : ∀ v : UInt32, (v >>> 8).toBitVec.getLsbD n = v.toBitVec.getLsbD (8 + n) := by
    intro v
    simp [UInt32.toBitVec_shiftRight]
  rw [shift, shift]
  by_cases inside : 8 + n < 32
  · -- Bit `8 + n` lies in one of the three upper bytes.
    have split : 8 + n = 8 * (n / 8 + 1) + n % 8 := by omega
    have small : n % 8 < 8 := Nat.mod_lt _ (by decide)
    have upper := byteOfWord_replaced_upper w b ⟨n / 8, by omega⟩
    rw [split, ← getLsbD_byteOfWord _ _ _ small, ← getLsbD_byteOfWord _ _ _ small, upper]
  · rw [BitVec.getLsbD_of_ge _ _ (by omega), BitVec.getLsbD_of_ge _ _ (by omega)]

/-- **An address written into the registers is read back from them.** -/
@[simp] theorem Address.ofRegisters_base_pipePrefix (a : Address) (current : UInt32) :
    Address.ofRegisters a.base (a.pipePrefix current) = a := by
  obtain ⟨b0, b1, b2, b3, b4⟩ := a
  obtain ⟨h₃, h₂, h₁, h₀⟩ := byteOfWord_wordOfBytes b1 b2 b3 b4
  simp [Address.ofRegisters, Address.base, Address.pipePrefix, byteOfWord_replaced, h₃, h₂, h₁, h₀]

namespace Address

/-- Writing an address over another one leaves what writing it alone leaves. -/
theorem pipePrefix_pipePrefix (a a' : Address) (current : UInt32) :
    a.pipePrefix (a'.pipePrefix current) = a.pipePrefix current := by
  have kept := byteOfWord_replaced_upper current (reverseByte a'.b0)
  simp only [pipePrefix]
  rw [replaced_eq_wordOfBytes _ (reverseByte a.b0), replaced_eq_wordOfBytes _ (reverseByte a.b0)]
  exact congr (congr (congr (congrArg wordOfBytes (kept 2)) (kept 1)) (kept 0)) rfl

/-- The base register of the address that two registers stand for. -/
@[simp] theorem base_ofRegisters (b q : UInt32) : (ofRegisters b q).base = b := by
  simp [ofRegisters, base]

/-- The prefix register after the address that two registers stand for was written into it. -/
theorem pipePrefix_ofRegisters (b q current : UInt32) :
    (ofRegisters b q).pipePrefix current =
      wordOfBytes (byteOfWord current 3) (byteOfWord current 2) (byteOfWord current 1)
        (byteOfWord q 0) := by
  simp [ofRegisters, pipePrefix, replaced_eq_wordOfBytes]

/-- What the registers hold of an address: the base register and the lowest byte of the prefix
register, whatever that register held before. -/
def encoded (current : UInt32) (a : Address) : UInt32 × UInt8 :=
  (a.base, byteOfWord (a.pipePrefix current) 0)

/-- The encoding has an inverse, so it is a bijection. -/
theorem encoded_bijective (current : UInt32) : Function.Bijective (encoded current) := by
  apply Function.bijective_iff_has_inverse.2
  refine ⟨fun r => ofRegisters r.1 r.2.toUInt32, ?_, ?_⟩
  · intro a
    have back := ofRegisters_base_pipePrefix a current
    simpa [encoded, ofRegisters] using back
  · rintro ⟨b, q⟩
    simp only [encoded, base_ofRegisters, pipePrefix_ofRegisters]
    rw [byteOfWord_toUInt32, (byteOfWord_wordOfBytes _ _ _ q).2.2.2]

/-- **The encoding of addresses is a bijection on their bits.** An address written over any prefix
register is read back, and the upper bytes of the register stay; the address read from any two
registers is written back as the same bits; and reversing the bytes of a word is its own inverse
that moves each bit inside its byte. -/
theorem registers_biject :
    (∀ (a : Address) (p : UInt32),
      ofRegisters a.base (a.pipePrefix p) = a ∧ a.pipePrefix p >>> 8 = p >>> 8) ∧
    (∀ b q p : UInt32,
      (ofRegisters b q).base = b ∧
        (ofRegisters b q).pipePrefix p =
          wordOfBytes (byteOfWord p 3) (byteOfWord p 2) (byteOfWord p 1) (byteOfWord q 0)) ∧
    (∀ p : UInt32, Function.Bijective (encoded p)) ∧
    (∀ w : UInt32, reverseEachByte (reverseEachByte w) = w) ∧
    (∀ (w : UInt32) (i : Fin 4) (j : Fin 8),
      (reverseEachByte w).toBitVec.getLsbD (8 * i + (7 - j)) =
        w.toBitVec.getLsbD (8 * i + j)) := by
  refine ⟨?_, ?_, encoded_bijective, reverseEachByte_reverseEachByte, getLsbD_reverseEachByte⟩
  · intro a p
    exact ⟨ofRegisters_base_pipePrefix a p, shiftRight_replaced p _⟩
  · intro b q p
    exact ⟨base_ofRegisters b q, pipePrefix_ofRegisters b q p⟩

/-- A palindrome hides the order of the bits; this address does not. -/
example : base ⟨0x01, 0x01, 0x23, 0x45, 0x80⟩ = 0x80c4a201 := by decide +kernel

end Address

end BurstLink
