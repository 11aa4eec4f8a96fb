/-! # Bit order inside the bytes of a word

The radio sends every byte least significant bit first, the devices it talks to expect the most
significant bit first. This module holds the reversal that bridges the two, on one byte and on
each byte of a 32-bit word.

Main definitions:

* **`reverseByte`** — a byte with its eight bits in reverse order.
* **`wordOfBytes`** — the word with the four given bytes, the most significant byte first.
* **`byteOfWord`** — one byte of a word, counted from the least significant end.
* **`reverseWord`**, **`swapBytes`** — a word with its 32 bits, or its four bytes, in reverse order.
* **`reverseEachByte`** — both of them, one after the other.

Main statements: reversing twice gives the byte back (`reverseByte_reverseByte`), a word is made of
its four bytes (`byteOfWord_wordOfBytes`, `wordOfBytes_byteOfWord`), and `reverseEachByte` reverses
the bits of every byte and leaves the bytes in place (`reverseEachByte_eq`). -/

namespace BurstLink

/-- A byte with its eight bits in reverse order. -/
def reverseByte (b : UInt8) : UInt8 := ⟨b.toBitVec.reverse⟩

/-- The word made of four bytes, the most significant byte first. -/
def wordOfBytes (b₃ b₂ b₁ b₀ : UInt8) : UInt32 :=
  ⟨b₃.toBitVec ++ b₂.toBitVec ++ b₁.toBitVec ++ b₀.toBitVec⟩

/-- Byte `i` of a word, counted from the least significant end. -/
def byteOfWord (w : UInt32) (i : Nat) : UInt8 := ⟨w.toBitVec.extractLsb' (8 * i) 8⟩

/-- A word with its 32 bits in reverse order. -/
def reverseWord (w : UInt32) : UInt32 := ⟨w.toBitVec.reverse⟩

/-- A word with its four bytes in reverse order. -/
def swapBytes (w : UInt32) : UInt32 :=
  wordOfBytes (byteOfWord w 0) (byteOfWord w 1) (byteOfWord w 2) (byteOfWord w 3)

/-- A word with the bits of each byte reversed: all bits are reversed, and the bytes are put back in
their places. -/
def reverseEachByte (w : UInt32) : UInt32 := swapBytes (reverseWord w)

/-! ## Reading the definitions bit by bit -/

/-- Bit `j` of the reversed byte is bit `7 - j` of the byte. -/
theorem getLsbD_reverseByte (b : UInt8) (j : Nat) :
    (reverseByte b).toBitVec.getLsbD j = (decide (j < 8) && b.toBitVec.getLsbD (7 - j)) := by
  simp [reverseByte, BitVec.getLsbD_reverse, BitVec.getMsbD_eq_getLsbD]

/-- Reversing the bits of a byte twice gives the byte back. -/
@[simp] theorem reverseByte_reverseByte (b : UInt8) : reverseByte (reverseByte b) = b := by
  simp [reverseByte]

/-- A word is made of its four bytes. -/
@[simp] theorem wordOfBytes_byteOfWord (w : UInt32) :
    wordOfBytes (byteOfWord w 3) (byteOfWord w 2) (byteOfWord w 1) (byteOfWord w 0) = w := by
  apply UInt32.toBitVec_inj.1
  simp only [wordOfBytes, byteOfWord]
  apply BitVec.eq_of_getLsbD_eq
  intro i hi
  simp only [BitVec.getLsbD_append, BitVec.getLsbD_extractLsb']
  grind

/-- The four bytes of a word made of four bytes are these bytes. -/
theorem byteOfWord_wordOfBytes (b₃ b₂ b₁ b₀ : UInt8) :
    byteOfWord (wordOfBytes b₃ b₂ b₁ b₀) 3 = b₃ ∧ byteOfWord (wordOfBytes b₃ b₂ b₁ b₀) 2 = b₂ ∧
      byteOfWord (wordOfBytes b₃ b₂ b₁ b₀) 1 = b₁ ∧
      byteOfWord (wordOfBytes b₃ b₂ b₁ b₀) 0 = b₀ := by
  refine ⟨?_, ?_, ?_, ?_⟩ <;>
  · apply UInt8.toBitVec_inj.1
    apply BitVec.eq_of_getLsbD_eq
    intro i hi
    simp only [wordOfBytes, byteOfWord, BitVec.getLsbD_append, BitVec.getLsbD_extractLsb']
    grind

/-- Bit `j` of byte `i` of a word, as a bit of the word. -/
theorem getLsbD_byteOfWord (w : UInt32) (i j : Nat) (hj : j < 8) :
    (byteOfWord w i).toBitVec.getLsbD j = w.toBitVec.getLsbD (8 * i + j) := by
  simp [byteOfWord, hj]

/-- When all bits of a word are reversed, each byte comes from the other end, reversed itself. -/
theorem byteOfWord_reverseWord (w : UInt32) (i : Fin 4) :
    byteOfWord (reverseWord w) i = reverseByte (byteOfWord w (3 - i)) := by
  apply UInt8.toBitVec_inj.1
  apply BitVec.eq_of_getLsbD_eq
  intro j hj
  have inside : 8 * i.val + j < 32 := by omega
  have mirrored : 31 - (8 * i.val + j) = 8 * (3 - i.val) + (7 - j) := by omega
  rw [getLsbD_byteOfWord _ _ _ hj, getLsbD_reverseByte, getLsbD_byteOfWord _ _ _ (by omega)]
  rw [show (reverseWord w).toBitVec = w.toBitVec.reverse from rfl, BitVec.getLsbD_reverse,
    BitVec.getMsbD_eq_getLsbD]
  simp [hj, inside, mirrored]

/-- **The bits of every byte are reversed, and the bytes stay in place.** -/
theorem reverseEachByte_eq (w : UInt32) :
    reverseEachByte w = wordOfBytes (reverseByte (byteOfWord w 3)) (reverseByte (byteOfWord w 2))
      (reverseByte (byteOfWord w 1)) (reverseByte (byteOfWord w 0)) := by
  have bytes := byteOfWord_reverseWord w
  unfold reverseEachByte swapBytes
  exact congr (congr (congr (congrArg wordOfBytes (bytes 0)) (bytes 1)) (bytes 2)) (bytes 3)

end BurstLink
