import BurstLink.Bits
import BurstLink.Display

/-! # Device addresses

A device address has five bytes. The radio keeps it in two registers: the base register holds
bytes 1 to 4, the lowest byte of the prefix register holds byte 0. The radio sends bytes least
significant bit first, so every byte is stored with its bits reversed. The upper bytes of the prefix
register belong to other pipes and are left alone.

Main definitions:

* **`Address`** — the five bytes, in transmission order.
* **`Address.base`**, **`Address.pipePrefix`** — the register values of an address.
* **`Address.ofRegisters`** — the address that two register values stand for. -/

namespace BurstLink

/-- Number of bytes of a device address. -/
def addressLength : Nat := 5

/-- A device address, byte 0 first. -/
structure Address where
  /-- Goes to the prefix register. -/
  b0 : UInt8
  /-- Goes to the most significant byte of the base register. -/
  b1 : UInt8
  /-- Second byte of the base register. -/
  b2 : UInt8
  /-- Third byte of the base register. -/
  b3 : UInt8
  /-- Goes to the least significant byte of the base register. -/
  b4 : UInt8
  deriving DecidableEq

namespace Address

/-- The address a device has out of the box. -/
def standard : Address := ⟨0xE7, 0xE7, 0xE7, 0xE7, 0xE7⟩

instance : Inhabited Address := ⟨standard⟩

/-- The bytes of an address, byte 0 first. -/
def toList (a : Address) : List UInt8 := [a.b0, a.b1, a.b2, a.b3, a.b4]

/-- The address with the given bytes, if there are five of them. -/
def ofList? : List UInt8 → Option Address
  | [b0, b1, b2, b3, b4] => some ⟨b0, b1, b2, b3, b4⟩
  | _ => none

/-- Value of the base register: bytes 1 to 4, each with its bits reversed. -/
def base (a : Address) : UInt32 := reverseEachByte (wordOfBytes a.b1 a.b2 a.b3 a.b4)

/-- Value of the prefix register: byte 0 with its bits reversed, below the upper bytes of
`current`. -/
def pipePrefix (a : Address) (current : UInt32) : UInt32 :=
  (current &&& 0xffffff00) ||| (reverseByte a.b0).toUInt32

/-- The address that a base register and a prefix register stand for. -/
def ofRegisters (base pipePrefix : UInt32) : Address :=
  let tail := reverseEachByte base
  { b0 := reverseByte (byteOfWord pipePrefix 0)
    b1 := byteOfWord tail 3
    b2 := byteOfWord tail 2
    b3 := byteOfWord tail 1
    b4 := byteOfWord tail 0 }

/-- An address in reports. -/
def text (a : Address) : String := showApplied "Address" [showBytes a.toList]

/-- An address is read back from its bytes. -/
@[simp] theorem ofList?_toList (a : Address) : ofList? a.toList = some a := rfl

/-- An address has five bytes. -/
@[simp] theorem length_toList (a : Address) : a.toList.length = addressLength := rfl

end Address

end BurstLink
