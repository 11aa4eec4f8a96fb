/-! # Written form of structured values

Reports and messages show values in one notation: a record as `Name` and its fields between
braces, a constructor with arguments as `Name(a, b)`, a sequence between square brackets. The
printers of the domain types are built from the functions of this module.

Main definitions: **`showRecord`**, **`showApplied`**, **`showSequence`**, and **`showBytes`**, a
sequence of byte values in decimal. -/

namespace BurstLink

/-- A record: its name, then the named fields between braces. -/
def showRecord (name : String) (fields : List (String × String)) : String :=
  let inner := ", ".intercalate (fields.map fun field => field.1 ++ ": " ++ field.2)
  name ++ " \x7b " ++ inner ++ " \x7d"

/-- A constructor applied to arguments. -/
def showApplied (name : String) (arguments : List String) : String :=
  name ++ "(" ++ ", ".intercalate arguments ++ ")"

/-- A sequence of written items between square brackets. -/
def showSequence (items : List String) : String :=
  "[" ++ ", ".intercalate items ++ "]"

/-- A truth value in words. -/
def showFlag (b : Bool) : String := if b then "true" else "false"

/-- A byte in decimal. -/
def showByte (b : UInt8) : String := toString b.toNat

/-- A sequence of bytes in decimal. -/
def showBytes (bytes : List UInt8) : String := showSequence (bytes.map showByte)

end BurstLink
