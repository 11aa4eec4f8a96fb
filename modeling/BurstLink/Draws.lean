import BurstLink.Bits
import BurstLink.Failure

/-! # Random words

The simulated losses draw 32-bit words from a source that replays a given list and then repeats
its last word; with no list it gives zeros. Wider draws are put together from words, the first
word drawn being the low one, and bytes are taken from both kinds least significant byte first.

Main definitions:

* **`Draws`** — the words still to replay and the one repeated after them.
* **`Draws.word`**, **`Draws.wide`**, **`Draws.bytes`** — the three kinds of draw. -/

namespace BurstLink

/-- A source of random words. -/
structure Draws where
  /-- Words still to be replayed, in order. -/
  queue : List UInt32
  /-- The word repeated after them. -/
  rest : UInt32
  deriving DecidableEq

namespace Draws

/-- The source that replays nothing and gives zeros. -/
def zeros : Draws := ⟨[], 0⟩

instance : Inhabited Draws := ⟨zeros⟩

/-- The source that replays the given words, of which there may be 16. -/
def ofList (words : List UInt32) : Except Overflow Draws :=
  if words.length ≤ Overflow.draws.limit then .ok ⟨words, words.getLastD 0⟩ else .error .draws

/-- Draws one word. -/
def word (d : Draws) : UInt32 × Draws :=
  match d.queue with
  | [] => (d.rest, d)
  | w :: queue => (w, { d with queue := queue })

/-- Draws two words and joins them, the first one low. -/
def wide (d : Draws) : UInt64 × Draws :=
  let (low, d) := d.word
  let (high, d) := d.word
  (high.toUInt64 <<< 32 ||| low.toUInt64, d)

/-- The bytes of a word, least significant first. -/
def wordBytes (w : UInt32) : List UInt8 :=
  [byteOfWord w 0, byteOfWord w 1, byteOfWord w 2, byteOfWord w 3]

/-- The bytes of a wide word, least significant first. -/
def wideBytes (w : UInt64) : List UInt8 :=
  (List.range 8).map fun i => ⟨w.toBitVec.extractLsb' (8 * i) 8⟩

/-- Draws as many bytes as asked for: eight at a time from wide words, and of what is left more than
four bytes from a wide word and up to four from a single one. What is not used up of the last word
is lost. -/
def bytes (n : Nat) (d : Draws) : List UInt8 × Draws :=
  if 8 ≤ n then
    let (w, d) := d.wide
    let (later, d) := bytes (n - 8) d
    (wideBytes w ++ later, d)
  else if 4 < n then
    let (w, d) := d.wide
    ((wideBytes w).take n, d)
  else if 0 < n then
    let (w, d) := d.word
    ((wordBytes w).take n, d)
  else ([], d)
termination_by n

/-- Decides a loss of the given percentage; a percentage of zero draws no word. -/
def loses (percent : UInt8) (d : Draws) : Bool × Draws :=
  if percent = 0 then (false, d)
  else
    let (w, d) := d.word
    (decide (w % 100 < percent.toUInt32), d)

/-- A source of zeros gives zeros forever. -/
@[simp] theorem word_zeros : zeros.word = (0, zeros) := rfl

end Draws

end BurstLink
