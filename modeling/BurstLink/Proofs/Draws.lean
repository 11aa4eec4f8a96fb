import BurstLink.Draws
import Mathlib.Algebra.Ring.Nat

/-! # Random words as one stream

A source of random words replays a list and then repeats its last word. Whatever is drawn from it, a
word, a wide word or any number of bytes, is read off one infinite stream of words, each draw from
where the one before it stopped.

Main definitions:

* **`littleEndian`** — the lowest bytes of a number, least significant first.
* **`Draws.upcoming`**, **`Draws.skip`** — the words that a source has still to give, and the source
  after some of them.
* **`Draws.encodings`** — successive words of a stream as bytes.
* **`Draw`** — one draw, the number of words it takes, and the source after it.

Main statements: each of the three kinds of draw in terms of the upcoming words (`Draws.word_eq`,
`Draws.wide_eq`, `Draws.bytes_eq`), and every draw of every sequence in terms of the list that the
source started from (`Draws.draws_follow_stream`). -/

namespace BurstLink

/-! ## Little-endian encodings -/

/-- The lowest `k` bytes of a number, least significant first. -/
def littleEndian : Nat → Nat → List UInt8
  | 0, _ => []
  | k + 1, v => UInt8.ofNat v :: littleEndian k (v / 256)

@[simp] theorem littleEndian_zero (v : Nat) : littleEndian 0 v = [] := rfl

/-- The lowest byte comes first, and then those of the number shifted right by one byte. -/
theorem littleEndian_succ (k v : Nat) :
    littleEndian (k + 1) v = UInt8.ofNat v :: littleEndian k (v / 256) := rfl

/-- An encoding has as many bytes as asked for, whatever the number. -/
@[simp] theorem length_littleEndian (k v : Nat) : (littleEndian k v).length = k := by
  induction k generalizing v with
  | zero => rfl
  | succ k ih => rw [littleEndian_succ, List.length_cons, ih]

/-- The upper bytes follow the lower ones. -/
theorem littleEndian_add (j k v : Nat) :
    littleEndian (j + k) v = littleEndian j v ++ littleEndian k (v / 256 ^ j) := by
  -- On the lower bytes, for every number: each of them divides what is left by 256.
  induction j generalizing v with
  | zero => simp
  | succ j ih =>
    rw [Nat.add_right_comm, littleEndian_succ, littleEndian_succ, ih, List.cons_append,
      Nat.div_div_eq_div_mul, Nat.pow_succ']

/-- The lower bytes do not see what lies above them. -/
theorem littleEndian_add_mul (k low high : Nat) :
    littleEndian k (low + 256 ^ k * high) = littleEndian k low := by
  -- What lies above is a multiple of 256, and comes down by one byte with each division.
  induction k generalizing low with
  | zero => rfl
  | succ k ih =>
    have lowest : UInt8.ofNat (low + 256 ^ (k + 1) * high) = UInt8.ofNat low := by
      apply UInt8.toNat_inj.1
      rw [UInt8.toNat_ofNat', UInt8.toNat_ofNat', Nat.pow_succ', Nat.mul_assoc]
      exact Nat.add_mul_mod_self_left ..
    have above : (low + 256 ^ (k + 1) * high) / 256 = low / 256 + 256 ^ k * high := by
      rw [Nat.pow_succ', Nat.mul_assoc]
      exact Nat.add_mul_div_left _ _ (by decide)
    rw [littleEndian_succ, littleEndian_succ, lowest, above, ih]

/-- Two numbers, one above the other, are encoded one after the other. -/
theorem littleEndian_append (j k : Nat) {low : Nat} (small : low < 256 ^ j) (high : Nat) :
    littleEndian (j + k) (low + 256 ^ j * high) = littleEndian j low ++ littleEndian k high := by
  have positive : 0 < 256 ^ j := Nat.pow_pos (by decide)
  have above : (low + 256 ^ j * high) / 256 ^ j = high := by
    rw [Nat.add_mul_div_left _ _ positive, Nat.div_eq_of_lt small, Nat.zero_add]
  rw [littleEndian_add, littleEndian_add_mul, above]

namespace Draws

/-- Byte `i` of a word as a number. -/
theorem byteOfWord_eq (w : UInt32) (i : Nat) :
    byteOfWord w i = UInt8.ofNat (w.toNat / 256 ^ i) := by
  have power : 2 ^ (8 * i) = 256 ^ i := Nat.pow_mul 2 8 i
  apply UInt8.toNat_inj.1
  simp [byteOfWord, Nat.shiftRight_eq_div_pow, power]

/-- The bytes of a word are its encoding. -/
theorem wordBytes_eq (w : UInt32) : wordBytes w = littleEndian 4 w.toNat := by
  simp [wordBytes, byteOfWord_eq, littleEndian, Nat.div_div_eq_div_mul]

/-- The bytes of a wide word are its encoding. -/
theorem wideBytes_eq (w : UInt64) : wideBytes w = littleEndian 8 w.toNat := by
  have byte (i : Nat) : (⟨w.toBitVec.extractLsb' (8 * i) 8⟩ : UInt8) =
      UInt8.ofNat (w.toNat / 256 ^ i) := by
    have power : 2 ^ (8 * i) = 256 ^ i := Nat.pow_mul 2 8 i
    apply UInt8.toNat_inj.1
    simp [Nat.shiftRight_eq_div_pow, power]
  simp [wideBytes, byte, List.range_succ, littleEndian, Nat.div_div_eq_div_mul]

/-! ## The upcoming words -/

/-- The words that a source has still to give, counted from 0. -/
def upcoming (d : Draws) (i : Nat) : UInt32 := d.queue.getD i d.rest

/-- The source after `k` words. -/
def skip (k : Nat) (d : Draws) : Draws := { d with queue := d.queue.drop k }

@[simp] theorem skip_zero (d : Draws) : d.skip 0 = d := rfl

/-- Words skipped in two steps are skipped in one. -/
@[simp] theorem skip_skip (d : Draws) (j k : Nat) : (d.skip j).skip k = d.skip (j + k) := by
  simp [skip, List.drop_drop]

/-- The upcoming words of a source that has given `k` are those from word `k` on. -/
@[simp] theorem upcoming_skip (d : Draws) (k i : Nat) :
    (d.skip k).upcoming i = d.upcoming (k + i) := by
  simp [upcoming, skip, List.getD_eq_getElem?_getD, List.getElem?_drop]

/-- A word is the next one. -/
theorem word_eq (d : Draws) : d.word = (d.upcoming 0, d.skip 1) := by
  obtain ⟨queue, rest⟩ := d
  cases queue <;> rfl

/-- A wide word takes two words, the first one low. -/
theorem wide_eq (d : Draws) :
    d.wide = ((d.upcoming 1).toUInt64 <<< 32 ||| (d.upcoming 0).toUInt64, d.skip 2) := by
  simp [wide, word_eq]

/-- A wide word as a number. -/
theorem toNat_wide (d : Draws) :
    d.wide.1.toNat = (d.upcoming 0).toNat + 2 ^ 32 * (d.upcoming 1).toNat := by
  have low : (d.upcoming 0).toNat < 2 ^ 32 := UInt32.toNat_lt _
  have high : (d.upcoming 1).toNat < 2 ^ 32 := UInt32.toNat_lt _
  have fits : 2 ^ 32 * (d.upcoming 1).toNat < 2 ^ 64 := by omega
  have shifted : ((d.upcoming 1).toUInt64 <<< 32).toNat = 2 ^ 32 * (d.upcoming 1).toNat := by
    rw [UInt64.toNat_shiftLeft, UInt32.toNat_toUInt64, Nat.shiftLeft_eq, Nat.mul_comm]
    exact Nat.mod_eq_of_lt fits
  -- The halves have no bit in common, so that putting them together adds them.
  rw [wide_eq, UInt64.toNat_or, shifted, UInt32.toNat_toUInt64, Nat.add_comm]
  exact (Nat.two_pow_add_eq_or_of_lt low _).symm

/-! ## Bytes -/

/-- The words `i`, …, `i + k - 1` of a stream, each as four bytes, one after the other. -/
def encodings (w : Nat → UInt32) (i k : Nat) : List UInt8 :=
  (List.range k).flatMap fun j => littleEndian 4 (w (i + j)).toNat

@[simp] theorem encodings_one (w : Nat → UInt32) (i : Nat) :
    encodings w i 1 = littleEndian 4 (w i).toNat := by
  simp [encodings]

/-- The encodings of some words and of those that follow them. -/
theorem encodings_add (w : Nat → UInt32) (i j k : Nat) :
    encodings w i (j + k) = encodings w i j ++ encodings w (i + j) k := by
  simp [encodings, List.range_add, List.flatMap_map, Nat.add_assoc]

/-- Every word is encoded as four bytes. -/
@[simp] theorem length_encodings (w : Nat → UInt32) (i k : Nat) :
    (encodings w i k).length = 4 * k := by
  induction k with
  | zero => rfl
  | succ k ih =>
    rw [encodings_add, List.length_append, ih, encodings_one, length_littleEndian]
    omega

/-- The encodings of the upcoming words, of a source that has given some. -/
theorem encodings_skip (d : Draws) (j i k : Nat) :
    encodings (d.skip j).upcoming i k = encodings d.upcoming (j + i) k := by
  simp [encodings, Nat.add_assoc]

/-- A wide word is encoded as the two words that it takes. -/
theorem wideBytes_wide (d : Draws) : wideBytes d.wide.1 = encodings d.upcoming 0 2 := by
  have low : (d.upcoming 0).toNat < 256 ^ 4 := UInt32.toNat_lt _
  rw [wideBytes_eq, toNat_wide, encodings_add _ _ 1 1, encodings_one, encodings_one]
  exact littleEndian_append 4 4 low _

/-- Eight bytes and more start with a wide word. -/
theorem bytes_add_eight (n : Nat) (d : Draws) :
    d.bytes (8 + n) = (wideBytes d.wide.1 ++ (d.wide.2.bytes n).1, (d.wide.2.bytes n).2) := by
  rw [bytes, if_pos (Nat.le_add_right 8 n), Nat.add_sub_cancel_left]

/-- More than four bytes, and fewer than eight, are taken from a wide word. -/
theorem bytes_of_wide {n : Nat} (few : n < 8) (many : 4 < n) (d : Draws) :
    d.bytes n = ((wideBytes d.wide.1).take n, d.wide.2) := by
  rw [bytes, if_neg (Nat.not_le.mpr few), if_pos many]

/-- Up to four bytes are taken from a word. -/
theorem bytes_of_word {n : Nat} (few : n ≤ 4) (some' : 0 < n) (d : Draws) :
    d.bytes n = ((wordBytes d.word.1).take n, d.word.2) := by
  rw [bytes, if_neg (by omega), if_neg (Nat.not_lt.mpr few), if_pos some']

@[simp] theorem bytes_zero (d : Draws) : d.bytes 0 = ([], d) := by
  rw [bytes, if_neg (by omega), if_neg (by omega), if_neg (by omega)]

/-- **Bytes are those of the upcoming words**, and of the last word that they take what is not used
up is lost. -/
theorem bytes_eq (n : Nat) (d : Draws) :
    d.bytes n = ((encodings d.upcoming 0 ((n + 3) / 4)).take n, d.skip ((n + 3) / 4)) := by
  -- On the number of bytes, for every source. The cases are those of the definition, and only the
  -- first of them goes on, eight bytes and two words further.
  induction n using Nat.strongRecOn generalizing d with
  | ind n ih =>
    have next : d.wide.2 = d.skip 2 := congrArg Prod.snd d.wide_eq
    by_cases many : 8 ≤ n
    · obtain ⟨n, rfl⟩ := Nat.exists_eq_add_of_le many
      have count : (8 + n + 3) / 4 = 2 + (n + 3) / 4 := by omega
      have whole : (encodings d.upcoming 0 2).length = 8 := length_encodings ..
      rw [bytes_add_eight, next, ih n (by omega),
        wideBytes_wide, count, encodings_add, encodings_skip, skip_skip, ← whole,
        List.take_length_add_append]
    by_cases several : 4 < n
    · have count : (n + 3) / 4 = 2 := by omega
      rw [bytes_of_wide (by omega) several, wideBytes_wide, next, count]
    by_cases none' : n = 0
    · subst none'
      simp
    · have count : (n + 3) / 4 = 1 := by omega
      rw [bytes_of_word (by omega) (by omega), word_eq, wordBytes_eq, count, encodings_one]

/-- **Bytes may be drawn in parts**, as long as every part but the last one takes whole words. -/
theorem bytes_add (k m : Nat) (d : Draws) :
    d.bytes (4 * k + m) = ((d.bytes (4 * k)).1 ++ ((d.bytes (4 * k)).2.bytes m).1,
      ((d.bytes (4 * k)).2.bytes m).2) := by
  have whole : (4 * k + 3) / 4 = k := by omega
  have count : (4 * k + m + 3) / 4 = k + (m + 3) / 4 := by omega
  have length : (encodings d.upcoming 0 k).length = 4 * k := length_encodings ..
  have all : (encodings d.upcoming 0 k).take (4 * k) = encodings d.upcoming 0 k :=
    List.take_of_length_le (Nat.le_of_eq length)
  rw [bytes_eq (4 * k + m), bytes_eq (4 * k), bytes_eq m, whole, count, all, encodings_add,
    encodings_skip, skip_skip, ← length, List.take_length_add_append, Nat.zero_add]
  rfl

end Draws

/-! ## Sequences of draws -/

/-- What can be drawn from a source. -/
inductive Draw
  /-- A word. -/
  | word
  /-- A wide word. -/
  | wide
  /-- A number of bytes. -/
  | bytes (n : Nat)
  deriving DecidableEq

namespace Draw

/-- Number of words that a draw takes: for bytes a quarter of their number, rounded up. -/
def words : Draw → Nat
  | .word => 1
  | .wide => 2
  | .bytes n => (n + 3) / 4

/-- The source after a draw. -/
def perform : Draw → Draws → Draws
  | .word, d => d.word.2
  | .wide, d => d.wide.2
  | .bytes n, d => (d.bytes n).2

/-- A draw takes its words and no other ones. -/
theorem perform_eq (draw : Draw) (d : Draws) : draw.perform d = d.skip draw.words := by
  cases draw with
  | word => exact congrArg Prod.snd d.word_eq
  | wide => exact congrArg Prod.snd d.wide_eq
  | bytes n => exact congrArg Prod.snd (d.bytes_eq n)

end Draw

namespace Draws

/-- The source after some draws. -/
def after (d : Draws) (draws : List Draw) : Draws := draws.foldl (fun d draw => draw.perform d) d

/-- Number of words that some draws take. -/
def taken (draws : List Draw) : Nat := (draws.map Draw.words).sum

/-- Draws take their words one after the other. -/
theorem after_eq (d : Draws) (draws : List Draw) : d.after draws = d.skip (taken draws) := by
  induction draws generalizing d with
  | nil => rfl
  | cons draw later ih =>
    have next : d.after (draw :: later) = (draw.perform d).after later := rfl
    rw [next, ih, draw.perform_eq, skip_skip]
    simp [taken]

/-- The words of a list, followed by repetitions of its last one, or by zeros if it is empty. -/
def stream (words : List UInt32) (i : Nat) : UInt32 := words.getD i (words.getLastD 0)

/-- The source stands at word `i` of a stream: this is what each kind of draw gives. -/
structure StandsAt (w : Nat → UInt32) (i : Nat) (d : Draws) : Prop where
  /-- A word is word `i`. -/
  word : d.word.1 = w i
  /-- A wide word is made of words `i` and `i + 1`, the first one low. -/
  wide : d.wide.1.toNat = (w i).toNat + 2 ^ 32 * (w (i + 1)).toNat
  /-- Bytes are as many as asked for. -/
  length : ∀ n, (d.bytes n).1.length = n
  /-- Bytes are the first ones of the words from `i` on, each encoded as four bytes. -/
  bytes : ∀ n, (d.bytes n).1 = (encodings w i ((n + 3) / 4)).take n
  /-- Bytes may be drawn in parts, if all parts but the last one take whole words. -/
  parts : ∀ k m, d.bytes (4 * k + m) = ((d.bytes (4 * k)).1 ++ ((d.bytes (4 * k)).2.bytes m).1,
    ((d.bytes (4 * k)).2.bytes m).2)

/-- A source stands where its upcoming words begin. -/
theorem standsAt {w : Nat → UInt32} {i : Nat} {d : Draws} (ahead : ∀ j, d.upcoming j = w (i + j)) :
    d.StandsAt w i where
  word := by rw [word_eq, ahead, Nat.add_zero]
  wide := by rw [toNat_wide, ahead, ahead, Nat.add_zero]
  length n := by
    rw [bytes_eq, List.length_take, length_encodings]
    omega
  bytes n := by
    rw [bytes_eq]
    simp only [encodings, ahead, Nat.zero_add]
  parts k m := bytes_add k m d

/-- A source that is made from a list gives the stream of that list. -/
theorem upcoming_ofList {words : List UInt32} {d : Draws} (made : ofList words = .ok d) (i : Nat) :
    d.upcoming i = stream words i := by
  unfold ofList at made
  split at made
  · cases made
    rfl
  · cases made

/-- **Random draws form one word stream.** A list of at most 16 words makes a source, and after any
draws, of words, wide words and bytes in any order, the next draw of any kind starts at the first
word of the stream that none of them took. -/
theorem draws_follow_stream (words : List UInt32) (few : words.length ≤ 16) :
    ∃ d, ofList words = .ok d ∧
      ∀ draws : List Draw, (d.after draws).StandsAt (stream words) (taken draws) := by
  have made : ofList words = .ok ⟨words, words.getLastD 0⟩ := if_pos few
  refine ⟨_, made, fun draws => standsAt fun j => ?_⟩
  rw [after_eq, upcoming_skip, upcoming_ofList made]

/-- Nine bytes take the two words of the list and its last word once more; a wide word after them
repeats that word twice. -/
theorem stream_of_two_words : [0x04030201, 0x80706050].length ≤ 16 ∧
    ∃ d, ofList [0x04030201, 0x80706050] = .ok d ∧
      (d.bytes 9).1 = [1, 2, 3, 4, 0x50, 0x60, 0x70, 0x80, 0x50] ∧
      (d.after [.bytes 9]).wide.1.toNat = 0x8070605080706050 := by
  obtain ⟨d, made, follows⟩ := draws_follow_stream [0x04030201, 0x80706050] (by decide)
  exact ⟨by decide, d, made, (follows []).bytes 9, (follows [.bytes 9]).wide⟩

end Draws

end BurstLink
