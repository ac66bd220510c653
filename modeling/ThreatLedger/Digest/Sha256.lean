/-
  SHA-256: the fingerprint of an artifact.

  1. **Padding** — a message is followed by a set bit, zeros and its length in bits, so that it fills whole
     blocks of 64 bytes.
  2. **Schedule** — the 16 words of a block are stretched to 64; the next word depends on the 16 before it.
  3. **Rounds** — eight words of state go through 64 rounds a block and are added to what they were.
-/
import ThreatLedger.Bytes

namespace ThreatLedger.Sha256

/-! ## Padding -/

/-- The bytes of a number, the most significant one first. -/
def bigEndian : Nat → Nat → Bytes
  | 0, _ => []
  | k + 1, n => UInt8.ofNat (n / Nat.pow 256 k) :: bigEndian k n

/-- How many bytes a block has. -/
def blockSize : Nat := 64

/-- How many zeros stand between the mark behind a message and its length. -/
def zeros (length : Nat) : Nat := (blockSize - (length + 9) % blockSize) % blockSize

/-- A message that fills whole blocks. -/
def pad (message : Bytes) : Bytes :=
  message ++ 0x80 :: (List.replicate (zeros message.length) 0 ++ bigEndian 8 (8 * message.length))

/-! ## Schedule -/

/-- The words of four bytes each. -/
def words : Bytes → List UInt32
  | a :: b :: c :: d :: r =>
    (a.toUInt32 <<< 24 ||| b.toUInt32 <<< 16 ||| c.toUInt32 <<< 8 ||| d.toUInt32) :: words r
  | _ => []

/-- A word turned to the right. -/
def rotate (x : UInt32) (n : UInt32) : UInt32 := x >>> n ||| x <<< (32 - n)

/-- Word `i` of a list. -/
def nth (ws : List UInt32) (i : Nat) : UInt32 := (ws[i]?).getD 0

/-- The word that follows 16 words. -/
def nextWord (window : List UInt32) : UInt32 :=
  let x := nth window 1
  let y := nth window 14
  nth window 0 + (rotate x 7 ^^^ rotate x 18 ^^^ x >>> 3) + nth window 9
    + (rotate y 17 ^^^ rotate y 19 ^^^ y >>> 10)

/-- The first words of the schedule that starts with `window`. -/
def schedule : Nat → List UInt32 → List UInt32
  | 0, _ => []
  | n + 1, window => nth window 0 :: schedule n (window.drop 1 ++ [nextWord window])

/-! ## Rounds -/

/-- The state: eight words. -/
structure State where
  a : UInt32
  b : UInt32
  c : UInt32
  d : UInt32
  e : UInt32
  f : UInt32
  g : UInt32
  h : UInt32
  deriving DecidableEq, Repr

/-- The state before the first block: 32 bits behind the point of the square roots of the first eight
primes. -/
def State.initial : State :=
  ⟨0x6a09e667, 0xbb67ae85, 0x3c6ef372, 0xa54ff53a, 0x510e527f, 0x9b05688c, 0x1f83d9ab, 0x5be0cd19⟩

/-- A constant for each round: 32 bits behind the point of the cube roots of the first 64 primes. -/
def roundConstants : List UInt32 :=
  [0x428a2f98, 0x71374491, 0xb5c0fbcf, 0xe9b5dba5, 0x3956c25b, 0x59f111f1,
    0x923f82a4, 0xab1c5ed5, 0xd807aa98, 0x12835b01, 0x243185be, 0x550c7dc3,
    0x72be5d74, 0x80deb1fe, 0x9bdc06a7, 0xc19bf174, 0xe49b69c1, 0xefbe4786,
    0x0fc19dc6, 0x240ca1cc, 0x2de92c6f, 0x4a7484aa, 0x5cb0a9dc, 0x76f988da,
    0x983e5152, 0xa831c66d, 0xb00327c8, 0xbf597fc7, 0xc6e00bf3, 0xd5a79147,
    0x06ca6351, 0x14292967, 0x27b70a85, 0x2e1b2138, 0x4d2c6dfc, 0x53380d13,
    0x650a7354, 0x766a0abb, 0x81c2c92e, 0x92722c85, 0xa2bfe8a1, 0xa81a664b,
    0xc24b8b70, 0xc76c51a3, 0xd192e819, 0xd6990624, 0xf40e3585, 0x106aa070,
    0x19a4c116, 0x1e376c08, 0x2748774c, 0x34b0bcb5, 0x391c0cb3, 0x4ed8aa4a,
    0x5b9cca4f, 0x682e6ff3, 0x748f82ee, 0x78a5636f, 0x84c87814, 0x8cc70208,
    0x90befffa, 0xa4506ceb, 0xbef9a3f7, 0xc67178f2]

namespace State

/-- One round, with a constant and a word of the schedule. -/
def round (s : State) (constant word : UInt32) : State :=
  let turned := rotate s.e 6 ^^^ rotate s.e 11 ^^^ rotate s.e 25
  let choice := (s.e &&& s.f) ^^^ (~~~s.e &&& s.g)
  let x := s.h + turned + choice + constant + word
  let majority := (s.a &&& s.b) ^^^ (s.a &&& s.c) ^^^ (s.b &&& s.c)
  let y := (rotate s.a 2 ^^^ rotate s.a 13 ^^^ rotate s.a 22) + majority
  ⟨x + y, s.a, s.b, s.c, s.d + x, s.e, s.f, s.g⟩

/-- The sum of two states, word by word. -/
def add (s t : State) : State :=
  ⟨s.a + t.a, s.b + t.b, s.c + t.c, s.d + t.d, s.e + t.e, s.f + t.f, s.g + t.g, s.h + t.h⟩

/-- The state after one more block. -/
def absorb (s : State) (block : Bytes) : State :=
  s.add <| (roundConstants.zip (schedule 64 (words block))).foldl (fun s x => s.round x.1 x.2) s

/-- The state after the blocks of a padded message. -/
def absorbAll (s : State) (message : Bytes) : State :=
  if message.isEmpty then s else absorbAll (s.absorb (message.take blockSize)) (message.drop blockSize)
termination_by message.length
decreasing_by
  have : 0 < message.length := by simp_all [List.length_pos_iff]
  simp only [List.length_drop, blockSize]
  omega

/-- The bytes of a state. -/
def bytes (s : State) : Bytes :=
  [s.a, s.b, s.c, s.d, s.e, s.f, s.g, s.h].flatMap fun w => bigEndian 4 w.toNat

end State

/-- The digest of a message: 32 bytes. -/
def digest (message : Bytes) : Bytes := (State.initial.absorbAll (pad message)).bytes

end ThreatLedger.Sha256
