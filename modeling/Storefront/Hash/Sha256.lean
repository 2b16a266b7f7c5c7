/-
SHA-256.

The message is padded to whole blocks, and every block is compressed into a state of
eight words.  The words of a block's schedule are kept with the latest one first, so that
each further word looks back at fixed places.
-/

namespace Storefront.Hash

/-- The eight words between blocks. -/
structure Words where
  a : UInt32
  b : UInt32
  c : UInt32
  d : UInt32
  e : UInt32
  f : UInt32
  g : UInt32
  h : UInt32
  deriving DecidableEq, Repr

/-- The state before the first block. -/
def Words.initial : Words :=
  ⟨0x6a09e667, 0xbb67ae85, 0x3c6ef372, 0xa54ff53a, 0x510e527f, 0x9b05688c, 0x1f83d9ab, 0x5be0cd19⟩

/-- The constants of the sixty-four rounds. -/
def roundConstants : List UInt32 :=
  [0x428a2f98, 0x71374491, 0xb5c0fbcf, 0xe9b5dba5, 0x3956c25b, 0x59f111f1, 0x923f82a4, 0xab1c5ed5,
   0xd807aa98, 0x12835b01, 0x243185be, 0x550c7dc3, 0x72be5d74, 0x80deb1fe, 0x9bdc06a7, 0xc19bf174,
   0xe49b69c1, 0xefbe4786, 0x0fc19dc6, 0x240ca1cc, 0x2de92c6f, 0x4a7484aa, 0x5cb0a9dc, 0x76f988da,
   0x983e5152, 0xa831c66d, 0xb00327c8, 0xbf597fc7, 0xc6e00bf3, 0xd5a79147, 0x06ca6351, 0x14292967,
   0x27b70a85, 0x2e1b2138, 0x4d2c6dfc, 0x53380d13, 0x650a7354, 0x766a0abb, 0x81c2c92e, 0x92722c85,
   0xa2bfe8a1, 0xa81a664b, 0xc24b8b70, 0xc76c51a3, 0xd192e819, 0xd6990624, 0xf40e3585, 0x106aa070,
   0x19a4c116, 0x1e376c08, 0x2748774c, 0x34b0bcb5, 0x391c0cb3, 0x4ed8aa4a, 0x5b9cca4f, 0x682e6ff3,
   0x748f82ee, 0x78a5636f, 0x84c87814, 0x8cc70208, 0x90befffa, 0xa4506ceb, 0xbef9a3f7, 0xc67178f2]

/-- A word rotated to the right. -/
def rotate (n : UInt32) (x : UInt32) : UInt32 :=
  x >>> n ||| x <<< (32 - n)

/-! ### The message in blocks -/

/-- A number as so many bytes, the most significant first. -/
def bigEndian : Nat → Nat → List UInt8
  | 0, _ => []
  | size + 1, n => bigEndian size (n / 256) ++ [UInt8.ofNat n]

/-- A message with a one bit, zeros and its length in bits, which fill whole blocks. -/
def padded (message : List UInt8) : List UInt8 :=
  let zeros := (119 - message.length % 64) % 64
  message ++ 0x80 :: List.replicate zeros 0 ++ bigEndian 8 (message.length * 8)

/-- Four bytes as a word, the most significant first. -/
def word (a b c d : UInt8) : UInt32 :=
  a.toUInt32 <<< 24 ||| b.toUInt32 <<< 16 ||| c.toUInt32 <<< 8 ||| d.toUInt32

/-- Bytes as words; bytes that do not fill one are left out. -/
def words : List UInt8 → List UInt32
  | a :: b :: c :: d :: rest => word a b c d :: words rest
  | _ => []

/-! ### Compression -/

/-- The next word of a schedule, of which the latest word comes first. -/
def nextWord (schedule : List UInt32) : UInt32 :=
  let x := schedule.getD 1 0
  let y := schedule.getD 14 0
  let s0 := rotate 7 y ^^^ rotate 18 y ^^^ y >>> 3
  let s1 := rotate 17 x ^^^ rotate 19 x ^^^ x >>> 10
  schedule.getD 15 0 + s0 + schedule.getD 6 0 + s1

/-- A schedule with so many more words. -/
def extend : Nat → List UInt32 → List UInt32
  | 0, schedule => schedule
  | n + 1, schedule => extend n (nextWord schedule :: schedule)

/-- The schedule of a block, in order. -/
def schedule (block : List UInt32) : List UInt32 :=
  (extend 48 block.reverse).reverse

/-- One round, with its constant and its word of the schedule. -/
def Words.round (s : Words) (k w : UInt32) : Words :=
  let t1 := s.h + (rotate 6 s.e ^^^ rotate 11 s.e ^^^ rotate 25 s.e) +
    (s.e &&& s.f ^^^ ~~~s.e &&& s.g) + k + w
  let t2 := (rotate 2 s.a ^^^ rotate 13 s.a ^^^ rotate 22 s.a) +
    (s.a &&& s.b ^^^ s.a &&& s.c ^^^ s.b &&& s.c)
  ⟨t1 + t2, s.a, s.b, s.c, s.d + t1, s.e, s.f, s.g⟩

/-- Two states added word by word. -/
def Words.add (s t : Words) : Words :=
  ⟨s.a + t.a, s.b + t.b, s.c + t.c, s.d + t.d, s.e + t.e, s.f + t.f, s.g + t.g, s.h + t.h⟩

/-- The state after a block. -/
def Words.compress (s : Words) (block : List UInt32) : Words :=
  s.add <|
    (roundConstants.zip (schedule block)).foldl (fun t kw => t.round kw.1 kw.2) s

/-- The state after so many blocks at the start of some words. -/
def Words.absorb : Nat → Words → List UInt32 → Words
  | 0, s, _ => s
  | n + 1, s, ws => absorb n (s.compress (ws.take 16)) (ws.drop 16)

/-- The words of a state as bytes. -/
def Words.bytes (s : Words) : List UInt8 :=
  [s.a, s.b, s.c, s.d, s.e, s.f, s.g, s.h].flatMap fun w => bigEndian 4 w.toNat

/-- The digest of a message. -/
def sha256 (message : List UInt8) : List UInt8 :=
  let ws := words (padded message)
  (Words.absorb (ws.length / 16) .initial ws).bytes

end Storefront.Hash
