/-! # The 64-bit hash XXH64

The XXH64 hash of a byte sequence with seed zero: four lanes consume stripes of 32 bytes, the lanes
are merged, the remaining bytes are mixed in by eights, fours and ones, and the result is spread by
a final avalanche. All arithmetic is modulo `2 ^ 64`.
-/

namespace Membrane.XXH64

def prime1 : UInt64 := 0x9E3779B185EBCA87
def prime2 : UInt64 := 0xC2B2AE3D27D4EB4F
def prime3 : UInt64 := 0x165667B19E3779F9
def prime4 : UInt64 := 0x85EBCA77C2B2AE63
def prime5 : UInt64 := 0x27D4EB2F165667C5

/-- Rotation to the left. -/
def rotateLeft (x : UInt64) (bits : UInt64) : UInt64 := (x <<< bits) ||| (x >>> (64 - bits))

/-- A little-endian word. -/
def word (bytes : List UInt8) : UInt64 :=
  bytes.foldr (fun byte acc => (acc <<< 8) ||| byte.toUInt64) 0

/-- One lane consumes one word. -/
def round (lane input : UInt64) : UInt64 := rotateLeft (lane + input * prime2) 31 * prime1

/-- The four lanes. -/
structure Lanes where
  a : UInt64
  b : UInt64
  c : UInt64
  d : UInt64

/-- The four accumulators before the first block, with seed zero. -/
def Lanes.start : Lanes := ⟨prime1 + prime2, prime2, 0, 0 - prime1⟩

/-- The lanes consume one stripe of 32 bytes. -/
def Lanes.consume (lanes : Lanes) (stripe : List UInt8) : Lanes where
  a := round lanes.a (word (stripe.take 8))
  b := round lanes.b (word ((stripe.drop 8).take 8))
  c := round lanes.c (word ((stripe.drop 16).take 8))
  d := round lanes.d (word ((stripe.drop 24).take 8))

/-- One value for the four lanes. -/
def Lanes.merge (lanes : Lanes) : UInt64 :=
  let start := rotateLeft lanes.a 1 + rotateLeft lanes.b 7 + rotateLeft lanes.c 12 +
    rotateLeft lanes.d 18
  [lanes.a, lanes.b, lanes.c, lanes.d].foldl
    (fun h lane => (h ^^^ round 0 lane) * prime1 + prime4) start

/-- The lanes after `count` stripes, and the bytes left. -/
def stripes : Nat → Lanes → List UInt8 → Lanes × List UInt8
  | 0, lanes, bytes => (lanes, bytes)
  | count + 1, lanes, bytes => stripes count (lanes.consume (bytes.take 32)) (bytes.drop 32)

/-- Mixes in `count` words of eight bytes. -/
def eights : Nat → UInt64 → List UInt8 → UInt64 × List UInt8
  | 0, h, bytes => (h, bytes)
  | count + 1, h, bytes =>
      eights count (rotateLeft (h ^^^ round 0 (word (bytes.take 8))) 27 * prime1 + prime4)
        (bytes.drop 8)

/-- Mixes in a word of four bytes, if there is one. -/
def fours (h : UInt64) (bytes : List UInt8) : UInt64 × List UInt8 :=
  if 4 ≤ bytes.length then
    (rotateLeft (h ^^^ (word (bytes.take 4) * prime1)) 23 * prime2 + prime3, bytes.drop 4)
  else (h, bytes)

/-- Mixes in single bytes. -/
def ones (h : UInt64) (bytes : List UInt8) : UInt64 :=
  bytes.foldl (fun h byte => rotateLeft (h ^^^ (byte.toUInt64 * prime5)) 11 * prime1) h

/-- The final mixing. -/
def avalanche (h : UInt64) : UInt64 :=
  let h := (h ^^^ (h >>> 33)) * prime2
  let h := (h ^^^ (h >>> 29)) * prime3
  h ^^^ (h >>> 32)

/-- The hash of a byte sequence. -/
def hash (bytes : List UInt8) : UInt64 :=
  let size := bytes.length
  let (lanes, rest) := stripes (size / 32) Lanes.start bytes
  -- without a single full stripe the lanes do not count
  let start := (if 32 ≤ size then lanes.merge else prime5) + UInt64.ofNat size
  let (h, rest) := eights (rest.length / 8) start rest
  let (h, rest) := fours h rest
  avalanche (ones h rest)

/-- The hash of a text's UTF-8 bytes. -/
def hashText (text : String) : UInt64 := hash text.toUTF8.toList

end Membrane.XXH64
