/-!
# The XXH64 hash

The 64-bit xxHash of a list of bytes with seed zero. Four accumulators take in stripes of 32 bytes;
what is left is taken in by words of eight, then four bytes, then byte by byte, and the result is mixed
so that every bit of the input bears on every bit of the hash. All arithmetic is modulo 2^64.
-/

namespace OntologySchema.XXH64

def prime1 : UInt64 := 0x9E3779B185EBCA87
def prime2 : UInt64 := 0xC2B2AE3D27D4EB4F
def prime3 : UInt64 := 0x165667B19E3779F9
def prime4 : UInt64 := 0x85EBCA77C2B2AE63
def prime5 : UInt64 := 0x27D4EB2F165667C5

/-- Rotate to the left by `r` bits, `0 < r < 64`. -/
def rotate (x r : UInt64) : UInt64 := (x <<< r) ||| (x >>> (64 - r))

/-- The number that bytes denote, the least significant first. -/
def littleEndian (bytes : List UInt8) : UInt64 :=
  bytes.foldr (fun b acc => b.toUInt64 + (acc <<< 8)) 0

/-- Take a word into an accumulator. -/
def round (acc word : UInt64) : UInt64 := rotate (acc + word * prime2) 31 * prime1

/-- Merge an accumulator into the hash. -/
def mergeRound (hash acc : UInt64) : UInt64 := (hash ^^^ round 0 acc) * prime1 + prime4

/-- The four accumulators. -/
structure Lanes where
  a : UInt64
  b : UInt64
  c : UInt64
  d : UInt64

/-- The accumulators before any input. -/
def Lanes.start : Lanes := ⟨prime1 + prime2, prime2, 0, 0 - prime1⟩

/-- Take in the stripes of 32 bytes, as many as `stripes` says; the rest of the input is given back. -/
def takeStripes (lanes : Lanes) (input : List UInt8) : Nat → Lanes × List UInt8
  | 0 => (lanes, input)
  | stripes + 1 =>
    takeStripes
      ⟨round lanes.a (littleEndian (input.take 8)),
       round lanes.b (littleEndian ((input.drop 8).take 8)),
       round lanes.c (littleEndian ((input.drop 16).take 8)),
       round lanes.d (littleEndian ((input.drop 24).take 8))⟩
      (input.drop 32) stripes

/-- The hash of the accumulators. -/
def Lanes.merge (l : Lanes) : UInt64 :=
  let hash := rotate l.a 1 + rotate l.b 7 + rotate l.c 12 + rotate l.d 18
  mergeRound (mergeRound (mergeRound (mergeRound hash l.a) l.b) l.c) l.d

/-- Take in the last bytes, fewer than 32. -/
def takeRest (hash : UInt64) : List UInt8 → UInt64
  | b0 :: b1 :: b2 :: b3 :: b4 :: b5 :: b6 :: b7 :: rest =>
    let word := littleEndian [b0, b1, b2, b3, b4, b5, b6, b7]
    takeRest (rotate (hash ^^^ round 0 word) 27 * prime1 + prime4) rest
  | b0 :: b1 :: b2 :: b3 :: rest =>
    let word := littleEndian [b0, b1, b2, b3]
    takeRest (rotate (hash ^^^ word * prime1) 23 * prime2 + prime3) rest
  | b :: rest => takeRest (rotate (hash ^^^ b.toUInt64 * prime5) 11 * prime1) rest
  | [] => hash

/-- Spread every bit over the whole hash. -/
def avalanche (hash : UInt64) : UInt64 :=
  let h := (hash ^^^ (hash >>> 33)) * prime2
  let h := (h ^^^ (h >>> 29)) * prime3
  h ^^^ (h >>> 32)

/-- The hash of a list of bytes. -/
def hash (bytes : List UInt8) : UInt64 :=
  let (lanes, rest) := takeStripes .start bytes (bytes.length / 32)
  let merged := if bytes.length < 32 then prime5 else lanes.merge
  avalanche (takeRest (merged + UInt64.ofNat bytes.length) rest)

end OntologySchema.XXH64
