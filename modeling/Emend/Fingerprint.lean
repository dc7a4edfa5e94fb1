import Emend.Fingerprint.Mixing

/-!
# Fingerprints

A fingerprint is a 64-bit digest of a text's UTF-8 bytes, equal for equal texts.
It is the 64-bit variant of XXH3 without a seed, which treats inputs of
different lengths in different ways: up to 16, up to 128, up to 240 bytes, and
beyond.

* `fingerprint` is the digest of a text.
-/

namespace Emend

namespace Fingerprint

/-- The digest of up to sixteen bytes. -/
def ofShort (bytes : Array UInt8) : UInt64 :=
  let n := bytes.size
  let len := n.toUInt64
  if n = 0 then avalancheShort (key 56 ^^^ key 64)
  else if n ≤ 3 then
    let byte := fun i => (bytes.getD i 0).toUInt64
    let joined := (byte 0 <<< 16) ||| (byte (n / 2) <<< 24) ||| byte (n - 1) ||| (len <<< 8)
    avalancheShort (joined ^^^ (read32 secret 0 ^^^ read32 secret 4))
  else if n ≤ 8 then
    let joined := read32 bytes (n - 4) + (read32 bytes 0 <<< 32)
    let h := joined ^^^ (key 8 ^^^ key 16)
    let h := (h ^^^ rotate h 49 ^^^ rotate h 24) * mixer2
    let h := (h ^^^ ((h >>> 35) + len)) * mixer2
    h ^^^ (h >>> 28)
  else
    let lo := read64 bytes 0 ^^^ (key 24 ^^^ key 32)
    let hi := read64 bytes (n - 8) ^^^ (key 40 ^^^ key 48)
    avalanche (len + swapBytes lo + hi + foldProduct lo hi)

/-- The sum of words. -/
def sum (words : List UInt64) : UInt64 := words.foldl (· + ·) 0

/-- The digest of 17 to 128 bytes: pairs of blocks from both ends towards the middle. -/
def ofMiddle (bytes : Array UInt8) : UInt64 :=
  let n := bytes.size
  let pairs := (n - 1) / 32 + 1
  let blocks := (List.range pairs).map fun i =>
    mix16 bytes (16 * i) (32 * i) + mix16 bytes (n - 16 * (i + 1)) (32 * i + 16)
  avalanche (n.toUInt64 * prime1 + sum blocks)

/-- The digest of 129 to 240 bytes. -/
def ofLonger (bytes : Array UInt8) : UInt64 :=
  let n := bytes.size
  let first := (List.range 8).map fun i => mix16 bytes (16 * i) (16 * i)
  let acc := avalanche (n.toUInt64 * prime1 + sum first)
  let more := (List.range (n / 16 - 8)).map fun i => mix16 bytes (16 * (i + 8)) (16 * i + 3)
  avalanche (acc + sum more + mix16 bytes (n - 16) 119)

/-! ## Long inputs -/

/-- The eight accumulators at the start. -/
def initialLanes : List UInt64 :=
  [smallPrime3, prime1, prime2, prime3, prime4, smallPrime2, prime5, smallPrime1]

/-- Exchange neighbours. -/
def swapPairs {α : Type} : List α → List α
  | a :: b :: rest => b :: a :: swapPairs rest
  | rest => rest

/-- The lower half of a word times its upper half. -/
def halvesProduct (w : UInt64) : UInt64 := (w &&& (0xFFFFFFFF : UInt64)) * (w >>> (32 : UInt64))

/-- Take in a stripe of 64 bytes: each lane gets its product, and the data of its neighbour. -/
def accumulate (bytes : Array UInt8) (lanes : List UInt64) (index keyIndex : Nat) :
    List UInt64 :=
  let data := (List.range 8).map fun i => read64 bytes (index + 8 * i)
  let products := data.zipIdx.map fun (d, i) => halvesProduct (d ^^^ key (keyIndex + 8 * i))
  List.zipWith (· + ·) lanes (List.zipWith (· + ·) products (swapPairs data))

/-- Stir the lanes after a block of sixteen stripes. -/
def scramble (lanes : List UInt64) : List UInt64 :=
  lanes.zipIdx.map fun (a, i) =>
    ((a ^^^ (a >>> 47)) ^^^ key (128 + 8 * i)) * smallPrime1

/-- The number of stripes in a block. -/
def stripesPerBlock : Nat := 16

/-- Take in some stripes of a block. -/
def accumulateStripes (bytes : Array UInt8) (block count : Nat) (lanes : List UInt64) :
    List UInt64 :=
  (List.range count).foldl (fun lanes i =>
    accumulate bytes lanes (64 * (stripesPerBlock * block + i)) (8 * i)) lanes

/-- Put two lanes together with the secret. -/
def mergeLanes : (keyIndex : Nat) → List UInt64 → UInt64
  | keyIndex, a :: b :: rest =>
    foldProduct (a ^^^ key keyIndex) (b ^^^ key (keyIndex + 8)) + mergeLanes (keyIndex + 16) rest
  | _, _ => 0

/-- The digest of more than 240 bytes. -/
def ofLong (bytes : Array UInt8) : UInt64 :=
  let n := bytes.size
  let blocks := (n - 1) / 1024
  let lanes := (List.range blocks).foldl (fun lanes b =>
    scramble (accumulateStripes bytes b stripesPerBlock lanes)) initialLanes
  let lanes := accumulateStripes bytes blocks ((n - 1 - 1024 * blocks) / 64) lanes
  -- the last stripe ends where the input ends, so it may overlap the one before
  let lanes := accumulate bytes lanes (n - 64) 121
  avalanche (n.toUInt64 * prime1 + mergeLanes 11 lanes)

/-- The digest of some bytes. -/
def ofBytes (bytes : Array UInt8) : UInt64 :=
  if bytes.size ≤ 16 then ofShort bytes
  else if bytes.size ≤ 128 then ofMiddle bytes
  else if bytes.size ≤ 240 then ofLonger bytes
  else ofLong bytes

end Fingerprint

/-- The fingerprint of a text. -/
def fingerprint (text : String) : UInt64 := Fingerprint.ofBytes text.toUTF8.data

end Emend
