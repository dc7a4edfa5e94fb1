/-!
# Mixing of words

The arithmetic of the fingerprint: constants, the secret that inputs are mixed
with, and the steps that spread the bits of a word. All arithmetic is modulo
`2 ^ 64`; bytes are read least significant first.
-/

namespace Emend.Fingerprint

/-- The first prime of 32 bits. -/
def smallPrime1 : UInt64 := 0x9E3779B1
/-- The second prime of 32 bits. -/
def smallPrime2 : UInt64 := 0x85EBCA77
/-- The third prime of 32 bits. -/
def smallPrime3 : UInt64 := 0xC2B2AE3D
/-- The first prime of 64 bits. -/
def prime1 : UInt64 := 0x9E3779B185EBCA87
/-- The second prime of 64 bits. -/
def prime2 : UInt64 := 0xC2B2AE3D27D4EB4F
/-- The third prime of 64 bits. -/
def prime3 : UInt64 := 0x165667B19E3779F9
/-- The fourth prime of 64 bits. -/
def prime4 : UInt64 := 0x85EBCA77C2B2AE63
/-- The fifth prime of 64 bits. -/
def prime5 : UInt64 := 0x27D4EB2F165667C5

/-- The multiplier of the last step of long inputs. -/
def mixer1 : UInt64 := 0x165667919E3779F9
/-- The multiplier of the last step of inputs of four to eight bytes. -/
def mixer2 : UInt64 := 0x9FB21C651E98DF25

/-- The secret. -/
def secret : Array UInt8 := #[
  0xb8, 0xfe, 0x6c, 0x39, 0x23, 0xa4, 0x4b, 0xbe, 0x7c, 0x01, 0x81, 0x2c, 0xf7, 0x21, 0xad, 0x1c,
  0xde, 0xd4, 0x6d, 0xe9, 0x83, 0x90, 0x97, 0xdb, 0x72, 0x40, 0xa4, 0xa4, 0xb7, 0xb3, 0x67, 0x1f,
  0xcb, 0x79, 0xe6, 0x4e, 0xcc, 0xc0, 0xe5, 0x78, 0x82, 0x5a, 0xd0, 0x7d, 0xcc, 0xff, 0x72, 0x21,
  0xb8, 0x08, 0x46, 0x74, 0xf7, 0x43, 0x24, 0x8e, 0xe0, 0x35, 0x90, 0xe6, 0x81, 0x3a, 0x26, 0x4c,
  0x3c, 0x28, 0x52, 0xbb, 0x91, 0xc3, 0x00, 0xcb, 0x88, 0xd0, 0x65, 0x8b, 0x1b, 0x53, 0x2e, 0xa3,
  0x71, 0x64, 0x48, 0x97, 0xa2, 0x0d, 0xf9, 0x4e, 0x38, 0x19, 0xef, 0x46, 0xa9, 0xde, 0xac, 0xd8,
  0xa8, 0xfa, 0x76, 0x3f, 0xe3, 0x9c, 0x34, 0x3f, 0xf9, 0xdc, 0xbb, 0xc7, 0xc7, 0x0b, 0x4f, 0x1d,
  0x8a, 0x51, 0xe0, 0x4b, 0xcd, 0xb4, 0x59, 0x31, 0xc8, 0x9f, 0x7e, 0xc9, 0xd9, 0x78, 0x73, 0x64,
  0xea, 0xc5, 0xac, 0x83, 0x34, 0xd3, 0xeb, 0xc3, 0xc5, 0x81, 0xa0, 0xff, 0xfa, 0x13, 0x63, 0xeb,
  0x17, 0x0d, 0xdd, 0x51, 0xb7, 0xf0, 0xda, 0x49, 0xd3, 0x16, 0x55, 0x26, 0x29, 0xd4, 0x68, 0x9e,
  0x2b, 0x16, 0xbe, 0x58, 0x7d, 0x47, 0xa1, 0xfc, 0x8f, 0xf8, 0xb8, 0xd1, 0x7a, 0xd0, 0x31, 0xce,
  0x45, 0xcb, 0x3a, 0x8f, 0x95, 0x16, 0x04, 0x28, 0xaf, 0xd7, 0xfb, 0xca, 0xbb, 0x4b, 0x40, 0x7e]

/-- The word of `count` bytes at an index. -/
def readBytes (bytes : Array UInt8) (index count : Nat) : UInt64 :=
  (List.range count).foldr (fun i w => (w <<< 8) ||| (bytes.getD (index + i) 0).toUInt64) 0

/-- The word of four bytes at an index. -/
def read32 (bytes : Array UInt8) (index : Nat) : UInt64 := readBytes bytes index 4

/-- The word of eight bytes at an index. -/
def read64 (bytes : Array UInt8) (index : Nat) : UInt64 := readBytes bytes index 8

/-- The secret's word of eight bytes at an index. -/
def key (index : Nat) : UInt64 := read64 secret index

/-- The word with its bytes in reverse order. -/
def swapBytes (w : UInt64) : UInt64 :=
  (List.range 8).foldl (fun r i => (r <<< 8) ||| ((w >>> (8 * i).toUInt64) &&& 0xFF)) 0

/-- Rotate to the left. -/
def rotate (w : UInt64) (n : UInt64) : UInt64 := (w <<< n) ||| (w >>> (64 - n))

/-- The two halves of the product of 128 bits, put together by exclusive or. -/
def foldProduct (a b : UInt64) : UInt64 :=
  let product := a.toNat * b.toNat
  (product % UInt64.size).toUInt64 ^^^ (product / UInt64.size).toUInt64

/-- Spread the bits of a word, for inputs without or with up to three bytes. -/
def avalancheShort (h : UInt64) : UInt64 :=
  let h := (h ^^^ (h >>> 33)) * prime2
  let h := (h ^^^ (h >>> 29)) * prime3
  h ^^^ (h >>> 32)

/-- Spread the bits of a word. -/
def avalanche (h : UInt64) : UInt64 :=
  let h := (h ^^^ (h >>> 37)) * mixer1
  h ^^^ (h >>> 32)

/-- Mix sixteen bytes with sixteen bytes of the secret. -/
def mix16 (bytes : Array UInt8) (index keyIndex : Nat) : UInt64 :=
  foldProduct (read64 bytes index ^^^ key keyIndex)
    (read64 bytes (index + 8) ^^^ key (keyIndex + 8))

end Emend.Fingerprint
