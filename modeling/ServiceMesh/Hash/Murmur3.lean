import ServiceMesh.Text.Bytes
import ServiceMesh.Text.Form

/-!
# MurmurHash3

The 32-bit x86 variant of MurmurHash3.  Data is read as little-endian words of
four bytes.  Each word is scrambled into the running hash, the last one to three
bytes are scrambled in as a shorter word, and the length and a final avalanche
close the hash.

`routingHash` is the hash of the lower-case form of a key.  Providers and callers
meet under it, so it ignores case.
-/

namespace ServiceMesh.Hash

/-- Rotates a word to the left. -/
def rotateLeft (x : UInt32) (n : UInt32) : UInt32 := (x <<< n) ||| (x >>> (32 - n))

/-- Scrambles one word of data. -/
def scramble (k : UInt32) : UInt32 := rotateLeft (k * 0xcc9e2d51) 15 * 0x1b873593

/-- Mixes a full word into the running hash. -/
def mixWord (h k : UInt32) : UInt32 := rotateLeft (h ^^^ scramble k) 13 * 5 + 0xe6546b64

/-- The word that up to four bytes write, lowest byte first. -/
def wordOf : Bytes → UInt32
  | [] => 0
  | b :: rest => b.toUInt32 ||| (wordOf rest <<< 8)

/-- The running hash after all words, the short last one included. -/
def mixAll (h : UInt32) : Bytes → UInt32
  | a :: b :: c :: d :: rest => mixAll (mixWord h (wordOf [a, b, c, d])) rest
  | [] => h
  | tail => h ^^^ scramble (wordOf tail)

/-- Spreads every bit of the hash over all bits. -/
def avalanche (h : UInt32) : UInt32 :=
  let h := (h ^^^ (h >>> 16)) * 0x85ebca6b
  let h := (h ^^^ (h >>> 13)) * 0xc2b2ae35
  h ^^^ (h >>> 16)

/-- The 32-bit MurmurHash3 of `data`. -/
def murmur3 (data : Bytes) (seed : UInt32) : UInt32 :=
  avalanche (mixAll seed data ^^^ UInt32.ofNat data.length)

/-- The seed of every routing hash. -/
def routingSeed : UInt32 := 0

/-- The hash under which a key is routed, the same for every spelling of its
case. -/
def routingHash (key : String) : UInt32 := murmur3 (utf8 (Text.lowercase key)) routingSeed

end ServiceMesh.Hash
