import Conformance.Shell.Octets

/-!
# Digests

Short numbers that are made from many bytes, by which these can be known again.  The bytes are filled up to
whole blocks, behind which their number stands, and the blocks are taken in one after the other.
-/

namespace Conformance.Shell

namespace Digest

/-! ## Blocks -/

/-- A number as bytes, the greatest or the least part first. -/
def numberBytes (isBigEndian : Bool) (size n : Nat) : List UInt8 :=
  let bytes := (List.range size).map fun i => UInt8.ofNat (n >>> (8 * i))
  if isBigEndian then bytes.reverse else bytes

/-- Bytes filled up to whole blocks, with the number of their bits at the end. -/
def filled (isBigEndian : Bool) (block lengthSize : Nat) (bytes : ByteArray) : ByteArray :=
  let zeros := (block - (bytes.size + 1 + lengthSize) % block) % block
  let tail := 0x80 :: List.replicate zeros 0 ++ numberBytes isBigEndian lengthSize (8 * bytes.size)
  tail.foldl ByteArray.push bytes

/-- The word that stands at a place. -/
def wordAt (isBigEndian : Bool) (size : Nat) (bytes : ByteArray) (place : Nat) : UInt64 :=
  (List.range size).foldl (fun n i =>
    let b := (bytes[place + (if isBigEndian then i else size - 1 - i)]?).getD 0
    n <<< 8 ||| b.toUInt64) 0

/-- The words of a block. -/
def wordsAt (isBigEndian : Bool) (size count : Nat) (bytes : ByteArray) (place : Nat) : Array UInt64 :=
  (Array.range count).map fun i => wordAt isBigEndian size bytes (place + size * i)

/-- Take in the blocks of bytes one after the other. -/
def overBlocks {σ : Type} (block : Nat) (bytes : ByteArray) (start : σ) (step : σ → Nat → σ) : σ :=
  (List.range (bytes.size / block)).foldl (fun s i => step s (block * i)) start

/-- The bytes of words. -/
def bytesOfWords (isBigEndian : Bool) (size : Nat) (words : List Nat) : List UInt8 :=
  words.flatMap (numberBytes isBigEndian size)

/-- Turn the bits of a word of thirty-two bits to the left. -/
def turnLeft (x n : UInt32) : UInt32 :=
  x <<< n ||| x >>> (32 - n)

/-! ## Digests of sixteen bytes -/

/-- How far words are turned, for each part of the steps. -/
def md5Turns : Array UInt32 :=
  #[7, 12, 17, 22, 5, 9, 14, 20, 4, 11, 16, 23, 6, 10, 15, 21]

/-- What is added in each step: the sine of its number, as a fraction. -/
def md5Words : Array UInt32 :=
  #[0xd76aa478, 0xe8c7b756, 0x242070db, 0xc1bdceee, 0xf57c0faf, 0x4787c62a, 0xa8304613, 0xfd469501,
    0x698098d8, 0x8b44f7af, 0xffff5bb1, 0x895cd7be, 0x6b901122, 0xfd987193, 0xa679438e, 0x49b40821,
    0xf61e2562, 0xc040b340, 0x265e5a51, 0xe9b6c7aa, 0xd62f105d, 0x02441453, 0xd8a1e681, 0xe7d3fbc8,
    0x21e1cde6, 0xc33707d6, 0xf4d50d87, 0x455a14ed, 0xa9e3e905, 0xfcefa3f8, 0x676f02d9, 0x8d2a4c8a,
    0xfffa3942, 0x8771f681, 0x6d9d6122, 0xfde5380c, 0xa4beea44, 0x4bdecfa9, 0xf6bb4b60, 0xbebfbc70,
    0x289b7ec6, 0xeaa127fa, 0xd4ef3085, 0x04881d05, 0xd9d4d039, 0xe6db99e5, 0x1fa27cf8, 0xc4ac5665,
    0xf4292244, 0x432aff97, 0xab9423a7, 0xfc93a039, 0x655b59c3, 0x8f0ccc92, 0xffeff47d, 0x85845dd1,
    0x6fa87e4f, 0xfe2ce6e0, 0xa3014314, 0x4e0811a1, 0xf7537e82, 0xbd3af235, 0x2ad7d2bb, 0xeb86d391]

/-- Four words. -/
structure FourWords where
  a : UInt32
  b : UInt32
  c : UInt32
  d : UInt32

/-- One step with the words of a block. -/
def md5Step (words : Array UInt64) (s : FourWords) (i : Nat) : FourWords :=
  let (mixed, place) := match i / 16 with
    | 0 => ((s.b &&& s.c) ||| (~~~s.b &&& s.d), i)
    | 1 => ((s.d &&& s.b) ||| (~~~s.d &&& s.c), (5 * i + 1) % 16)
    | 2 => (s.b ^^^ s.c ^^^ s.d, (3 * i + 5) % 16)
    | _ => (s.c ^^^ (s.b ||| ~~~s.d), (7 * i) % 16)
  let sum := s.a + mixed + md5Words[i]?.getD 0 + (words[place]?.getD 0).toUInt32
  ⟨s.d, s.b + turnLeft sum (md5Turns[4 * (i / 16) + i % 4]?.getD 0), s.b, s.c⟩

/-- The digest of bytes in sixteen bytes. -/
def md5 (bytes : ByteArray) : List UInt8 :=
  let text := filled false 64 8 bytes
  let last := overBlocks 64 text (FourWords.mk 0x67452301 0xefcdab89 0x98badcfe 0x10325476) fun s place =>
    let words := wordsAt false 4 16 text place
    let t := (List.range 64).foldl (md5Step words) s
    ⟨s.a + t.a, s.b + t.b, s.c + t.c, s.d + t.d⟩
  bytesOfWords false 4 ([last.a, last.b, last.c, last.d].map UInt32.toNat)

/-! ## Digests of twenty bytes -/

/-- Five words. -/
structure FiveWords where
  a : UInt32
  b : UInt32
  c : UInt32
  d : UInt32
  e : UInt32

/-- The words of a block, and those that are made from them. -/
def sha1Words (first : Array UInt64) : Array UInt32 :=
  (List.range 64).foldl (fun words i =>
    let word (back : Nat) : UInt32 := words[16 + i - back]?.getD 0
    words.push (turnLeft (word 3 ^^^ word 8 ^^^ word 14 ^^^ word 16) 1)) (first.map (·.toUInt32))

/-- One step with the words of a block. -/
def sha1Step (words : Array UInt32) (s : FiveWords) (i : Nat) : FiveWords :=
  let (mixed, added) : UInt32 × UInt32 := match i / 20 with
    | 0 => ((s.b &&& s.c) ||| (~~~s.b &&& s.d), 0x5a827999)
    | 1 => (s.b ^^^ s.c ^^^ s.d, 0x6ed9eba1)
    | 2 => ((s.b &&& s.c) ||| (s.b &&& s.d) ||| (s.c &&& s.d), 0x8f1bbcdc)
    | _ => (s.b ^^^ s.c ^^^ s.d, 0xca62c1d6)
  ⟨turnLeft s.a 5 + mixed + s.e + added + words[i]?.getD 0, s.a, turnLeft s.b 30, s.c, s.d⟩

/-- The digest of bytes in twenty bytes. -/
def sha1 (bytes : ByteArray) : List UInt8 :=
  let text := filled true 64 8 bytes
  let start := FiveWords.mk 0x67452301 0xefcdab89 0x98badcfe 0x10325476 0xc3d2e1f0
  let last := overBlocks 64 text start fun s place =>
    let t := (List.range 80).foldl (sha1Step (sha1Words (wordsAt true 4 16 text place))) s
    ⟨s.a + t.a, s.b + t.b, s.c + t.c, s.d + t.d, s.e + t.e⟩
  bytesOfWords true 4 ([last.a, last.b, last.c, last.d, last.e].map UInt32.toNat)

/-! ## Digests of up to sixty-four bytes -/

/-- Whether a number is a prime. -/
def isPrime (n : Nat) : Bool :=
  2 ≤ n && (List.range n).all fun d => d < 2 || n % d != 0

/-- The primes up to the eightieth. -/
def primes : List Nat :=
  (List.range 410).filter isPrime

/-- The greatest number whose power does not exceed another number, found bit by bit. -/
def rootOf (power : Nat → Nat) (n : Nat) : Nat → Nat → Nat
  | 0, r => r
  | bit + 1, r =>
    let more := r + (1 <<< bit)
    rootOf power n bit (if power more ≤ n then more else r)

/-- Some bits of the fraction of the square root of a number. -/
def squareRootBits (bits n : Nat) : Nat :=
  rootOf (fun r => r * r) (n <<< (2 * bits)) (bits + 8) 0 % (1 <<< bits)

/-- Some bits of the fraction of the cube root of a number. -/
def cubeRootBits (bits n : Nat) : Nat :=
  rootOf (fun r => r * r * r) (n <<< (3 * bits)) (bits + 8) 0 % (1 <<< bits)

/-- The cube roots of the primes. -/
def cubeRoots : Array Nat :=
  (primes.map (cubeRootBits 64)).toArray

/-- The square roots of the first eight primes. -/
def firstRoots : List Nat :=
  (primes.take 8).map (squareRootBits 64)

/-- The square roots of the next eight primes. -/
def nextRoots : List Nat :=
  ((primes.drop 8).take 8).map (squareRootBits 64)

/-- A kind of digests with words of a width: the number of steps, how far words are turned and moved, the words
at the beginning, and the size of the digest. -/
structure WideDigest where
  width : Nat
  steps : Nat
  upper : List Nat
  lower : List Nat
  nearTurns : List Nat × Nat
  farTurns : List Nat × Nat
  start : List Nat
  size : Nat

namespace WideDigest

/-- Digests with words of thirty-two bits. -/
def narrow (start : List Nat) (size : Nat) : WideDigest :=
  ⟨32, 64, [2, 13, 22], [6, 11, 25], ([7, 18], 3), ([17, 19], 10), start, size⟩

/-- Digests with words of sixty-four bits. -/
def broad (start : List Nat) (size : Nat) : WideDigest :=
  ⟨64, 80, [28, 34, 39], [14, 18, 41], ([1, 8], 7), ([19, 61], 6), start, size⟩

/-- What of a word can be seen. -/
def mask (d : WideDigest) (x : UInt64) : UInt64 :=
  if d.width = 64 then x else x &&& 0xffffffff

/-- Turn the bits of a word to the right. -/
def turned (d : WideDigest) (x : UInt64) (n : Nat) : UInt64 :=
  d.mask (x >>> UInt64.ofNat n ||| x <<< UInt64.ofNat (d.width - n))

/-- A word turned in several ways. -/
def mixed (d : WideDigest) (turns : List Nat) (x : UInt64) : UInt64 :=
  turns.foldl (fun y n => y ^^^ d.turned x n) 0

/-- A word turned in several ways, and moved in one. -/
def moved (d : WideDigest) (ways : List Nat × Nat) (x : UInt64) : UInt64 :=
  d.mixed ways.1 x ^^^ x >>> UInt64.ofNat ways.2

/-- The words of a block, and those that are made from them. -/
def words (d : WideDigest) (first : Array UInt64) : Array UInt64 :=
  (List.range (d.steps - 16)).foldl (fun words i =>
    let word (back : Nat) : UInt64 := words[16 + i - back]?.getD 0
    words.push (d.mask (word 16 + d.moved d.nearTurns (word 15) + word 7 + d.moved d.farTurns (word 2)))) first

/-- One step with the words of a block; there are eight words. -/
def step (d : WideDigest) (words : Array UInt64) (s : Array UInt64) (i : Nat) : Array UInt64 :=
  let word (place : Nat) : UInt64 := s[place]?.getD 0
  let added := UInt64.ofNat ((cubeRoots[i]?.getD 0) >>> (64 - d.width))
  let chosen := (word 4 &&& word 5) ^^^ (~~~(word 4) &&& word 6)
  let first := d.mask (word 7 + d.mixed d.lower (word 4) + chosen + added + words[i]?.getD 0)
  let most := (word 0 &&& word 1) ^^^ (word 0 &&& word 2) ^^^ (word 1 &&& word 2)
  let second := d.mask (d.mixed d.upper (word 0) + most)
  #[d.mask (first + second), word 0, word 1, word 2, d.mask (word 3 + first), word 4, word 5, word 6]

/-- The digest of bytes. -/
def run (d : WideDigest) (bytes : ByteArray) : List UInt8 :=
  let size := d.width / 8
  let text := filled true (16 * size) (2 * size) bytes
  let start := (d.start.map UInt64.ofNat).toArray
  let last := overBlocks (16 * size) text start fun s place =>
    let words := d.words (wordsAt true size 16 text place)
    let t := (List.range d.steps).foldl (d.step words) s
    s.zipWith (fun x y => d.mask (x + y)) t
  (bytesOfWords true size (last.toList.map UInt64.toNat)).take d.size

end WideDigest

/-- The digest of bytes in twenty-eight bytes. -/
def sha224 : ByteArray → List UInt8 :=
  (WideDigest.narrow (nextRoots.map (· % (1 <<< 32))) 28).run

/-- The digest of bytes in thirty-two bytes. -/
def sha256 : ByteArray → List UInt8 :=
  (WideDigest.narrow (firstRoots.map (· >>> 32)) 32).run

/-- The digest of bytes in forty-eight bytes. -/
def sha384 : ByteArray → List UInt8 :=
  (WideDigest.broad nextRoots 48).run

/-- The digest of bytes in sixty-four bytes. -/
def sha512 : ByteArray → List UInt8 :=
  (WideDigest.broad firstRoots 64).run

/-! ## Digests of any length -/

/-- The orders in which the words of a block are taken. -/
def blakeOrders : Array (Array Nat) :=
  #[#[0, 1, 2, 3, 4, 5, 6, 7, 8, 9, 10, 11, 12, 13, 14, 15],
    #[14, 10, 4, 8, 9, 15, 13, 6, 1, 12, 0, 2, 11, 7, 5, 3],
    #[11, 8, 12, 0, 5, 2, 15, 13, 10, 14, 3, 6, 7, 1, 9, 4],
    #[7, 9, 3, 1, 13, 12, 11, 14, 2, 6, 5, 10, 4, 0, 15, 8],
    #[9, 0, 5, 7, 2, 4, 10, 15, 14, 1, 11, 12, 6, 8, 3, 13],
    #[2, 12, 6, 10, 0, 11, 8, 3, 4, 13, 7, 5, 15, 14, 1, 9],
    #[12, 5, 1, 15, 14, 13, 4, 10, 0, 7, 6, 3, 9, 2, 8, 11],
    #[13, 11, 7, 14, 12, 1, 3, 9, 5, 0, 15, 4, 8, 6, 2, 10],
    #[6, 15, 14, 9, 11, 3, 0, 8, 12, 2, 13, 7, 1, 4, 10, 5],
    #[10, 2, 8, 4, 7, 6, 1, 5, 15, 11, 9, 14, 3, 12, 13, 0]]

/-- The places of the words that are mixed, step by step. -/
def blakePlaces : List (Nat × Nat × Nat × Nat) :=
  [(0, 4, 8, 12), (1, 5, 9, 13), (2, 6, 10, 14), (3, 7, 11, 15), (0, 5, 10, 15), (1, 6, 11, 12), (2, 7, 8, 13),
    (3, 4, 9, 14)]

/-- Turn the bits of a word of sixty-four bits to the right. -/
def turnRight (x n : UInt64) : UInt64 :=
  x >>> n ||| x <<< (64 - n)

/-- Mix four of sixteen words with two others. -/
def blakeMix (v : Array UInt64) (places : Nat × Nat × Nat × Nat) (x y : UInt64) : Array UInt64 :=
  let (i, j, k, l) := places
  let word (place : Nat) : UInt64 := v[place]?.getD 0
  let a := word i + word j + x
  let d := turnRight (word l ^^^ a) 32
  let c := word k + d
  let b := turnRight (word j ^^^ c) 24
  let a := a + b + y
  let d := turnRight (d ^^^ a) 16
  let c := c + d
  let b := turnRight (b ^^^ c) 63
  (((v.setIfInBounds i a).setIfInBounds j b).setIfInBounds k c).setIfInBounds l d

/-- Take in a block, up to which there are so many bytes. -/
def blakeBlock (words : Array UInt64) (count : Nat) (isLast : Bool) (h : Array UInt64) : Array UInt64 :=
  let start := (firstRoots.map UInt64.ofNat).toArray
  let v := h ++ start
  let v := v.setIfInBounds 12 (v[12]?.getD 0 ^^^ UInt64.ofNat count)
  let v := if isLast then v.setIfInBounds 14 (~~~(v[14]?.getD 0)) else v
  let v := (List.range 12).foldl (fun v turn =>
    let order := blakeOrders[turn % 10]?.getD #[]
    blakePlaces.zipIdx.foldl (fun v (places, i) =>
      let word (n : Nat) : UInt64 := words[order[n]?.getD 0]?.getD 0
      blakeMix v places (word (2 * i)) (word (2 * i + 1))) v) v
  (Array.range 8).map fun i => h[i]?.getD 0 ^^^ v[i]?.getD 0 ^^^ v[i + 8]?.getD 0

/-- The digest of bytes in so many bytes. -/
def blake2b (size : Nat) (bytes : ByteArray) : List UInt8 :=
  let count := max 1 ((bytes.size + 127) / 128)
  let start := (firstRoots.map UInt64.ofNat).toArray
  let start := start.setIfInBounds 0 (start[0]?.getD 0 ^^^ UInt64.ofNat (0x01010000 + size))
  let last := (List.range count).foldl (fun h i =>
    let words := wordsAt false 8 16 bytes (128 * i)
    blakeBlock words (min bytes.size (128 * (i + 1))) (i + 1 = count) h) start
  (bytesOfWords false 8 (last.toList.map UInt64.toNat)).take size

/-! ## Digests with eight words of thirty-two bits -/

/-- The words at the beginning. -/
def sm3Start : Array UInt32 :=
  #[0x7380166f, 0x4914b2b9, 0x172442d7, 0xda8a0600, 0xa96f30bc, 0x163138aa, 0xe38dee4d, 0xb0fb0e4e]

/-- The words of a block, and those that are made from them. -/
def sm3Words (first : Array UInt64) : Array UInt32 :=
  (List.range 52).foldl (fun words i =>
    let word (back : Nat) : UInt32 := words[16 + i - back]?.getD 0
    let x := word 16 ^^^ word 9 ^^^ turnLeft (word 3) 15
    words.push (x ^^^ turnLeft x 15 ^^^ turnLeft x 23 ^^^ turnLeft (word 13) 7 ^^^ word 6)) (first.map (·.toUInt32))

/-- One step with the words of a block. -/
def sm3Step (words : Array UInt32) (s : Array UInt32) (i : Nat) : Array UInt32 :=
  let word (place : Nat) : UInt32 := s[place]?.getD 0
  let isEarly := decide (i < 16)
  let turned := turnLeft (word 0) 12
  let first := turnLeft (turned + word 4 + turnLeft (if isEarly then 0x79cc4519 else 0x7a879d8a) (UInt32.ofNat (i % 32))) 7
  let upper := if isEarly then word 0 ^^^ word 1 ^^^ word 2
    else (word 0 &&& word 1) ||| (word 0 &&& word 2) ||| (word 1 &&& word 2)
  let lower := if isEarly then word 4 ^^^ word 5 ^^^ word 6 else (word 4 &&& word 5) ||| (~~~(word 4) &&& word 6)
  let now := words[i]?.getD 0
  let a := upper + word 3 + (first ^^^ turned) + (now ^^^ words[i + 4]?.getD 0)
  let e := lower + word 7 + first + now
  #[a, word 0, turnLeft (word 1) 9, word 2, e ^^^ turnLeft e 9 ^^^ turnLeft e 17, word 4, turnLeft (word 5) 19, word 6]

/-- The digest of bytes in thirty-two bytes, made in another way. -/
def sm3 (bytes : ByteArray) : List UInt8 :=
  let text := filled true 64 8 bytes
  let last := overBlocks 64 text sm3Start fun s place =>
    let t := (List.range 64).foldl (sm3Step (sm3Words (wordsAt true 4 16 text place))) s
    s.zipWith (· ^^^ ·) t
  bytesOfWords true 4 (last.toList.map UInt32.toNat)

/-! ## Sums -/

/-- The remainder of bytes, which are taken for a polynomial, with their number behind them. -/
def crc (bytes : ByteArray) : Nat :=
  let take (n : UInt32) (b : UInt8) : UInt32 :=
    (List.range 8).foldl (fun n _ => if n >>> 31 == 1 then n <<< 1 ^^^ 0x04c11db7 else n <<< 1)
      (n ^^^ b.toUInt32 <<< 24)
  let lengthSize := ((List.range 8).filter fun i => bytes.size >>> (8 * i) != 0).length
  (~~~((numberBytes false lengthSize bytes.size).foldl take (bytes.toList.foldl take 0))).toNat

/-- The sum of bytes, which is turned to the right by a bit in front of each. -/
def turningSum (bytes : ByteArray) : Nat :=
  bytes.toList.foldl (fun n b => ((n >>> 1) + ((n % 2) <<< 15) + b.toNat) % 65536) 0

/-- The sum of bytes, of which the upper part is added to the lower. -/
def plainSum (bytes : ByteArray) : Nat :=
  let total := bytes.toList.foldl (fun n b => n + b.toNat) 0 % 4294967296
  let once := total % 65536 + total / 65536
  once % 65536 + once / 65536

/-- The text of a digest. -/
def text (digest : List UInt8) : String :=
  String.ofList (digest.flatMap fun b =>
    let digit (n : Nat) : Char := ("0123456789abcdef".toList[n]?).getD '0'
    [digit (b.toNat / 16), digit (b.toNat % 16)])

end Digest

end Conformance.Shell
