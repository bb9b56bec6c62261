import BuiltinWrappers.Script.Utility.Listing

/-!
# Digests

Short numbers that stand for a whole content: the digests of 128 to 512 bits and
the cyclic redundancy checks.  A content is filled up to whole blocks with one bit,
zeros and its length, and each block changes a few words in rounds.
-/

namespace BuiltinWrappers.Script

open Text (Octets)
open Job

namespace Digest

abbrev Words := List UInt32

/-! ## Blocks -/

def rotated (word : UInt32) (count : Nat) : UInt32 :=
  let count := UInt32.ofNat (count % 32)
  (word <<< count) ||| (word >>> (32 - count))

def wordOf (octets : List UInt8) : UInt32 :=
  octets.foldl (fun word octet => (word <<< 8) ||| octet.toUInt32) 0

def groups {α : Type} (size : Nat) : (count : Nat) → List α → List (List α)
  | 0, _ => []
  | count + 1, items => items.take size :: groups size count (items.drop size)

def octetsOf (count value : Nat) : List UInt8 :=
  (List.range count).reverse.map fun index => UInt8.ofNat (value >>> (8 * index))

def blocks (highestFirst : Bool) (content : List UInt8) : List Words :=
  let size := content.length
  let zeros := (119 - size % 64) % 64
  let length := octetsOf 8 (8 * size)
  let octets := content ++ 0x80 :: List.replicate zeros 0 ++
    (if highestFirst then length else length.reverse)
  let word (octets : List UInt8) : UInt32 :=
    wordOf (if highestFirst then octets else octets.reverse)
  (groups 64 (octets.length / 64) octets).map fun block => (groups 4 16 block).map word

def hexadecimal (octets : List UInt8) : Octets :=
  octets.flatMap fun octet =>
    let digits := Nat.toDigits 16 octet.toNat
    List.replicate (2 - digits.length) '0' ++ digits

def wordOctets (highestFirst : Bool) (word : UInt32) : List UInt8 :=
  let octets := octetsOf 4 word.toNat
  if highestFirst then octets else octets.reverse

def added (first second : Words) : Words := List.zipWith (· + ·) first second

def wordAt (words : Array UInt32) (index : Nat) : UInt32 := (words[index]?).getD 0

def schedule (mix : Array UInt32 → Nat → UInt32) (count : Nat) (block : Words) : Array UInt32 :=
  (List.range count).foldl (fun words index => words.push (mix words (16 + index))) block.toArray

/-! ## The digest of 128 bits -/

def sines : Array UInt32 :=
  #[0xd76aa478, 0xe8c7b756, 0x242070db, 0xc1bdceee, 0xf57c0faf, 0x4787c62a, 0xa8304613,
    0xfd469501, 0x698098d8, 0x8b44f7af, 0xffff5bb1, 0x895cd7be, 0x6b901122, 0xfd987193,
    0xa679438e, 0x49b40821, 0xf61e2562, 0xc040b340, 0x265e5a51, 0xe9b6c7aa, 0xd62f105d,
    0x02441453, 0xd8a1e681, 0xe7d3fbc8, 0x21e1cde6, 0xc33707d6, 0xf4d50d87, 0x455a14ed,
    0xa9e3e905, 0xfcefa3f8, 0x676f02d9, 0x8d2a4c8a, 0xfffa3942, 0x8771f681, 0x6d9d6122,
    0xfde5380c, 0xa4beea44, 0x4bdecfa9, 0xf6bb4b60, 0xbebfbc70, 0x289b7ec6, 0xeaa127fa,
    0xd4ef3085, 0x04881d05, 0xd9d4d039, 0xe6db99e5, 0x1fa27cf8, 0xc4ac5665, 0xf4292244,
    0x432aff97, 0xab9423a7, 0xfc93a039, 0x655b59c3, 0x8f0ccc92, 0xffeff47d, 0x85845dd1,
    0x6fa87e4f, 0xfe2ce6e0, 0xa3014314, 0x4e0811a1, 0xf7537e82, 0xbd3af235, 0x2ad7d2bb,
    0xeb86d391]

def shortShifts : Array Nat := #[7, 12, 17, 22, 5, 9, 14, 20, 4, 11, 16, 23, 6, 10, 15, 21]

def shortRound (block : Array UInt32) (state : Words) (index : Nat) : Words :=
  match state with
  | [a, b, c, d] =>
      let (mixed, place) : UInt32 × Nat :=
        match index / 16 with
        | 0 => ((b &&& c) ||| (~~~b &&& d), index)
        | 1 => ((d &&& b) ||| (~~~d &&& c), 5 * index + 1)
        | 2 => (b ^^^ c ^^^ d, 3 * index + 5)
        | _ => (c ^^^ (b ||| ~~~d), 7 * index)
      let sum := a + mixed + wordAt sines index + wordAt block (place % 16)
      let shift := (shortShifts[4 * (index / 16) + index % 4]?).getD 0
      [d, b + rotated sum shift, b, c]
  | state => state

def short (content : List UInt8) : List UInt8 :=
  let start : Words := [0x67452301, 0xefcdab89, 0x98badcfe, 0x10325476]
  let final := (blocks false content).foldl (fun state block =>
    added state ((List.range 64).foldl (shortRound block.toArray) state)) start
  final.flatMap (wordOctets false)

/-! ## The digest of 160 bits -/

def middleMix (words : Array UInt32) (index : Nat) : UInt32 :=
  rotated (wordAt words (index - 3) ^^^ wordAt words (index - 8) ^^^ wordAt words (index - 14) ^^^
    wordAt words (index - 16)) 1

def middleRound (words : Array UInt32) (state : Words) (index : Nat) : Words :=
  match state with
  | [a, b, c, d, e] =>
      let (mixed, constant) : UInt32 × UInt32 :=
        match index / 20 with
        | 0 => ((b &&& c) ||| (~~~b &&& d), 0x5a827999)
        | 1 => (b ^^^ c ^^^ d, 0x6ed9eba1)
        | 2 => ((b &&& c) ||| (b &&& d) ||| (c &&& d), 0x8f1bbcdc)
        | _ => (b ^^^ c ^^^ d, 0xca62c1d6)
      [rotated a 5 + mixed + e + constant + wordAt words index, a, rotated b 30, c, d]
  | state => state

def middle (content : List UInt8) : List UInt8 :=
  let start : Words := [0x67452301, 0xefcdab89, 0x98badcfe, 0x10325476, 0xc3d2e1f0]
  let final := (blocks true content).foldl (fun state block =>
    let words := schedule middleMix 64 block
    added state ((List.range 80).foldl (middleRound words) state)) start
  final.flatMap (wordOctets true)

/-! ## The digest of 256 bits -/

def cubeRoots : Array UInt32 :=
  #[0x428a2f98, 0x71374491, 0xb5c0fbcf, 0xe9b5dba5, 0x3956c25b, 0x59f111f1, 0x923f82a4,
    0xab1c5ed5, 0xd807aa98, 0x12835b01, 0x243185be, 0x550c7dc3, 0x72be5d74, 0x80deb1fe,
    0x9bdc06a7, 0xc19bf174, 0xe49b69c1, 0xefbe4786, 0x0fc19dc6, 0x240ca1cc, 0x2de92c6f,
    0x4a7484aa, 0x5cb0a9dc, 0x76f988da, 0x983e5152, 0xa831c66d, 0xb00327c8, 0xbf597fc7,
    0xc6e00bf3, 0xd5a79147, 0x06ca6351, 0x14292967, 0x27b70a85, 0x2e1b2138, 0x4d2c6dfc,
    0x53380d13, 0x650a7354, 0x766a0abb, 0x81c2c92e, 0x92722c85, 0xa2bfe8a1, 0xa81a664b,
    0xc24b8b70, 0xc76c51a3, 0xd192e819, 0xd6990624, 0xf40e3585, 0x106aa070, 0x19a4c116,
    0x1e376c08, 0x2748774c, 0x34b0bcb5, 0x391c0cb3, 0x4ed8aa4a, 0x5b9cca4f, 0x682e6ff3,
    0x748f82ee, 0x78a5636f, 0x84c87814, 0x8cc70208, 0x90befffa, 0xa4506ceb, 0xbef9a3f7,
    0xc67178f2]

def squareRoots : Words :=
  [0x6a09e667, 0xbb67ae85, 0x3c6ef372, 0xa54ff53a, 0x510e527f, 0x9b05688c, 0x1f83d9ab,
   0x5be0cd19]

def longMix (words : Array UInt32) (index : Nat) : UInt32 :=
  let early := wordAt words (index - 15)
  let late := wordAt words (index - 2)
  wordAt words (index - 16) + (rotated early 25 ^^^ rotated early 14 ^^^ (early >>> 3)) +
    wordAt words (index - 7) + (rotated late 15 ^^^ rotated late 13 ^^^ (late >>> 10))

def longRound (words : Array UInt32) (state : Words) (index : Nat) : Words :=
  match state with
  | [a, b, c, d, e, f, g, h] =>
      let chosen := (e &&& f) ^^^ (~~~e &&& g)
      let first := h + (rotated e 26 ^^^ rotated e 21 ^^^ rotated e 7) + chosen +
        wordAt cubeRoots index + wordAt words index
      let second := (rotated a 30 ^^^ rotated a 19 ^^^ rotated a 10) +
        ((a &&& b) ^^^ (a &&& c) ^^^ (b &&& c))
      [first + second, a, b, c, d + first, e, f, g]
  | state => state

def longFrom (start : Words) (content : List UInt8) : List UInt8 :=
  let final := (blocks true content).foldl (fun state block =>
    let words := schedule longMix 48 block
    added state ((List.range 64).foldl (longRound words) state)) start
  final.flatMap (wordOctets true)

def long (content : List UInt8) : List UInt8 := longFrom squareRoots content

def shortened (content : List UInt8) : List UInt8 :=
  let start : Words :=
    [0xc1059ed8, 0x367cd507, 0x3070dd17, 0xf70e5939, 0xffc00b31, 0x68581511, 0x64f98fa7,
     0xbefa4fa4]
  (longFrom start content).take 28

/-! ## The digest of 512 bits -/

def fineCubeRoots : Array UInt64 :=
  #[0x428a2f98d728ae22, 0x7137449123ef65cd, 0xb5c0fbcfec4d3b2f, 0xe9b5dba58189dbbc,
    0x3956c25bf348b538, 0x59f111f1b605d019, 0x923f82a4af194f9b, 0xab1c5ed5da6d8118,
    0xd807aa98a3030242, 0x12835b0145706fbe, 0x243185be4ee4b28c, 0x550c7dc3d5ffb4e2,
    0x72be5d74f27b896f, 0x80deb1fe3b1696b1, 0x9bdc06a725c71235, 0xc19bf174cf692694,
    0xe49b69c19ef14ad2, 0xefbe4786384f25e3, 0x0fc19dc68b8cd5b5, 0x240ca1cc77ac9c65,
    0x2de92c6f592b0275, 0x4a7484aa6ea6e483, 0x5cb0a9dcbd41fbd4, 0x76f988da831153b5,
    0x983e5152ee66dfab, 0xa831c66d2db43210, 0xb00327c898fb213f, 0xbf597fc7beef0ee4,
    0xc6e00bf33da88fc2, 0xd5a79147930aa725, 0x06ca6351e003826f, 0x142929670a0e6e70,
    0x27b70a8546d22ffc, 0x2e1b21385c26c926, 0x4d2c6dfc5ac42aed, 0x53380d139d95b3df,
    0x650a73548baf63de, 0x766a0abb3c77b2a8, 0x81c2c92e47edaee6, 0x92722c851482353b,
    0xa2bfe8a14cf10364, 0xa81a664bbc423001, 0xc24b8b70d0f89791, 0xc76c51a30654be30,
    0xd192e819d6ef5218, 0xd69906245565a910, 0xf40e35855771202a, 0x106aa07032bbd1b8,
    0x19a4c116b8d2d0c8, 0x1e376c085141ab53, 0x2748774cdf8eeb99, 0x34b0bcb5e19b48a8,
    0x391c0cb3c5c95a63, 0x4ed8aa4ae3418acb, 0x5b9cca4f7763e373, 0x682e6ff3d6b2b8a3,
    0x748f82ee5defb2fc, 0x78a5636f43172f60, 0x84c87814a1f0ab72, 0x8cc702081a6439ec,
    0x90befffa23631e28, 0xa4506cebde82bde9, 0xbef9a3f7b2c67915, 0xc67178f2e372532b,
    0xca273eceea26619c, 0xd186b8c721c0c207, 0xeada7dd6cde0eb1e, 0xf57d4f7fee6ed178,
    0x06f067aa72176fba, 0x0a637dc5a2c898a6, 0x113f9804bef90dae, 0x1b710b35131c471b,
    0x28db77f523047d84, 0x32caab7b40c72493, 0x3c9ebe0a15c9bebc, 0x431d67c49c100d4c,
    0x4cc5d4becb3e42b6, 0x597f299cfc657e2a, 0x5fcb6fab3ad6faec, 0x6c44198c4a475817]

def fineSquareRoots : List UInt64 :=
  [0x6a09e667f3bcc908, 0xbb67ae8584caa73b, 0x3c6ef372fe94f82b, 0xa54ff53a5f1d36f1,
   0x510e527fade682d1, 0x9b05688c2b3e6c1f, 0x1f83d9abfb41bd6b, 0x5be0cd19137e2179]

def laterSquareRoots : List UInt64 :=
  [0xcbbb9d5dc1059ed8, 0x629a292a367cd507, 0x9159015a3070dd17, 0x152fecd8f70e5939,
   0x67332667ffc00b31, 0x8eb44a8768581511, 0xdb0c2e0d64f98fa7, 0x47b5481dbefa4fa4]

def wideRotated (word : UInt64) (count : Nat) : UInt64 :=
  let count := UInt64.ofNat (count % 64)
  (word >>> count) ||| (word <<< (64 - count))

def wideWordAt (words : Array UInt64) (index : Nat) : UInt64 := (words[index]?).getD 0

def wideBlocks (content : List UInt8) : List (List UInt64) :=
  let size := content.length
  let zeros := (239 - size % 128) % 128
  let octets := content ++ 0x80 :: List.replicate zeros 0 ++ octetsOf 16 (8 * size)
  let word (octets : List UInt8) : UInt64 :=
    octets.foldl (fun word octet => (word <<< 8) ||| octet.toUInt64) 0
  (groups 128 (octets.length / 128) octets).map fun block => (groups 8 16 block).map word

def wideMix (words : Array UInt64) (index : Nat) : UInt64 :=
  let early := wideWordAt words (index - 15)
  let late := wideWordAt words (index - 2)
  wideWordAt words (index - 16) +
    (wideRotated early 1 ^^^ wideRotated early 8 ^^^ (early >>> 7)) +
    wideWordAt words (index - 7) + (wideRotated late 19 ^^^ wideRotated late 61 ^^^ (late >>> 6))

def wideSchedule (block : List UInt64) : Array UInt64 :=
  (List.range 64).foldl (fun words index => words.push (wideMix words (16 + index)))
    block.toArray

def wideRound (words : Array UInt64) (state : List UInt64) (index : Nat) : List UInt64 :=
  match state with
  | [a, b, c, d, e, f, g, h] =>
      let chosen := (e &&& f) ^^^ (~~~e &&& g)
      let first := h + (wideRotated e 14 ^^^ wideRotated e 18 ^^^ wideRotated e 41) + chosen +
        wideWordAt fineCubeRoots index + wideWordAt words index
      let second := (wideRotated a 28 ^^^ wideRotated a 34 ^^^ wideRotated a 39) +
        ((a &&& b) ^^^ (a &&& c) ^^^ (b &&& c))
      [first + second, a, b, c, d + first, e, f, g]
  | state => state

def wideFrom (start : List UInt64) (content : List UInt8) : List UInt8 :=
  let final := (wideBlocks content).foldl (fun state block =>
    let words := wideSchedule block
    List.zipWith (· + ·) state ((List.range 80).foldl (wideRound words) state)) start
  final.flatMap fun word => octetsOf 8 word.toNat

def wide (content : List UInt8) : List UInt8 := wideFrom fineSquareRoots content

def wideShortened (content : List UInt8) : List UInt8 :=
  (wideFrom laterSquareRoots content).take 48

/-! ## The cyclic redundancy check -/

def checkBit (sum : UInt32) : UInt32 :=
  if sum &&& 0x80000000 = 0 then sum <<< 1 else (sum <<< 1) ^^^ 0x04c11db7

def checkOctet (sum : UInt32) (octet : UInt8) : UInt32 :=
  (List.range 8).foldl (fun sum _ => checkBit sum) (sum ^^^ (octet.toUInt32 <<< 24))

def lengthOctets (value : Nat) : List UInt8 := ((octetsOf 8 value).dropWhile (· = 0)).reverse

def check (content : List UInt8) : UInt32 :=
  ~~~((content ++ lengthOctets content.length).foldl checkOctet 0)

def turnedCheckBit (sum : UInt32) : UInt32 :=
  if sum &&& 1 = 0 then sum >>> 1 else (sum >>> 1) ^^^ 0xedb88320

def turnedCheck (start : UInt32) (content : List UInt8) : UInt32 :=
  ~~~(content.foldl (fun sum octet =>
    (List.range 8).foldl (fun sum _ => turnedCheckBit sum) (sum ^^^ octet.toUInt32)) (~~~start))

end Digest

/-! ## Utilities -/

def octetBytes (octets : Octets) : List UInt8 := octets.map Octets.toByte

def digestLine? (digest : List UInt8 → List UInt8) (line : Octets) : Option (Octets × Octets) :=
  let wanted := line.takeWhile (Text.isDigitOf 16)
  let name := line.drop (wanted.length + 2)
  if wanted.length = 2 * (digest []).length ∧ name ≠ [] then
    some (wanted.map Char.toLower, name)
  else none

def checkDigests (digest : List UInt8 → List UInt8) (options : Options) (path list : Octets) :
    Job PUnit := do
  let entries := (linesOf list).filterMap (digestLine? digest)
  if entries.isEmpty then
    complain (path ++ ": no properly formatted checksum lines found".toList)
    fail
  entries.forM fun (wanted, name) => do
    match ← read name with
    | .error fault =>
        complain (name ++ ": ".toList ++ wording fault)
        if !options.has 's' then printLine (name ++ ": FAILED open or read".toList)
        fail
    | .ok content =>
        let holds := Digest.hexadecimal (digest (octetBytes content)) = wanted
        if !holds then fail
        let shown := if holds then !options.hasAny "qs" else !options.has 's'
        if shown then printLine (name ++ (if holds then ": OK" else ": FAILED").toList)

def digestUtility (label : String) (digest : List UInt8 → List UInt8) : Utility :=
  fun arguments => do
    let options ← options
      { flags := "btczqswT"
        long := [("binary", 'b'), ("text", 't'), ("check", 'c'), ("zero", 'z'), ("tag", 'T'),
          ("quiet", 'q'), ("status", 's'), ("warn", 'w')] } arguments
    forFiles options.operands fun path content => do
      if options.has 'c' then checkDigests digest options path content
      else
        let text := Digest.hexadecimal (digest (octetBytes content))
        let stop := if options.has 'z' then ['\x00'] else ['\n']
        if options.has 'T' then
          print (label.toList ++ " (".toList ++ path ++ ") = ".toList ++ text ++ stop)
        else
          let mark := if options.has 'b' then '*' else ' '
          print (text ++ ' ' :: mark :: path ++ stop)

def cksum : Utility := fun arguments => do
  let options ← options { flags := "z" } arguments
  forFiles options.operands fun path content => do
    let name := if options.operands.isEmpty then [] else ' ' :: path
    printLine (Text.decimalText (Digest.check (octetBytes content)).toNat ++
      ' ' :: Text.decimalText content.length ++ name)

/-! ## Examples -/

example : Digest.hexadecimal (Digest.short []) = "d41d8cd98f00b204e9800998ecf8427e".toList := by
  decide +kernel

example : Digest.check (octetBytes "abc".toList) = 1219131554 := by decide +kernel

end BuiltinWrappers.Script
