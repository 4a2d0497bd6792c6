import IrcClient.Text.Split
import IrcClient.Text.Utf8

/-!
# SHA-256 and SHA-512

The two functions are one construction over words of 32 and of 64 bits. A message is
padded to whole blocks of sixteen words, and each block is mixed into a state of
eight words by a round for every round constant.
-/

namespace IrcClient.Sha2

/-- The words that a hash function of the family works on. -/
class Word (w : Type) where
  /-- The size of a word in bytes. -/
  size : Nat
  ofNat : Nat → w
  toNat : w → Nat
  add : w → w → w
  xor : w → w → w
  and : w → w → w
  not : w → w
  /-- The mixtures of rotated words that enter a round. -/
  mixA : w → w
  mixE : w → w
  /-- The mixtures that make new words of a message out of older ones. -/
  stretchOld : w → w
  stretchNew : w → w
  /-- The round constants. -/
  constants : List w

/-- The state of eight words. -/
structure State (w : Type) where
  a : w
  b : w
  c : w
  d : w
  e : w
  f : w
  g : w
  h : w
deriving DecidableEq, Repr

variable {w : Type} [Word w]

/-- The words of a state. -/
def State.words (s : State w) : List w :=
  [s.a, s.b, s.c, s.d, s.e, s.f, s.g, s.h]

/-- Combines two states word by word. -/
@[specialize] def State.zip (f : w → w → w) (s t : State w) : State w :=
  ⟨f s.a t.a, f s.b t.b, f s.c t.c, f s.d t.d, f s.e t.e, f s.f t.f, f s.g t.g, f s.h t.h⟩

/--
The rounds of one block: one for each constant, with the state and the next sixteen
words of the stretched message at hand.
-/
@[specialize] def rounds : List w → (a b c d e f g h : w) →
    (m0 m1 m2 m3 m4 m5 m6 m7 m8 m9 m10 m11 m12 m13 m14 m15 : w) → State w
  | [], a, b, c, d, e, f, g, h, _, _, _, _, _, _, _, _, _, _, _, _, _, _, _, _ =>
    ⟨a, b, c, d, e, f, g, h⟩
  | k :: ks, a, b, c, d, e, f, g, h,
      m0, m1, m2, m3, m4, m5, m6, m7, m8, m9, m10, m11, m12, m13, m14, m15 =>
    let choice := Word.xor (Word.and e f) (Word.and (Word.not e) g)
    let majority := Word.xor (Word.xor (Word.and a b) (Word.and a c)) (Word.and b c)
    let t := Word.add (Word.add (Word.add (Word.add h (Word.mixE e)) choice) k) m0
    let u := Word.add (Word.mixA a) majority
    let m16 := Word.add (Word.add (Word.add m0 (Word.stretchOld m1)) m9) (Word.stretchNew m14)
    rounds ks (Word.add t u) a b c (Word.add d t) e f g
      m1 m2 m3 m4 m5 m6 m7 m8 m9 m10 m11 m12 m13 m14 m15 m16

/-- Mixes one block into a state. A block is sixteen words; anything else is passed over. -/
@[specialize] def compress (s : State w) : List w → State w
  | [m0, m1, m2, m3, m4, m5, m6, m7, m8, m9, m10, m11, m12, m13, m14, m15] =>
    State.zip Word.add s (rounds Word.constants s.a s.b s.c s.d s.e s.f s.g s.h
      m0 m1 m2 m3 m4 m5 m6 m7 m8 m9 m10 m11 m12 m13 m14 m15)
  | _ => s

/-! ## Messages of bytes -/

/-- The bytes of a number, the highest first. -/
def bytesOf (size n : Nat) : Bytes :=
  (List.range size).map fun i => .ofNat (n / Nat.pow 256 (size - 1 - i) % 256)

/-- The word that some bytes spell, the highest first. -/
def wordOf (bytes : Bytes) : w :=
  Word.ofNat (bytes.foldl (fun n b => 256 * n + b.toNat) 0)

/-- The bytes of a state, which are the hash. -/
def State.bytes (s : State w) : Bytes :=
  s.words.flatMap fun x => bytesOf (Word.size w) (Word.toNat x)

variable (w) in
/-- The size of a block in bytes. -/
def blockSize : Nat :=
  16 * Word.size w

variable (w) in
/--
The end of a message of `n` bytes: a bit that is set, zeros up to the end of a block
less two words, and the number of bits in two words.
-/
def padding (n : Nat) : Bytes :=
  let size := blockSize w
  let zeros := (2 * size - 1 - 2 * Word.size w - n % size) % size
  0x80 :: List.replicate zeros 0 ++ bytesOf (2 * Word.size w) (8 * n)

/-- Mixes whole blocks into a state. -/
def absorb (s : State w) (bytes : Bytes) : State w :=
  (blocks (blockSize w) bytes).foldl
    (fun s block => compress s ((blocks (Word.size w) block).map wordOf)) s

/-- The end of a message is at hand, `before` bytes of which are in the state already. -/
def finish (s : State w) (before : Nat) (rest : Bytes) : State w :=
  absorb s (rest ++ padding w (before + rest.length))

/--
The block that ends a message of one block and a hash: the hash, a bit that is set,
zeros, and the number of bits.
-/
@[specialize] def hashBlock (s : State w) : List w :=
  [s.a, s.b, s.c, s.d, s.e, s.f, s.g, s.h, Word.ofNat (Nat.pow 2 (8 * Word.size w - 1)),
    Word.ofNat 0, Word.ofNat 0, Word.ofNat 0, Word.ofNat 0, Word.ofNat 0, Word.ofNat 0,
    Word.ofNat (8 * (blockSize w + 8 * Word.size w))]

/-! ## The two functions -/

/-- A word turned right by some bits. -/
@[inline] def turn32 (x : UInt32) (n : UInt32) : UInt32 :=
  (x >>> n) ||| (x <<< (32 - n))

/-- A word turned right by some bits. -/
@[inline] def turn64 (x : UInt64) (n : UInt64) : UInt64 :=
  (x >>> n) ||| (x <<< (64 - n))

@[inline] instance : Word UInt32 where
  size := 4
  ofNat := UInt32.ofNat
  toNat := UInt32.toNat
  add x y := x + y
  xor x y := x ^^^ y
  and x y := x &&& y
  not x := ~~~x
  mixA x := turn32 x 2 ^^^ turn32 x 13 ^^^ turn32 x 22
  mixE x := turn32 x 6 ^^^ turn32 x 11 ^^^ turn32 x 25
  stretchOld x := turn32 x 7 ^^^ turn32 x 18 ^^^ (x >>> 3)
  stretchNew x := turn32 x 17 ^^^ turn32 x 19 ^^^ (x >>> 10)
  constants := [
    0x428a2f98, 0x71374491, 0xb5c0fbcf, 0xe9b5dba5, 0x3956c25b, 0x59f111f1, 0x923f82a4, 0xab1c5ed5,
    0xd807aa98, 0x12835b01, 0x243185be, 0x550c7dc3, 0x72be5d74, 0x80deb1fe, 0x9bdc06a7, 0xc19bf174,
    0xe49b69c1, 0xefbe4786, 0x0fc19dc6, 0x240ca1cc, 0x2de92c6f, 0x4a7484aa, 0x5cb0a9dc, 0x76f988da,
    0x983e5152, 0xa831c66d, 0xb00327c8, 0xbf597fc7, 0xc6e00bf3, 0xd5a79147, 0x06ca6351, 0x14292967,
    0x27b70a85, 0x2e1b2138, 0x4d2c6dfc, 0x53380d13, 0x650a7354, 0x766a0abb, 0x81c2c92e, 0x92722c85,
    0xa2bfe8a1, 0xa81a664b, 0xc24b8b70, 0xc76c51a3, 0xd192e819, 0xd6990624, 0xf40e3585, 0x106aa070,
    0x19a4c116, 0x1e376c08, 0x2748774c, 0x34b0bcb5, 0x391c0cb3, 0x4ed8aa4a, 0x5b9cca4f, 0x682e6ff3,
    0x748f82ee, 0x78a5636f, 0x84c87814, 0x8cc70208, 0x90befffa, 0xa4506ceb, 0xbef9a3f7, 0xc67178f2]

@[inline] instance : Word UInt64 where
  size := 8
  ofNat := UInt64.ofNat
  toNat := UInt64.toNat
  add x y := x + y
  xor x y := x ^^^ y
  and x y := x &&& y
  not x := ~~~x
  mixA x := turn64 x 28 ^^^ turn64 x 34 ^^^ turn64 x 39
  mixE x := turn64 x 14 ^^^ turn64 x 18 ^^^ turn64 x 41
  stretchOld x := turn64 x 1 ^^^ turn64 x 8 ^^^ (x >>> 7)
  stretchNew x := turn64 x 19 ^^^ turn64 x 61 ^^^ (x >>> 6)
  constants := [
    0x428a2f98d728ae22, 0x7137449123ef65cd, 0xb5c0fbcfec4d3b2f, 0xe9b5dba58189dbbc,
    0x3956c25bf348b538, 0x59f111f1b605d019, 0x923f82a4af194f9b, 0xab1c5ed5da6d8118,
    0xd807aa98a3030242, 0x12835b0145706fbe, 0x243185be4ee4b28c, 0x550c7dc3d5ffb4e2,
    0x72be5d74f27b896f, 0x80deb1fe3b1696b1, 0x9bdc06a725c71235, 0xc19bf174cf692694,
    0xe49b69c19ef14ad2, 0xefbe4786384f25e3, 0x0fc19dc68b8cd5b5, 0x240ca1cc77ac9c65,
    0x2de92c6f592b0275, 0x4a7484aa6ea6e483, 0x5cb0a9dcbd41fbd4, 0x76f988da831153b5,
    0x983e5152ee66dfab, 0xa831c66d2db43210, 0xb00327c898fb213f, 0xbf597fc7beef0ee4,
    0xc6e00bf33da88fc2, 0xd5a79147930aa725, 0x06ca6351e003826f, 0x142929670a0e6e70,
    0x27b70a8546d22ffc, 0x2e1b21385c26c926, 0x4d2c6dfc5ac42aed, 0x53380d139d95b3df,
    0x650a73548baf63de, 0x766a0abb3c77b2a8, 0x81c2c92e47edaee6, 0x92722c851482353b,
    0xa2bfe8a14cf10364, 0xa81a664bbc423001, 0xc24b8b70d0f89791, 0xc76c51a30654be30,
    0xd192e819d6ef5218, 0xd69906245565a910, 0xf40e35855771202a, 0x106aa07032bbd1b8,
    0x19a4c116b8d2d0c8, 0x1e376c085141ab53, 0x2748774cdf8eeb99, 0x34b0bcb5e19b48a8,
    0x391c0cb3c5c95a63, 0x4ed8aa4ae3418acb, 0x5b9cca4f7763e373, 0x682e6ff3d6b2b8a3,
    0x748f82ee5defb2fc, 0x78a5636f43172f60, 0x84c87814a1f0ab72, 0x8cc702081a6439ec,
    0x90befffa23631e28, 0xa4506cebde82bde9, 0xbef9a3f7b2c67915, 0xc67178f2e372532b,
    0xca273eceea26619c, 0xd186b8c721c0c207, 0xeada7dd6cde0eb1e, 0xf57d4f7fee6ed178,
    0x06f067aa72176fba, 0x0a637dc5a2c898a6, 0x113f9804bef90dae, 0x1b710b35131c471b,
    0x28db77f523047d84, 0x32caab7b40c72493, 0x3c9ebe0a15c9bebc, 0x431d67c49c100d4c,
    0x4cc5d4becb3e42b6, 0x597f299cfc657e2a, 0x5fcb6fab3ad6faec, 0x6c44198c4a475817]

/-- The state that SHA-256 begins with. -/
def start256 : State UInt32 :=
  ⟨0x6a09e667, 0xbb67ae85, 0x3c6ef372, 0xa54ff53a, 0x510e527f, 0x9b05688c, 0x1f83d9ab, 0x5be0cd19⟩

/-- The state that SHA-512 begins with. -/
def start512 : State UInt64 :=
  ⟨0x6a09e667f3bcc908, 0xbb67ae8584caa73b, 0x3c6ef372fe94f82b, 0xa54ff53a5f1d36f1,
    0x510e527fade682d1, 0x9b05688c2b3e6c1f, 0x1f83d9abfb41bd6b, 0x5be0cd19137e2179⟩

end IrcClient.Sha2
