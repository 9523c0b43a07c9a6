import UploadInbox.Text.Basic

/-!
# SHA-2

One description serves both word sizes of the family. The round constants are the first bits of
the fractional parts of the cube roots of the first primes, the initial states those of square
roots; the constants of the shorter word are the first halves of the longer ones.
-/
namespace UploadInbox.Sha2

/-- What distinguishes the members of the family of one word size. -/
structure Family (w : Nat) where
  constants : List (BitVec w)
  /-- The rotations that mix the first word of the state. -/
  first : Nat × Nat × Nat
  /-- The rotations that mix the fifth word of the state. -/
  fifth : Nat × Nat × Nat
  /-- Two rotations and a shift of the word fifteen places back. -/
  far : Nat × Nat × Nat
  /-- Two rotations and a shift of the word two places back. -/
  near : Nat × Nat × Nat

structure State (w : Nat) where
  a : BitVec w
  b : BitVec w
  c : BitVec w
  d : BitVec w
  e : BitVec w
  f : BitVec w
  g : BitVec w
  h : BitVec w

variable {w : Nat}

/-- A word rotated by three amounts, the results put together. -/
def mix (amounts : Nat × Nat × Nat) (x : BitVec w) : BitVec w :=
  x.rotateRight amounts.1 ^^^ x.rotateRight amounts.2.1 ^^^ x.rotateRight amounts.2.2

/-- A word rotated by two amounts and shifted by a third, the results put together. -/
def spread (amounts : Nat × Nat × Nat) (x : BitVec w) : BitVec w :=
  x.rotateRight amounts.1 ^^^ x.rotateRight amounts.2.1 ^^^ (x >>> amounts.2.2)

/-- Makes more words of the schedule, the latest in front. -/
def extend (family : Family w) : Nat → List (BitVec w) → List (BitVec w)
  | 0, words => words
  | n + 1, words =>
    let next := spread family.near (words.getD 1 0) + words.getD 6 0
      + spread family.far (words.getD 14 0) + words.getD 15 0
    extend family n (next :: words)

def round (family : Family w) (s : State w) (input : BitVec w × BitVec w) : State w :=
  let choice := (s.e &&& s.f) ^^^ (~~~s.e &&& s.g)
  let majority := (s.a &&& s.b) ^^^ (s.a &&& s.c) ^^^ (s.b &&& s.c)
  let t := s.h + mix family.fifth s.e + choice + input.1 + input.2
  ⟨t + mix family.first s.a + majority, s.a, s.b, s.c, s.d + t, s.e, s.f, s.g⟩

def State.add (s t : State w) : State w :=
  ⟨s.a + t.a, s.b + t.b, s.c + t.c, s.d + t.d, s.e + t.e, s.f + t.f, s.g + t.g, s.h + t.h⟩

/-- The state after a block of sixteen words. -/
def compress (family : Family w) (s : State w) (block : List (BitVec w)) : State w :=
  let words := (extend family (family.constants.length - 16) block.reverse).reverse
  ((family.constants.zip words).foldl (round family) s).add s

def bigEndian : Nat → Nat → Bytes
  | 0, _ => []
  | size + 1, n => bigEndian size (n / 256) ++ [UInt8.ofNat (n % 256)]

def ofBigEndian (bytes : Bytes) : Nat := bytes.foldl (fun n b => n * 256 + b.toNat) 0

/-- Parts of a given length, the last perhaps shorter. -/
def chunks {α : Type} (size : Nat) : Nat → List α → List (List α)
  | 0, _ => []
  | count + 1, items => items.take size :: chunks size count (items.drop size)

/-- A message with a set bit, as many zeros as needed, and its length in bits. -/
def pad (w : Nat) (message : Bytes) : Bytes :=
  let block := 2 * w
  let lengthSize := w / 4
  let zeros := (block - (message.length + 1 + lengthSize) % block) % block
  message ++ 0x80 :: List.replicate zeros 0 ++ bigEndian lengthSize (8 * message.length)

def run (family : Family w) (initial : State w) (message : Bytes) : State w :=
  let bytes := pad w message
  let blocks := chunks (2 * w) (bytes.length / (2 * w)) bytes
  blocks.foldl (fun s block =>
    compress family s ((chunks (w / 8) 16 block).map fun word => BitVec.ofNat w (ofBigEndian word)))
    initial

def State.octets (s : State w) : Bytes :=
  [s.a, s.b, s.c, s.d, s.e, s.f, s.g, s.h].flatMap fun word => bigEndian (w / 8) word.toNat

def State.ofWords (words : List (BitVec w)) : State w :=
  let word (i : Nat) := words.getD i 0
  ⟨word 0, word 1, word 2, word 3, word 4, word 5, word 6, word 7⟩

def constants : List (BitVec 64) := [
  0x428A2F98D728AE22, 0x7137449123EF65CD, 0xB5C0FBCFEC4D3B2F, 0xE9B5DBA58189DBBC,
  0x3956C25BF348B538, 0x59F111F1B605D019, 0x923F82A4AF194F9B, 0xAB1C5ED5DA6D8118,
  0xD807AA98A3030242, 0x12835B0145706FBE, 0x243185BE4EE4B28C, 0x550C7DC3D5FFB4E2,
  0x72BE5D74F27B896F, 0x80DEB1FE3B1696B1, 0x9BDC06A725C71235, 0xC19BF174CF692694,
  0xE49B69C19EF14AD2, 0xEFBE4786384F25E3, 0x0FC19DC68B8CD5B5, 0x240CA1CC77AC9C65,
  0x2DE92C6F592B0275, 0x4A7484AA6EA6E483, 0x5CB0A9DCBD41FBD4, 0x76F988DA831153B5,
  0x983E5152EE66DFAB, 0xA831C66D2DB43210, 0xB00327C898FB213F, 0xBF597FC7BEEF0EE4,
  0xC6E00BF33DA88FC2, 0xD5A79147930AA725, 0x06CA6351E003826F, 0x142929670A0E6E70,
  0x27B70A8546D22FFC, 0x2E1B21385C26C926, 0x4D2C6DFC5AC42AED, 0x53380D139D95B3DF,
  0x650A73548BAF63DE, 0x766A0ABB3C77B2A8, 0x81C2C92E47EDAEE6, 0x92722C851482353B,
  0xA2BFE8A14CF10364, 0xA81A664BBC423001, 0xC24B8B70D0F89791, 0xC76C51A30654BE30,
  0xD192E819D6EF5218, 0xD69906245565A910, 0xF40E35855771202A, 0x106AA07032BBD1B8,
  0x19A4C116B8D2D0C8, 0x1E376C085141AB53, 0x2748774CDF8EEB99, 0x34B0BCB5E19B48A8,
  0x391C0CB3C5C95A63, 0x4ED8AA4AE3418ACB, 0x5B9CCA4F7763E373, 0x682E6FF3D6B2B8A3,
  0x748F82EE5DEFB2FC, 0x78A5636F43172F60, 0x84C87814A1F0AB72, 0x8CC702081A6439EC,
  0x90BEFFFA23631E28, 0xA4506CEBDE82BDE9, 0xBEF9A3F7B2C67915, 0xC67178F2E372532B,
  0xCA273ECEEA26619C, 0xD186B8C721C0C207, 0xEADA7DD6CDE0EB1E, 0xF57D4F7FEE6ED178,
  0x06F067AA72176FBA, 0x0A637DC5A2C898A6, 0x113F9804BEF90DAE, 0x1B710B35131C471B,
  0x28DB77F523047D84, 0x32CAAB7B40C72493, 0x3C9EBE0A15C9BEBC, 0x431D67C49C100D4C,
  0x4CC5D4BECB3E42B6, 0x597F299CFC657E2A, 0x5FCB6FAB3AD6FAEC, 0x6C44198C4A475817]

/-- The roots that the initial states are taken from. -/
def roots : List (BitVec 64) := [
  0x6A09E667F3BCC908, 0xBB67AE8584CAA73B, 0x3C6EF372FE94F82B, 0xA54FF53A5F1D36F1,
  0x510E527FADE682D1, 0x9B05688C2B3E6C1F, 0x1F83D9ABFB41BD6B, 0x5BE0CD19137E2179,
  0xCBBB9D5DC1059ED8, 0x629A292A367CD507, 0x9159015A3070DD17, 0x152FECD8F70E5939,
  0x67332667FFC00B31, 0x8EB44A8768581511, 0xDB0C2E0D64F98FA7, 0x47B5481DBEFA4FA4]

def firstHalf (x : BitVec 64) : BitVec 32 := (x >>> 32).truncate 32

/-- The members of the family with words of thirty-two bits. -/
def short : Family 32 where
  constants := (constants.take 64).map firstHalf
  first := (2, 13, 22)
  fifth := (6, 11, 25)
  far := (7, 18, 3)
  near := (17, 19, 10)

/-- The members of the family with words of sixty-four bits. -/
def long : Family 64 where
  constants := constants
  first := (28, 34, 39)
  fifth := (14, 18, 41)
  far := (1, 8, 7)
  near := (19, 61, 6)

def sha256 (message : Bytes) : Bytes :=
  (run short (.ofWords ((roots.take 8).map firstHalf)) message).octets

def sha384 (message : Bytes) : Bytes :=
  (run long (.ofWords (roots.drop 8)) message).octets.take 48

def sha512 (message : Bytes) : Bytes :=
  (run long (.ofWords roots) message).octets

end UploadInbox.Sha2
