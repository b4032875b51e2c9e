-- The 256-bit Keccak digest with the padding byte `0x01`, which names the functions of a
-- contract: the first four bytes of the digest of a signature are its selector. A state is
-- twenty-five words, word `x + 5 * y` standing in column `x` of plane `y`.
namespace ContractHooks.Digest

/-! ## The permutation -/

/-- A Keccak state. -/
abbrev State := Vector UInt64 25

/-- The word of column `x` and plane `y`, both taken modulo five. -/
def State.word (a : State) (x y : Nat) : UInt64 :=
  a[x % 5 + 5 * (y % 5)]

/-- The state whose words a function of column and plane gives. -/
def State.build (f : Nat → Nat → UInt64) : State :=
  Vector.ofFn fun i : Fin 25 => f (i.val % 5) (i.val / 5)

/-- A word turned left by a number of bits. -/
def rotateLeft (w : UInt64) (n : UInt64) : UInt64 :=
  (w <<< n) ||| (w >>> (64 - n))

/-- How far the word at each place is turned. -/
def turns : Vector UInt64 25 :=
  #v[0, 1, 62, 28, 27, 36, 44, 6, 55, 20, 3, 10, 43, 25, 39, 41, 45, 15, 21, 8, 18, 2, 61, 56, 14]

/-- The constants of the twenty-four rounds. -/
def roundConstants : List UInt64 :=
  [0x0000000000000001, 0x0000000000008082, 0x800000000000808A, 0x8000000080008000,
   0x000000000000808B, 0x0000000080000001, 0x8000000080008081, 0x8000000000008009,
   0x000000000000008A, 0x0000000000000088, 0x0000000080008009, 0x000000008000000A,
   0x000000008000808B, 0x800000000000008B, 0x8000000000008089, 0x8000000000008003,
   0x8000000000008002, 0x8000000000000080, 0x000000000000800A, 0x800000008000000A,
   0x8000000080008081, 0x8000000000008080, 0x0000000080000001, 0x8000000080008008]

/-- Each word takes in the parities of two neighbouring columns. -/
def mixColumns (a : State) : State :=
  let parity : Vector UInt64 5 := Vector.ofFn fun i : Fin 5 =>
    a.word i 0 ^^^ a.word i 1 ^^^ a.word i 2 ^^^ a.word i 3 ^^^ a.word i 4
  State.build fun x y =>
    a.word x y ^^^ parity[(x + 4) % 5] ^^^ rotateLeft parity[(x + 1) % 5] 1

/-- Each word is turned by its amount and moved to its new place. -/
def scatter (a : State) : State :=
  State.build fun x y =>
    let from_ := (x + 3 * y) % 5 + 5 * (x % 5)
    rotateLeft a[from_] turns[from_]

/-- Each word takes in the next two words of its plane. -/
def mixPlanes (b : State) : State :=
  State.build fun x y => b.word x y ^^^ (~~~(b.word (x + 1) y) &&& b.word (x + 2) y)

/-- One round with its constant. -/
def round (a : State) (constant : UInt64) : State :=
  let mixed := mixPlanes (scatter (mixColumns a))
  mixed.set 0 (mixed[0] ^^^ constant)

/-- All rounds in order. -/
def permute (a : State) : State := roundConstants.foldl round a

/-! ## The sponge -/

/-- The bytes one block holds. -/
def blockSize : Nat := 136

/-- The word that bytes spell, the lowest byte first. -/
def wordOfBytes (bs : List UInt8) : UInt64 :=
  bs.foldr (fun b w => (w <<< 8) ||| b.toUInt64) 0

/-- The bytes of a word, the lowest first. -/
def bytesOfWord (w : UInt64) : List UInt8 :=
  (List.range 8).map fun i => (w >>> (8 * UInt64.ofNat i)).toUInt8

/-- The message filled up to whole blocks: `0x01`, zeros, and the top bit of the last byte. -/
def padded (message : List UInt8) : List UInt8 :=
  let missing := blockSize - message.length % blockSize
  if missing = 1 then message ++ [0x81]
  else message ++ 0x01 :: List.replicate (missing - 2) 0x00 ++ [0x80]

/-- The state after it has taken in one block. -/
def absorb (a : State) (block : List UInt8) : State :=
  permute (State.build fun x y =>
    let i := x + 5 * y
    let w := a.word x y
    if 8 * i < blockSize then w ^^^ wordOfBytes ((block.drop (8 * i)).take 8) else w)

/-- The state after a number of blocks. -/
def absorbBlocks : Nat → State → List UInt8 → State
  | 0, a, _ => a
  | n + 1, a, bytes =>
    absorbBlocks n (absorb a (bytes.take blockSize)) (bytes.drop blockSize)

/-- The thirty-two bytes of the digest of a message. -/
def keccak256 (message : List UInt8) : List UInt8 :=
  let bytes := padded message
  let a := absorbBlocks (bytes.length / blockSize) (Vector.replicate 25 0) bytes
  (List.range 4).flatMap fun i => bytesOfWord (a.word i 0)

end ContractHooks.Digest
