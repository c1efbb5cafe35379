import MetricRouter.Text.Utf8

/-!
# Hashes of texts

`hash` mixes the bytes of a text into a number of 64 bits. The bytes are read as blocks of two words, and each
block is mixed in by the product of its words under two keys, folded into one word. There are more texts than
numbers of 64 bits, so a hash can stand for a text only where it does no harm that another text has it too.

* `foldedProduct` — the two halves of a product in one word;
* `blocks` — the blocks of some bytes; those at the end may overlap;
* `hash` — the blocks mixed in, one after another.
-/

namespace MetricRouter.Text

/-! ## Words -/

/-- The word that up to eight bytes stand for, the least significant one first. -/
def word (bytes : List UInt8) : UInt64 := bytes.foldr (fun b n => b.toUInt64 + 256 * n) 0

/-- The two halves of a product, folded into one word. -/
def foldedProduct (a b : UInt64) : UInt64 :=
  let product := a.toNat * b.toNat
  UInt64.ofNat product ^^^ UInt64.ofNat (product / UInt64.size)

/-- The word turned to the left, its highest bits coming back as the lowest. -/
def turnLeft (a bits : UInt64) : UInt64 := a <<< bits ||| a >>> (64 - bits)

/-! ## Blocks -/

/-- Two words that are mixed in at once. -/
structure Block where
  left : UInt64
  right : UInt64

/-- The first and the last so many bytes as a block. -/
def ends (first last : Nat) (bytes : List UInt8) : Block :=
  ⟨word (bytes.take first), word (bytes.drop (bytes.length - last))⟩

/-- The blocks of some bytes. Up to sixteen bytes are one block, whose words overlap if there are fewer. Of more
bytes the last sixteen come first, and then the others from the start on. -/
def blocks (bytes : List UInt8) : List Block :=
  let n := bytes.length
  if n ≤ 1 then [ends 1 1 bytes]
  else if n ≤ 3 then [ends 2 1 bytes]
  else if n ≤ 8 then [ends 4 4 bytes]
  else if n ≤ 16 then [ends 8 8 bytes]
  else
    ends 8 8 (bytes.drop (n - 16)) ::
      (List.range ((n - 1) / 16)).map (fun i => ends 8 8 ((bytes.drop (16 * i)).take 16))

/-! ## Hashes -/

namespace Hash

/-- The word before anything is mixed in. The keys are words of the fraction of the circle number, two by two. -/
def start : UInt64 := 0x13198a2e03707344 ^^^ 0xbe5466cf34e90c6c

/-- What is added before a block is mixed in, and what the last word is multiplied by. -/
def pad : UInt64 := 0x243f6a8885a308d3 ^^^ 0x452821e638d01377

/-- The key of the left word of a block. -/
def leftKey : UInt64 := 0xa4093822299f31d0 ^^^ 0xc0ac29b7c97c50dd

/-- The key of the right word of a block. -/
def rightKey : UInt64 := 0x082efa98ec4e6c89 ^^^ 0x3f84d5b5b5470917

/-- The factor of single words. -/
def factor : UInt64 := 6364136223846793005

/-- The word after a block was mixed in. -/
def mix (w : UInt64) (b : Block) : UInt64 :=
  turnLeft ((w + pad) ^^^ foldedProduct (b.left ^^^ leftKey) (b.right ^^^ rightKey)) 23

/-- The word after the end of a text was mixed in. -/
def mixEnd (w : UInt64) : UInt64 := foldedProduct (0xff ^^^ w) factor

/-- The last step, which keeps no bit in its place. -/
def finish (w : UInt64) : UInt64 := turnLeft (foldedProduct w pad) (w &&& 63)

end Hash

/-- The hash of a text. -/
def hash (s : String) : Nat :=
  let bytes := utf8 s
  let first := (Hash.start + UInt64.ofNat bytes.length) * Hash.factor
  (Hash.finish (Hash.mixEnd ((blocks bytes).foldl Hash.mix first))).toNat

end MetricRouter.Text
