/-! A stream of pseudo-random 64-bit words.
The words are those of the ChaCha cipher with twelve rounds, under a key spread out from a seed. The
word at a position is computed from the position alone, so there is no buffer to keep. -/
namespace CollectorBench

structure StreamKey where
  words : Vector UInt32 8
  deriving DecidableEq, Repr

namespace StreamKey

def spread (state : UInt64) : UInt64 :=
  state * 6364136223846793005 + 11634580027462260723

def rotateRight (word amount : UInt32) : UInt32 :=
  (word >>> amount) ||| (word <<< ((32 - amount) % 32))

def wordOf (state : UInt64) : UInt32 :=
  let mixed := (((state >>> 18) ^^^ state) >>> 27).toUInt32
  rotateRight mixed (state >>> 59).toUInt32

def states (seed : UInt64) : Nat → UInt64
  | 0 => spread seed
  | step + 1 => spread (states seed step)

def ofSeed (seed : UInt64) : StreamKey :=
  { words := Vector.ofFn fun place => wordOf (states seed place) }

end StreamKey

namespace Keystream

abbrev Block := Vector UInt32 16

def rotateLeft (word amount : UInt32) : UInt32 :=
  (word <<< amount) ||| (word >>> (32 - amount))

def quarterRound (block : Block) (a b c d : Fin 16) : Block :=
  let wa := block[a] + block[b]
  let wd := rotateLeft (block[d] ^^^ wa) 16
  let wc := block[c] + wd
  let wb := rotateLeft (block[b] ^^^ wc) 12
  let wa := wa + wb
  let wd := rotateLeft (wd ^^^ wa) 8
  let wc := wc + wd
  let wb := rotateLeft (wb ^^^ wc) 7
  (((block.set a wa).set b wb).set c wc).set d wd

def doubleRound (block : Block) : Block :=
  [(0,4,8,12),(1,5,9,13),(2,6,10,14),(3,7,11,15),
    (0,5,10,15),(1,6,11,12),(2,7,8,13),(3,4,9,14)].foldl
    (fun block (a,b,c,d) => quarterRound block a b c d) block

def rounds (block : Block) : Nat → Block
  | 0 => block
  | count + 1 => rounds (doubleRound block) count

/-- Four constants, the key, the number of the block and a zero nonce. -/
def start (key : StreamKey) (number : UInt64) : Block :=
  #v[0x61707865,0x3320646e,0x79622d32,0x6b206574,
    key.words[0],key.words[1],key.words[2],key.words[3],
    key.words[4],key.words[5],key.words[6],key.words[7],
    number.toUInt32,(number >>> 32).toUInt32,0,0]

def block (key : StreamKey) (number : UInt64) : Block :=
  let first := start key number
  Vector.zipWith (· + ·) (rounds first 6) first

/-- The 64-bit word at a position: two words of a block, the low one first. -/
def word (key : StreamKey) (position : Nat) : UInt64 :=
  let words := block key (UInt64.ofNat (position / 8))
  let low := words.get ⟨2 * (position % 8),by omega⟩
  let high := words.get ⟨2 * (position % 8) + 1,by omega⟩
  low.toUInt64 ||| (high.toUInt64 <<< 32)

/-- The number of words after which the stream begins again: eight from each block. -/
def period : Nat := 8 * 0x10000000000000000

end Keystream
end CollectorBench
