/-! Lines of bytes and the text they stand for.
A line ends at a line feed; what follows the last line feed is a line only if it is not empty. Bytes
are text if they are well-formed UTF-8; the lenient reading puts U+FFFD for each longest
beginning of a character that does not go on as one. -/
namespace CollectorBench.Text

abbrev Bytes := List UInt8

def encode (text : String) : Bytes :=
  text.toUTF8.data.toList

def decode? (bytes : Bytes) : Option String :=
  String.fromUTF8? (ByteArray.mk bytes.toArray)

def lineFeed : UInt8 := 10

def lines : Bytes → List Bytes
  | [] => []
  | byte :: rest =>
    if byte = lineFeed then [] :: lines rest
    else match lines rest with
      | [] => [[byte]]
      | line :: later => (byte :: line) :: later

/-- A complete line in front of other bytes is one line more. -/
theorem lines_append_lineFeed (line rest : Bytes) (inside : lineFeed ∉ line) :
    lines (line ++ lineFeed :: rest) = line :: lines rest := by
  induction line with
  | nil => simp [lines]
  | cons byte bytes ih =>
    have differs : byte ≠ lineFeed := fun same => inside (by simp [same])
    have later := ih fun member => inside (by simp [member])
    simp [lines,differs,later]

/-- How a character in UTF-8 begins: the number of bytes that have to follow, the bounds of the
first of those, and the bits that the first byte gives. -/
structure Lead where
  following : Nat
  low : UInt8
  high : UInt8
  bits : Nat

def lead? (byte : UInt8) : Option Lead :=
  let code := byte.toNat
  if code < 0x80 then some ⟨0,0x80,0xBF,code⟩
  else if code < 0xC2 then none
  else if code < 0xE0 then some ⟨1,0x80,0xBF,code - 0xC0⟩
  else if code < 0xF0 then
    some ⟨2,if code = 0xE0 then 0xA0 else 0x80,if code = 0xED then 0x9F else 0xBF,code - 0xE0⟩
  else if code < 0xF5 then
    some ⟨3,if code = 0xF0 then 0x90 else 0x80,if code = 0xF4 then 0x8F else 0xBF,code - 0xF0⟩
  else none

/-- Takes the bytes that have to follow; the result is the character's code, unless a byte is
missing or out of bounds, and the number of bytes taken. -/
def follow : Nat → UInt8 → UInt8 → Nat → Bytes → Option Nat × Nat
  | 0, _, _, bits, _ => (some bits,0)
  | _ + 1, _, _, _, [] => (none,0)
  | missing + 1, low, high, bits, byte :: rest =>
    if low ≤ byte ∧ byte ≤ high then
      let (code,taken) := follow missing 0x80 0xBF (bits * 64 + (byte.toNat - 0x80)) rest
      (code,taken + 1)
    else (none,0)

def replacement : Char := '\uFFFD'

/-- The characters of any bytes. The first argument counts bytes of the last character that are
still to be passed over. -/
def lenientFrom : Nat → Bytes → List Char
  | _, [] => []
  | passed + 1, _ :: rest => lenientFrom passed rest
  | 0, byte :: rest =>
    match lead? byte with
    | none => replacement :: lenientFrom 0 rest
    | some lead =>
      let (code,taken) := follow lead.following lead.low lead.high lead.bits rest
      (code.elim replacement Char.ofNat) :: lenientFrom taken rest

def decodeLenient (bytes : Bytes) : String :=
  String.ofList (lenientFrom 0 bytes)

end CollectorBench.Text
