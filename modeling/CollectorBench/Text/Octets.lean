import CollectorBench.Text.Bytes
/-! Bytes as text.
Each byte is written as the character of the same number, so that every sequence of bytes has a text
and no byte is lost. -/
namespace CollectorBench.Text

def ofBytes (bytes : Bytes) : List Char :=
  bytes.map fun byte => Char.ofNat byte.toNat

def toBytes (text : List Char) : Bytes :=
  text.map fun c => UInt8.ofNat c.toNat

def octets (text : String) : List Char :=
  ofBytes (encode text)

def unoctets (text : List Char) : String :=
  decodeLenient (toBytes text)

end CollectorBench.Text
