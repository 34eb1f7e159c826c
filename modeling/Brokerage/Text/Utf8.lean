/-!
UTF-8: a text as bytes, and a row of bytes as a text. Not every row of bytes is a text. Its first
fault lies where the bytes so far could still have begun a character and the next one cannot go on;
bytes that the row ends in too early are cut off.
-/

namespace Brokerage.Text.Utf8

def encode (cs : List Char) : List UInt8 := cs.flatMap String.utf8EncodeChar

/-- A character of which some bytes are still to come. -/
structure Pending where
  /-- How many bytes are to come. -/
  left : Nat
  /-- The least and the greatest byte that can be next. -/
  low : Nat
  high : Nat
  /-- The code point as far as it is known. -/
  value : Nat
  /-- How many bytes were there. -/
  seen : Nat

/-- What a row of bytes is made of. -/
inductive Piece where
  /-- A character and the number of its bytes. -/
  | char (c : Char) (width : Nat)
  /-- Bytes that begin no character. -/
  | stray (length : Nat)
  /-- The beginning of a character, where the row ends. -/
  | unfinished

/-- A first byte: a whole character, the beginning of one, or neither. -/
def begin (b : UInt8) : List Piece × Option Pending :=
  let n := b.toNat
  let more (left low high value : Nat) : List Piece × Option Pending :=
    ([], some ⟨left, low, high, value, 1⟩)
  if n < 0x80 then ([.char (Char.ofNat n) 1], none)
  else if n < 0xc2 then ([.stray 1], none)
  else if n < 0xe0 then more 1 0x80 0xbf (n - 0xc0)
  else if n = 0xe0 then more 2 0xa0 0xbf (n - 0xe0)
  else if n = 0xed then more 2 0x80 0x9f (n - 0xe0)
  else if n < 0xf0 then more 2 0x80 0xbf (n - 0xe0)
  else if n = 0xf0 then more 3 0x90 0xbf (n - 0xf0)
  else if n < 0xf4 then more 3 0x80 0xbf (n - 0xf0)
  else if n = 0xf4 then more 3 0x80 0x8f (n - 0xf0)
  else ([.stray 1], none)

/-- The next byte. One that cannot go on with what is pending begins anew. -/
def advance (state : Option Pending) (b : UInt8) : List Piece × Option Pending :=
  match state with
  | none => begin b
  | some p =>
    if p.low ≤ b.toNat && b.toNat ≤ p.high then
      let value := p.value * 64 + b.toNat % 64
      if p.left ≤ 1 then ([.char (Char.ofNat value) (p.seen + 1)], none)
      else ([], some ⟨p.left - 1, 0x80, 0xbf, value, p.seen + 1⟩)
    else
      let (found, state) := begin b
      (.stray p.seen :: found, state)

def scan : Option Pending → List UInt8 → List Piece
  | none, [] => []
  | some _, [] => [.unfinished]
  | state, b :: rest =>
    let (found, state) := advance state b
    found ++ scan state rest

/-- Where the first fault lies, and how many bytes are wrong there; no number if the row ends too
early. -/
structure Fault where
  index : Nat
  length? : Option Nat
  deriving DecidableEq, Repr

def Fault.message (f : Fault) : String :=
  match f.length? with
  | some n =>
    "invalid utf-8 sequence of " ++ toString n ++ " bytes from index " ++ toString f.index
  | none => "incomplete utf-8 byte sequence from index " ++ toString f.index

/-- The characters of `pieces`, which start at `index`. -/
def characters : Nat → List Piece → Except Fault (List Char)
  | _, [] => .ok []
  | index, .char c width :: rest => (characters (index + width) rest).map (c :: ·)
  | index, .stray length :: _ => .error ⟨index, some length⟩
  | index, .unfinished :: _ => .error ⟨index, none⟩

/-- The text that `bytes` are. -/
def decode (bytes : List UInt8) : Except Fault (List Char) := characters 0 (scan none bytes)

/-- The replacement character, which stands for bytes that are no text. -/
def replacement : Char := '\ufffd'

/-- The text of `bytes`, with the replacement character for every fault. -/
def decodeLossy (bytes : List UInt8) : List Char :=
  (scan none bytes).map fun
    | .char c _ => c
    | .stray _ | .unfinished => replacement

end Brokerage.Text.Utf8
