import Brokerage.Text.Percent
import Brokerage.Text.Pieces

/-!
Forms: names and values in one line of text, with an equals sign between a name and its value and
an ampersand between two pairs. A plus sign stands for a space, and everything else that could be
mistaken is percent-encoded.
-/

namespace Brokerage.Text.Form

/-- The text of a name or a value; bytes that are no text are replaced. -/
def decode (cs : List Char) : List Char :=
  Utf8.decodeLossy (Percent.bytes (cs.map fun c => if c = '+' then ' ' else c))

/-- The names and values of a form, in order. A pair without an equals sign has an empty value, and
what is empty is no pair. -/
def pairs (cs : List Char) : List (String × String) :=
  ((pieces '&' cs).filter (· ≠ [])).map fun pair =>
    let (name, value) := cut '=' pair
    (String.ofList (decode name), String.ofList (decode value))

/-- One byte of a name or a value as it is written in a form. -/
def encodeByte (b : UInt8) : List Char :=
  let n := b.toNat
  if n = 32 then ['+']
  else if Percent.isAlphanumericByte b || n == 42 || n == 45 || n == 46 || n == 95 then
    [Char.ofNat n]
  else Percent.escapeByte b

def encode (cs : List Char) : List Char := (Utf8.encode cs).flatMap encodeByte

end Brokerage.Text.Form
