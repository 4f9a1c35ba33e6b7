import RowQuery.Text.Split
import RowQuery.Text.Utf8
import RowQuery.Text.Percent

/-!
# Form-encoded pairs

A form-encoded text is cut at ampersands; empty pieces are skipped, and the first equals sign of a
piece ends its name. In names and values a plus sign stands for a space, escapes are decoded, and
the bytes are read as UTF-8 with repair.
-/
namespace RowQuery.Form

def plusToSpace (b : UInt8) : UInt8 := if b = 0x2b then 0x20 else b

def decodePart (bytes : List UInt8) : String :=
  String.ofList (Utf8.decodeLossy (Percent.decode (bytes.map plusToSpace)))

def pairOf (piece : List UInt8) : String × String :=
  let (name, value) := Text.breakAt (· == 0x3d) piece
  (decodePart name, decodePart (value.getD []))

def pairs (text : String) : List (String × String) :=
  let pieces := Text.splitBy (· == 0x26) (Utf8.encode text.toList)
  (pieces.filter fun piece => !piece.isEmpty).map pairOf

def lastValue (name : String) (pairs : List (String × String)) : Option String :=
  pairs.reverse.lookup name

end RowQuery.Form
