import RowQuery.Text.Canonical.CombiningClass
import RowQuery.Text.Canonical.Composite
import RowQuery.Text.Canonical.Variant

/-!
# The composed form of a text

Texts that mean the same to a reader may be written with composed characters or with marks behind
plain ones. `compose` gives one form for all of them: every character is decomposed, marks are put
in the order of their classes, and then each mark that can is composed with the character it stands
behind, unless a mark between them is of the same class or a higher one.
-/
namespace RowQuery.Text

/-! ## Syllables of Hangul -/

namespace Hangul

def first : Nat := 0xac00

def count : Nat := 11172

def letters (n : Nat) : List Nat :=
  let i := n - first
  let last := i % 28
  [0x1100 + i / 588, 0x1161 + i % 588 / 28] ++ if last = 0 then [] else [0x11a7 + last]

def isSyllable (n : Nat) : Bool := first ≤ n && n < first + count

def isOpen (n : Nat) : Bool := isSyllable n && (n - first) % 28 = 0

def composite? (a b : Nat) : Option Nat :=
  if 0x1100 ≤ a && a ≤ 0x1112 && 0x1161 ≤ b && b ≤ 0x1175 then
    some (first + (a - 0x1100) * 588 + (b - 0x1161) * 28)
  else if isOpen a && 0x11a8 ≤ b && b ≤ 0x11c2 then some (a + (b - 0x11a7))
  else none

end Hangul

/-! ## Decomposition -/

def plainForm (n : Nat) : List Nat :=
  if Hangul.isSyllable n then Hangul.letters n
  else
    match variants.get? n, sequences.lookup n with
    | some form, _ => [form]
    | none, some form => form
    | none, none => [n]

def decomposeTo : Nat → Nat → List Nat
  | 0, n => plainForm n
  | marks + 1, n =>
    match parts? n with
    | some (base, mark) => decomposeTo marks base ++ [mark]
    | none => plainForm n

/-- No character has more marks. -/
def maxMarks : Nat := 3

def decompose (c : Char) : List Char :=
  if c.toNat < 0x80 then [c] else (decomposeTo maxMarks c.toNat).map Char.ofNat

/-! ## Order of marks -/

abbrev Classed := Char × Nat

def place (c : Classed) : List Classed → List Classed
  | [] => [c]
  | d :: rest => if 0 < d.2 && d.2 < c.2 then d :: place c rest else c :: d :: rest

def ordered (s : List Classed) : List Classed := s.foldr place []

/-! ## Composition -/

def composite (a b : Char) : Option Char :=
  ((Hangul.composite? a.toNat b.toNat).or (composite? a.toNat b.toNat)).map Char.ofNat

/-- Composes a character with what follows it. `kept` holds the marks behind it that did not
compose, the last one first. -/
def composeFrom (base : Char) (kept : List Classed) : List Classed → List Char
  | [] => base :: (kept.reverse.map Prod.fst)
  | (c, k) :: rest =>
    let isBlocked := kept.head?.any (k ≤ ·.2)
    match if isBlocked then none else composite base c with
    | some base => composeFrom base kept rest
    | none =>
      if k = 0 then base :: (kept.reverse.map Prod.fst ++ composeFrom c [] rest)
      else composeFrom base ((c, k) :: kept) rest

def composeOrdered : List Classed → List Char
  | [] => []
  | (c, k) :: rest => if k = 0 then composeFrom c [] rest else c :: composeOrdered rest

def compose (s : List Char) : List Char :=
  composeOrdered (ordered ((s.flatMap decompose).map fun c => (c, combiningClass c)))

end RowQuery.Text
