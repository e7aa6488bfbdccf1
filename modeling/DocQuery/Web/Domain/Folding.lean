import DocQuery.Text.Ascii
import DocQuery.Text.Canonical.NormalForm
import DocQuery.Text.Graphic
import DocQuery.Web.Domain.Shift
import DocQuery.Web.Domain.Spelling

namespace DocQuery.Web.Domain

open Text (isAscii)
open Text.Canonical (decompose entry? normalForm)

def ignoredRanges : Text.CodeRanges :=
  [(0xAD, 0xAD), (0x34F, 0x34F), (0x115F, 0x1160), (0x17B4, 0x17B5), (0x180B, 0x180F),
  (0x200B, 0x200B), (0x2060, 0x2064), (0x206A, 0x206F), (0x3164, 0x3164), (0xFE00, 0xFE0F),
  (0xFEFF, 0xFEFF), (0xFFA0, 0xFFA0), (0x1BCA0, 0x1BCA3), (0x1D173, 0x1D17A), (0xE0100, 0xE01EF)]

/-- The code points that have a glyph but no place in a name. -/
def refusedRanges : Text.CodeRanges :=
  [(0x2024, 0x2026), (0x2488, 0x249B), (0x2FF0, 0x2FFF), (0x31EF, 0x31EF), (0x33C2, 0x33C2),
  (0x33C7, 0x33C7), (0x33D8, 0x33D8), (0xFE12, 0xFE12), (0xFE19, 0xFE19), (0xFE30, 0xFE30),
  (0xFE52, 0xFE52), (0xFFFC, 0xFFFD), (0x1F100, 0x1F100)]

/-- The code points that have a place in a name, though the tables of texts do not know them yet. -/
def recentRanges : Text.CodeRanges :=
  [(0x20C2, 0x20C3), (0x3D000, 0x3FC3F)]

def nonJoiner : Char := '\u200C'

def joiner : Char := '\u200D'

def isJoiner (c : Char) : Bool :=
  c == nonJoiner || c == joiner

def listed? (c : Char) : Option (List Char) :=
  match shifts.findSome? (·.image? c.toNat) with
  | some n => some [Char.ofNat n]
  | none =>
    match entry? respelled c with
    | some d => some [d]
    | none =>
      spelledOut.findSome? fun (first, texts) =>
        if first ≤ c.toNat then texts[c.toNat - first]?.map String.toList else none

def substitute? (c : Char) : Option (List Char) :=
  match listed? c with
  | some cs => some cs
  | none =>
    if ignoredRanges.contains c.toNat then some []
    else if isJoiner c || recentRanges.contains c.toNat then some [c]
    else if Text.isHidden c || refusedRanges.contains c.toNat then none
    else some [c]

/-- A name as it is compared. Of ASCII only the letters change. -/
def fold? (cs : List Char) : Option (List Char) :=
  if cs.all isAscii then some (cs.map Char.toLower)
  else ((decompose cs).mapM substitute?).map fun texts => normalForm texts.flatten

end DocQuery.Web.Domain
