/-
This file folds letters so that texts can be compared without regard to case. Letters of
scripts with two cases become small. A letter that stands for several ones, such as the
sharp `s`, becomes these.
-/

import BookMarkup.Text.Basic

namespace BookMarkup

namespace Fold

/-- Ranges of capital letters and the distance from each of them to its small letter. -/
def shifted : List (Nat × Nat × Nat) :=
  [(0x41, 0x5A, 0x20), (0xC0, 0xD6, 0x20), (0xD8, 0xDE, 0x20), (0x386, 0x386, 0x26),
   (0x388, 0x38A, 0x25), (0x38C, 0x38C, 0x40), (0x38E, 0x38F, 0x3F), (0x391, 0x3A1, 0x20),
   (0x3A3, 0x3AB, 0x20), (0x400, 0x40F, 0x50), (0x410, 0x42F, 0x20), (0x531, 0x556, 0x30),
   (0xFF21, 0xFF3A, 0x20), (0x10400, 0x10427, 0x28)]

/-- Ranges in which every capital letter has an even code point and its small letter follows. -/
def evenPairs : List (Nat × Nat) :=
  [(0x100, 0x12F), (0x132, 0x137), (0x14A, 0x177), (0x1DE, 0x1EF), (0x1F8, 0x21F), (0x222, 0x233),
   (0x370, 0x373), (0x3D8, 0x3EF), (0x460, 0x481), (0x48A, 0x4BF), (0x4D0, 0x52F),
   (0x1E00, 0x1E95), (0x1EA0, 0x1EFF)]

/-- Ranges in which every capital letter has an odd code point and its small letter follows. -/
def oddPairs : List (Nat × Nat) :=
  [(0x139, 0x148), (0x179, 0x17E), (0x1CD, 0x1DC), (0x4C1, 0x4CE)]

/-- Letters that fold to something else than the letter at a fixed distance. -/
def special : List (Char × Text) :=
  [('\u00B5', ['\u03BC']), ('\u00DF', ['s', 's']), ('\u1E9E', ['s', 's']),
   ('\u0130', ['i', '\u0307']), ('\u0131', ['i']), ('\u0178', ['\u00FF']), ('\u017F', ['s']),
   ('\u03C2', ['\u03C3']), ('\u212A', ['k']), ('\u212B', ['\u00E5']), ('\uFB00', ['f', 'f']),
   ('\uFB01', ['f', 'i']), ('\uFB02', ['f', 'l']), ('\uFB03', ['f', 'f', 'i']),
   ('\uFB04', ['f', 'f', 'l'])]

/-- The code point of the small letter to a capital one, or the code point itself. -/
def smallCode (code : Nat) : Nat :=
  match shifted.find? fun (first, last, _) => first ≤ code && code ≤ last with
  | some (_, _, distance) => code + distance
  | none =>
    let isIn := fun (ranges : List (Nat × Nat)) =>
      ranges.any fun (first, last) => first ≤ code && code ≤ last
    if (code % 2 == 0 && isIn evenPairs) || (code % 2 == 1 && isIn oddPairs) then code + 1 else code

/-- What a character is compared as. -/
def char (c : Char) : Text :=
  (special.lookup c).getD [Char.ofNat (smallCode c.toNat)]

end Fold

namespace Text

/-- The form in which texts are compared without regard to case. -/
def fold (text : Text) : Text :=
  text.flatMap Fold.char

end Text

end BookMarkup
