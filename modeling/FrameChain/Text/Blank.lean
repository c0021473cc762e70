/-!
# Blank characters

The characters with the Unicode property White_Space, and the text between
the blanks at its two ends.
-/

namespace FrameChain.Text

def IsBlank (character : Char) : Prop :=
  let code := character.toNat
  (0x09 ≤ code ∧ code ≤ 0x0D) ∨ code = 0x20 ∨ code = 0x85 ∨ code = 0xA0 ∨
    code = 0x1680 ∨ (0x2000 ≤ code ∧ code ≤ 0x200A) ∨ code = 0x2028 ∨
    code = 0x2029 ∨ code = 0x202F ∨ code = 0x205F ∨ code = 0x3000

instance (character : Char) : Decidable (IsBlank character) :=
  inferInstanceAs (Decidable (_ ∨ _))

/-- The characters left when the blanks at both ends are dropped. -/
def trim (characters : List Char) : List Char :=
  ((characters.dropWhile (IsBlank ·)).reverse.dropWhile (IsBlank ·)).reverse

/-- The lower-case form of the ASCII capitals; other characters stay. -/
def lowerAscii (characters : List Char) : List Char :=
  characters.map Char.toLower

end FrameChain.Text
