import FrameChain.Text.Glyphless
import FrameChain.Word
/-!
# Quoted text

The form in which messages show a text: between double quotes, with a
backslash before quotes and backslashes, letters for the common controls, and
the code point in braces for every other character that shows nothing by
itself.
-/

namespace FrameChain.Text

def codePointEscape (character : Char) : String :=
  "\\u\x7b" ++ Word.hexDigits character.toNat ++ "\x7d"

def quotedCharacter (character : Char) : String :=
  if character = '"' then "\\\""
  else if character = '\\' then "\\\\"
  else if character = '\n' then "\\n"
  else if character = '\r' then "\\r"
  else if character = '\t' then "\\t"
  else if character = '\x00' then "\\0"
  else if Glyphless.holds character then codePointEscape character
  else character.toString

/-- A text in quotes, with its special characters escaped. -/
def quoted (text : String) : String :=
  "\"" ++ String.join (text.toList.map quotedCharacter) ++ "\""

end FrameChain.Text
