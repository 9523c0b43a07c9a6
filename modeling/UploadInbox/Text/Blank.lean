import UploadInbox.Text.Basic

/-!
# Blank characters

The characters of Unicode's property White_Space, and the trimming and splitting that follow it.

Source: `collapse_whitespace` (`collapse`), with the trimming of tokens and lengths.
-/
namespace UploadInbox.Blank

def isBlank (c : Char) : Bool :=
  let n := c.toNat
  (9 ≤ n && n ≤ 13) || n == 0x20 || n == 0x85 || n == 0xA0 || n == 0x1680
    || (0x2000 ≤ n && n ≤ 0x200A) || n == 0x2028 || n == 0x2029 || n == 0x202F
    || n == 0x205F || n == 0x3000

def trim (t : Text) : Text := Text.trim isBlank t

/-- The words of a text, given what has been read of the current one in reverse. -/
def wordsFrom (current : Text) : Text → List Text
  | [] => if current.isEmpty then [] else [current.reverse]
  | c :: rest =>
    if isBlank c then
      if current.isEmpty then wordsFrom [] rest else current.reverse :: wordsFrom [] rest
    else wordsFrom (c :: current) rest

/-- The longest parts of a text without blanks. -/
def words (t : Text) : List Text := wordsFrom [] t

/-- The words of a text with one space between every two of them. -/
def collapse (t : Text) : Text := Text.join " " (words t)

end UploadInbox.Blank
