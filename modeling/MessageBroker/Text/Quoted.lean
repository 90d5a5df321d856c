import MessageBroker.Hex

/-!
# Quoted text

Where a text is shown to people it stands between double quotes on one line. Quotes and backslashes
have a backslash before them, four common control characters have a letter of their own, and a
character that would not be seen, or that would merge with its neighbour, is shown by its number.
-/

namespace MessageBroker.Text

/-- Characters without a visible form: controls, blanks other than the space, marks of direction and
format, private use, and what is not a character at all. -/
def unseen : List (Nat × Nat) :=
  [(0x00, 0x1f), (0x7f, 0xa0), (0xad, 0xad), (0x600, 0x605), (0x61c, 0x61c), (0x6dd, 0x6dd),
    (0x70f, 0x70f), (0x890, 0x891), (0x8e2, 0x8e2), (0x1680, 0x1680), (0x180e, 0x180e),
    (0x2000, 0x200f), (0x2028, 0x202f), (0x205f, 0x206f), (0x3000, 0x3000), (0xd800, 0xf8ff),
    (0xfeff, 0xfeff), (0xfff0, 0xfffb), (0xfffe, 0xffff), (0xe0000, 0x10ffff)]

/-- Blocks of marks that are drawn onto the character before them. -/
def merging : List (Nat × Nat) :=
  [(0x300, 0x36f), (0x483, 0x489), (0x591, 0x5bd), (0x610, 0x61a), (0x64b, 0x65f), (0x1ab0, 0x1ace),
    (0x1dc0, 0x1dff), (0x20d0, 0x20f0), (0x3099, 0x309a), (0xfe00, 0xfe0f), (0xfe20, 0xfe2f)]

/-- Whether a character is shown by its number. -/
def isNumbered (c : Char) : Bool :=
  (unseen ++ merging).any fun range => range.1 ≤ c.toNat && c.toNat ≤ range.2

/-- How a character is shown between quotes. -/
def showChar (c : Char) : String :=
  if c = '"' then "\\\""
  else if c = '\\' then "\\\\"
  else if c = '\n' then "\\n"
  else if c = '\r' then "\\r"
  else if c = '\t' then "\\t"
  else if c.toNat = 0 then "\\0"
  else if isNumbered c then "\\u\x7b" ++ Hex.number c.toNat ++ "\x7d"
  else String.singleton c

/-- A text between quotes. -/
def quote (s : String) : String :=
  "\"" ++ String.join (s.toList.map showChar) ++ "\""

end MessageBroker.Text
