import MessageBroker.Hex

/-!
# Texts and blanks in TOML

A reader takes a list of characters and answers with what it read and the rest, or with nothing if
what it reads is not there. The texts of a document are written in four ways: between single or
double quotes, on one line or on several. Double quotes admit escapes, single quotes take every
character as it is. A line break directly after the opening of a text on several lines does not
belong to it, and every line break in it counts as a line feed.

Readers that repeat carry a bound on the number of repetitions; the length of the input is enough.
-/

namespace MessageBroker.Toml

/-- The rest of the input. -/
abbrev Rest := List Char

/-- A space or a tab. -/
def isBlank (c : Char) : Bool :=
  c == ' ' || c == '\t'

/-- Skip spaces and tabs. -/
def skipBlanks (cs : Rest) : Rest :=
  cs.dropWhile isBlank

/-- Whether a character may stand in a comment or a text: it is a tab or no control character. -/
def isPlain (c : Char) : Bool :=
  c == '\t' || (0x20 ≤ c.toNat && c.toNat != 0x7f)

/-- The input after a line break. -/
def afterBreak? : Rest → Option Rest
  | '\n' :: rest => some rest
  | '\r' :: '\n' :: rest => some rest
  | _ => none

/-- Skip a comment, which goes up to the end of its line. -/
def skipComment : Rest → Rest
  | '#' :: rest => rest.dropWhile isPlain
  | cs => cs

/-- The input after the end of a line, where only blanks and a comment may come before it. -/
def endLine? (cs : Rest) : Option Rest :=
  match skipComment (skipBlanks cs) with
  | [] => some []
  | cs => afterBreak? cs

/-- Skip blanks, comments and line breaks. -/
def skipGaps : (bound : Nat) → Rest → Rest
  | 0, cs => cs
  | bound + 1, cs =>
    let cs := skipComment (skipBlanks cs)
    match afterBreak? cs with
    | some rest => skipGaps bound rest
    | none => cs

/-- The character with the number written in the first `width` hexadecimal digits. -/
def numbered? (width : Nat) (cs : Rest) : Option (Char × Rest) :=
  let digits := cs.take width
  if digits.length = width then
    (digits.foldlM (fun n c => (Hex.value? c).map (n * 16 + ·)) 0).bind fun n =>
      if n.isValidChar then some (Char.ofNat n, cs.drop width) else none
  else none

/-- The character that an escape stands for; the backslash has been read. -/
def escape? : Rest → Option (Char × Rest)
  | 'b' :: rest => some ('\x08', rest)
  | 't' :: rest => some ('\t', rest)
  | 'n' :: rest => some ('\n', rest)
  | 'f' :: rest => some ('\x0c', rest)
  | 'r' :: rest => some ('\r', rest)
  | '"' :: rest => some ('"', rest)
  | '\\' :: rest => some ('\\', rest)
  | 'u' :: rest => numbered? 4 rest
  | 'U' :: rest => numbered? 8 rest
  | _ => none

/-- The text whose characters were read, the last one first. -/
def textOf (read : List Char) : String :=
  String.ofList read.reverse

/-- A text on one line up to its closing quote. -/
def shortText? (quote : Char) (escapes : Bool) :
    (bound : Nat) → (read : List Char) → Rest → Option (String × Rest)
  | 0, _, _ => none
  | _, _, [] => none
  | bound + 1, read, c :: rest =>
    if c = quote then some (textOf read, rest)
    else if c = '\\' && escapes then
      (escape? rest).bind fun (c, rest) => shortText? quote escapes bound (c :: read) rest
    else if isPlain c then shortText? quote escapes bound (c :: read) rest
    else none

/-- The input after a backslash at the end of a line: blanks and line breaks up to the next other
character do not count. -/
def afterFold? (cs : Rest) : Option Rest :=
  (afterBreak? (skipBlanks cs)).map fun rest =>
    rest.dropWhile fun c => isBlank c || c == '\n' || c == '\r'

/-- A text on several lines up to its closing quotes. Up to two quotes next to the closing ones
belong to the text. -/
def longText? (quote : Char) (escapes : Bool) :
    (bound : Nat) → (read : List Char) → Rest → Option (String × Rest)
  | 0, _, _ => none
  | _, _, [] => none
  | bound + 1, read, c :: rest =>
    if c = quote then
      let quotes := ((c :: rest).takeWhile (· == quote)).length
      if quotes < 3 then longText? quote escapes bound (c :: read) rest
      else
        let own := min quotes 5 - 3
        some (textOf (List.replicate own quote ++ read), (c :: rest).drop (own + 3))
    else if c = '\\' && escapes then
      match escape? rest with
      | some (c, rest) => longText? quote escapes bound (c :: read) rest
      | none => (afterFold? rest).bind fun rest => longText? quote escapes bound read rest
    else
      match afterBreak? (c :: rest) with
      | some rest => longText? quote escapes bound ('\n' :: read) rest
      | none => if isPlain c then longText? quote escapes bound (c :: read) rest else none

/-- The input without a line break at its front. -/
def dropBreak (cs : Rest) : Rest :=
  (afterBreak? cs).getD cs

/-- A text on one line. -/
def lineText? : Rest → Option (String × Rest)
  | '"' :: rest => shortText? '"' true (rest.length + 1) [] rest
  | '\'' :: rest => shortText? '\'' false (rest.length + 1) [] rest
  | _ => none

/-- A text. -/
def text? : Rest → Option (String × Rest)
  | '"' :: '"' :: '"' :: rest => longText? '"' true (rest.length + 1) [] (dropBreak rest)
  | '\'' :: '\'' :: '\'' :: rest => longText? '\'' false (rest.length + 1) [] (dropBreak rest)
  | cs => lineText? cs

end MessageBroker.Toml
