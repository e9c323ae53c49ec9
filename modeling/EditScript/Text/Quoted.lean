import EditScript.Text.Printable

/-!
# Quoted texts

How a text is shown inside a message: between apostrophes, or between quotation
marks if it holds an apostrophe and no quotation mark. The enclosing mark and
the backslash are escaped, and so is every character that does not print.
-/

namespace EditScript.Text

def apostrophe : Char := Char.ofNat 39

/-- The quotation mark, which encloses texts that hold an apostrophe only. -/
def quotationMark : Char := Char.ofNat 34

def enclosingMark (text : Text) : Char :=
  if text.contains apostrophe && !text.contains quotationMark then quotationMark
  else apostrophe

def escaped (mark char : Char) : Text :=
  if char = mark || char = '\\' then ['\\', char]
  else if char = '\t' then ['\\', 't']
  else if char = '\n' then ['\\', 'n']
  else if char = '\r' then ['\\', 'r']
  else if isPrintable char then [char]
  else if char.toNat < 0x100 then ['\\', 'x'] ++ hexadecimal 2 char.toNat
  else if char.toNat < 0x10000 then ['\\', 'u'] ++ hexadecimal 4 char.toNat
  else ['\\', 'U'] ++ hexadecimal 8 char.toNat

/-- A text as it is shown inside a message. -/
def quoted (text : Text) : Text :=
  let mark := enclosingMark text
  mark :: (text.flatMap (escaped mark) ++ [mark])

def quotedList (texts : List Text) : Text :=
  '[' :: ([',', ' '].intercalate (texts.map quoted) ++ [']'])

end EditScript.Text
