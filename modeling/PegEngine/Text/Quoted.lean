import PegEngine.Text.Printable
import PegEngine.Text.Combining

/-! Quoted text. A character or a string is written between quote marks, with everything that could
not be read off the page written as an escape: the mark itself, the backslash, the usual controls
by a letter, and each other invisible or combining code point by its number in hexadecimal. -/
namespace PegEngine.Text

/-- The letter that stands behind a backslash for `c` inside `mark`s, if `c` has one. -/
def escapeLetter? (mark c : Char) : Option Char :=
  if c = mark || c = '\\' then some c
  else if c = '\x00' then some '0'
  else if c = '\t' then some 't'
  else if c = '\r' then some 'r'
  else if c = '\n' then some 'n'
  else none

/-- Whether a code point without an escape letter is written as itself. -/
def isPlain (c : Char) : Bool :=
  isPrintable c && !isCombining c

/-- One character as it stands between two `mark`s. -/
def escape (mark c : Char) : List Char :=
  match escapeLetter? mark c with
  | some letter => ['\\', letter]
  | none =>
    if isPlain c then [c]
    else ['\\', 'u', '\x7b'] ++ Nat.toDigits 16 c.toNat ++ ['\x7d']

/-- The characters between two `mark`s, every one of them escaped on its own. -/
def quoteWith (mark : Char) (cs : List Char) : String :=
  String.ofList (mark :: cs.flatMap (escape mark) ++ [mark])

/-- A character between single quote marks. -/
def quoteChar (c : Char) : String :=
  quoteWith '\x27' [c]

/-- A string between double quote marks. -/
def quote (s : String) : String :=
  quoteWith '\x22' s.toList

end PegEngine.Text
