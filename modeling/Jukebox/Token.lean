import Jukebox.Text.Integer
import Jukebox.Text.Quoted

/-
# Tokens of a command line

A command line is a sequence of words and quoted texts. What fits neither, a quote that is not
closed or a stray control character, is a token as well, so that the command that meets it can
complain about it. The end of the line is the last token of every line.
-/

namespace Jukebox

/-- One piece of a command line. -/
inductive Token where
  /-- A bare run of characters. -/
  | word (text : String)
  /-- What stood between two quotes, with the escapes undone. -/
  | quoted (text : String)
  /-- What is neither: the body of an unclosed quote, or a control character. -/
  | stray (text : String)
  /-- The end of the line. -/
  | endOfLine
deriving DecidableEq, Repr, Inhabited

namespace Token

/-- The text a token carries. -/
def text : Token → String
  | word text | quoted text | stray text => text
  | endOfLine => ""

/-- The token as it is named in a complaint. -/
def display : Token → String
  | endOfLine => "END"
  | token => token.text

/-- The whole number a word denotes, within the range of a signed 64-bit word. A leading plus sign
stands apart from the notation of the number, so that relative arguments can be told from
absolute ones. -/
def toInt? : Token → Option Int
  | word text =>
    let number := match text.toList with
      | '+' :: rest => String.ofList rest
      | _ => text
    Text.readInt64? number
  | _ => none

/-- Whether the token begins with a sign. -/
def isRelative (token : Token) : Bool :=
  match token.text.toList with
  | '+' :: _ | '-' :: _ => true
  | _ => false

/-- The token in the notation of command lines. -/
def source : Token → String
  | quoted text => Text.enquote text
  | token => token.text

end Token

end Jukebox
