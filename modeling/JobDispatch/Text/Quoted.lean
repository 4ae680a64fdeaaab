import JobDispatch.Text.Printable
import JobDispatch.Text.Integer

/-!
# Quoted texts

Messages show a text that came from outside in quotes. The quote, the backslash and characters that
are not printable are escaped, so that the end of the text can be told.
-/

namespace JobDispatch.Text

/-- A character inside a quoted text. -/
def quotedChar (char : Char) : List Char :=
  match char with
  | '"' => ['\\', '"']
  | '\\' => ['\\', '\\']
  | '\n' => ['\\', 'n']
  | '\r' => ['\\', 'r']
  | '\t' => ['\\', 't']
  | '\x00' => ['\\', '0']
  | _ =>
    if isPrintable char then [char]
    else '\\' :: 'u' :: '\x7b' :: Nat.toDigits 16 char.toNat ++ ['\x7d']

/-- The text between quotes, with its escapes. -/
def quoted (text : String) : String :=
  String.ofList ('"' :: text.toList.flatMap quotedChar ++ ['"'])

end JobDispatch.Text
