import EdgeRouting.Text.Hexadecimal
import EdgeRouting.Text.Unshown

/-!
# Quoted text

A text in quotation marks for a reader: the quotation mark, the backslash and the common control
characters are written with a backslash, any other character that cannot be shown as it is by its
code point in hexadecimal, and all else as it is.
-/

namespace EdgeRouting.Text

def quoteChar (c : Char) : List Char :=
  match c with
  | '\x00' => ['\\', '0']
  | '\t' => ['\\', 't']
  | '\n' => ['\\', 'n']
  | '\r' => ['\\', 'r']
  | '"' => ['\\', '"']
  | '\\' => ['\\', '\\']
  | c =>
      if isUnshown c then
        ['\\', 'u', '\x7b'] ++ hexadecimal c.toNat ++ ['\x7d']
      else
        [c]

def quoted (text : String) : String :=
  String.ofList ('"' :: text.toList.flatMap quoteChar ++ ['"'])

end EdgeRouting.Text
