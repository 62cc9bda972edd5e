import Termkit.Text.Extender
import Termkit.Text.Unprintable
import Termkit.Text.Numeral

/-!
# Quoted texts

How a message quotes a text: between quotation marks, on one line, with every character that would
not show as itself written by an escape.
-/

namespace Termkit.Text

def quoteChar (c : Char) : Text :=
  match c with
  | '\x00' => ['\\', '0']
  | '\t' => ['\\', 't']
  | '\n' => ['\\', 'n']
  | '\r' => ['\\', 'r']
  | '"' => ['\\', '"']
  | '\\' => ['\\', '\\']
  | c =>
    if extender.has c || unprintable.has c then
      ['\\', 'u', '{'] ++ hex 0 c.toNat ++ ['}']
    else [c]

def quoted (t : Text) : Text := '"' :: (t.flatMap quoteChar ++ ['"'])

end Termkit.Text
