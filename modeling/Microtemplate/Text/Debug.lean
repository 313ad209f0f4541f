import Microtemplate.Decimal.Numeral
import Microtemplate.Unicode.Category
import Microtemplate.Unicode.Property

/-!
Texts in quotes for messages: quotes, backslashes and what cannot be seen are escaped.
-/

namespace Microtemplate.Text

/-- The categories whose characters cannot be seen, blanks other than the space among them. -/
def isHidden (c : Char) : Bool :=
  let visible := Unicode.Category.all.filter fun p =>
    !(["Zs", "Zl", "Zp", "Cc", "Cf", "Co"].contains p.1)
  c != ' ' && !visible.any fun p => Unicode.CharRange.anyHolds p.2 c

/-- How a character is written in a quoted text. -/
def shownChar (c : Char) : List Char :=
  match c with
  | '"' => ['\\', '"']
  | '\\' => ['\\', '\\']
  | '\n' => ['\\', 'n']
  | '\r' => ['\\', 'r']
  | '\t' => ['\\', 't']
  | '\x00' => ['\\', '0']
  | c =>
    let hidden := if c.toNat < 128 then c.toNat < 32 || c.toNat = 127
      else isHidden c || Unicode.CharRange.anyHolds Unicode.Property.graphemeExtend c
    if hidden then '\\' :: 'u' :: '\x7b' :: Decimal.inBase 16 c.toNat ++ ['\x7d'] else [c]

/-- A text in quotes. -/
def shown (t : String) : String := String.ofList ('"' :: t.toList.flatMap shownChar ++ ['"'])

end Microtemplate.Text
