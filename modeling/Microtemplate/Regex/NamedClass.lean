import Microtemplate.Regex.CharSet

/-!
Classes of characters that have names: digits, blanks and word characters, the classes in square
brackets with colons, and the properties of the Unicode Character Database.
-/

namespace Microtemplate.Regex

open Unicode (CharRange)

namespace NamedClass

/-- The ranges between pairs of ASCII characters. -/
private def asciiRanges (pairs : List (Char × Char)) : CharSet :=
  CharSet.canonical (pairs.map fun (a, b) => ⟨a.toNat, b.toNat⟩)

/-- The blanks of ASCII. -/
def asciiBlanks : CharSet := asciiRanges [('\t', '\r'), (' ', ' ')]

/-- The digits of ASCII. -/
def asciiDigits : CharSet := asciiRanges [('0', '9')]

/-- The word characters of ASCII. -/
def asciiWord : CharSet := asciiRanges [('0', '9'), ('A', 'Z'), ('_', '_'), ('a', 'z')]

/-- Decimal digits. -/
def digits : CharSet := Unicode.Category.decimalNumber

/-- White space. -/
def blanks : CharSet :=
  [⟨0x09, 0x0D⟩, ⟨0x20, 0x20⟩, ⟨0x85, 0x85⟩, ⟨0xA0, 0xA0⟩, ⟨0x1680, 0x1680⟩, ⟨0x2000, 0x200A⟩,
    ⟨0x2028, 0x2029⟩, ⟨0x202F, 0x202F⟩, ⟨0x205F, 0x205F⟩, ⟨0x3000, 0x3000⟩]

/-- Word characters: letters, marks, decimal digits, connectors and joiners. -/
def word : CharSet :=
  CharSet.canonical (Unicode.Property.alphabetic ++ Unicode.Category.nonspacingMark
    ++ Unicode.Category.spacingMark ++ Unicode.Category.enclosingMark
    ++ Unicode.Category.decimalNumber ++ Unicode.Category.connectorPunctuation
    ++ [⟨0x200C, 0x200D⟩])

/-- The classes named in square brackets with colons. -/
def posix? (name : String) : Option CharSet :=
  match name with
  | "alnum" => some (asciiRanges [('0', '9'), ('A', 'Z'), ('a', 'z')])
  | "alpha" => some (asciiRanges [('A', 'Z'), ('a', 'z')])
  | "ascii" => some (asciiRanges [('\x00', '\x7f')])
  | "blank" => some (asciiRanges [('\t', '\t'), (' ', ' ')])
  | "cntrl" => some (asciiRanges [('\x00', '\x1f'), ('\x7f', '\x7f')])
  | "digit" => some asciiDigits
  | "graph" => some (asciiRanges [('!', '~')])
  | "lower" => some (asciiRanges [('a', 'z')])
  | "print" => some (asciiRanges [(' ', '~')])
  | "punct" => some (asciiRanges [('!', '/'), (':', '@'), ('[', '\x60'), ('\x7b', '~')])
  | "space" => some asciiBlanks
  | "upper" => some (asciiRanges [('A', 'Z')])
  | "word" => some asciiWord
  | "xdigit" => some (asciiRanges [('0', '9'), ('A', 'F'), ('a', 'f')])
  | _ => none

/-- The general categories with their short and long names, and the groups of them. -/
def categoryNames : List (List String × List String) :=
  [(["lu", "uppercaseletter"], ["Lu"]), (["ll", "lowercaseletter"], ["Ll"]),
    (["lt", "titlecaseletter"], ["Lt"]), (["lm", "modifierletter"], ["Lm"]),
    (["lo", "otherletter"], ["Lo"]), (["mn", "nonspacingmark"], ["Mn"]),
    (["mc", "spacingmark"], ["Mc"]), (["me", "enclosingmark"], ["Me"]),
    (["nd", "decimalnumber", "digit"], ["Nd"]), (["nl", "letternumber"], ["Nl"]),
    (["no", "othernumber"], ["No"]), (["pc", "connectorpunctuation"], ["Pc"]),
    (["pd", "dashpunctuation"], ["Pd"]), (["ps", "openpunctuation"], ["Ps"]),
    (["pe", "closepunctuation"], ["Pe"]), (["pi", "initialpunctuation"], ["Pi"]),
    (["pf", "finalpunctuation"], ["Pf"]), (["po", "otherpunctuation"], ["Po"]),
    (["sm", "mathsymbol"], ["Sm"]), (["sc", "currencysymbol"], ["Sc"]),
    (["sk", "modifiersymbol"], ["Sk"]), (["so", "othersymbol"], ["So"]),
    (["zs", "spaceseparator"], ["Zs"]), (["zl", "lineseparator"], ["Zl"]),
    (["zp", "paragraphseparator"], ["Zp"]), (["cc", "control", "cntrl"], ["Cc"]),
    (["cf", "format"], ["Cf"]), (["co", "privateuse"], ["Co"]),
    (["lc", "casedletter"], ["Lu", "Ll", "Lt"]),
    (["l", "letter"], ["Lu", "Ll", "Lt", "Lm", "Lo"]),
    (["m", "mark", "combiningmark"], ["Mn", "Mc", "Me"]),
    (["n", "number"], ["Nd", "Nl", "No"]),
    (["p", "punctuation", "punct"], ["Pc", "Pd", "Ps", "Pe", "Pi", "Pf", "Po"]),
    (["s", "symbol"], ["Sm", "Sc", "Sk", "So"]),
    (["z", "separator"], ["Zs", "Zl", "Zp"])]

/-- The ranges of several general categories. -/
private def categories (names : List String) : List CharRange :=
  names.flatMap fun n => (Unicode.Category.all.lookup n).getD []

/-- All characters that are assigned. -/
def assigned : CharSet := CharSet.canonical (Unicode.Category.all.flatMap (·.2))

/-- The characters without an assignment. -/
def unassigned : CharSet :=
  CharSet.diff (CharSet.complement CharSet.lastCode assigned) [⟨0xD800, 0xDFFF⟩]

/-- The set of a general category or a group of them, by its name in small letters. -/
def category? (name : String) : Option CharSet :=
  match name with
  | "any" => some CharSet.all
  | "assigned" => some assigned
  | "ascii" => some [⟨0, 0x7F⟩]
  | "cn" | "unassigned" => some unassigned
  | "c" | "other" =>
    some (CharSet.canonical (categories ["Cc", "Cf", "Co"] ++ unassigned))
  | _ => (categoryNames.find? (·.1.contains name)).map fun c => CharSet.canonical (categories c.2)

/-- The set of a property that characters have or have not, by its name in small letters. -/
def binary? (name : String) : Option CharSet :=
  match name with
  | "alphabetic" | "alpha" => some Unicode.Property.alphabetic
  | "uppercase" | "upper" => some Unicode.Property.uppercase
  | "lowercase" | "lower" => some Unicode.Property.lowercase
  | "whitespace" | "space" | "wspace" => some blanks
  | "caseignorable" | "ci" => some Unicode.Property.caseIgnorable
  | "graphemeextend" | "grext" => some Unicode.Property.graphemeExtend
  | _ => none

/-- A name as it is looked up: in small letters, without blanks, underscores and hyphens, and
without an `is` at the start. -/
def looseName (cs : List Char) : String :=
  let cs := match cs with
    | a :: b :: rest => if a.toLower = 'i' ∧ b.toLower = 's' then rest else cs
    | _ => cs
  let kept := (cs.filter fun c => !(c = ' ' || c = '_' || c = '-')).map Char.toLower
  String.ofList kept

/-- The set of a property with a single name. -/
def named? (cs : List Char) : Option CharSet :=
  let name := looseName cs
  (binary? name).or (category? name)

/-- The set of a property that has a value. -/
def valued? (property value : List Char) : Option CharSet :=
  match looseName property with
  | "gc" | "generalcategory" => category? (looseName value)
  | _ => none

example : (named? "Lu".toList).isSome = true := by decide +kernel

end NamedClass

end Microtemplate.Regex
