/-!
# Names of servers

`isServerName` tells whether a text is the name of a server or its address, short or long. Names are
parts with dots between them.
-/

set_option autoImplicit false

namespace BlogOperator.Http

/-- Whether a text is all digits. -/
def isNumber (text : String) : Bool :=
  !text.isEmpty && text.toList.all Char.isDigit

/-- Whether a text is a number that fits a byte, without zeros before it. -/
def isByteNumber (text : String) : Bool :=
  isNumber text && (text = "0" || !text.startsWith "0") && text.toNat?.any (· < 256)

/-- Whether a text is four numbers with dots between them. -/
def isShortAddress (text : String) : Bool :=
  let parts := text.splitOn "."
  parts.length = 4 && parts.all isByteNumber

/-- Whether a text is a group of up to four hexadecimal digits. -/
def isAddressGroup (text : String) : Bool :=
  !text.isEmpty && text.length ≤ 4 &&
    text.toList.all fun digit ↦ digit.isDigit || ('a' ≤ digit.toLower && digit.toLower ≤ 'f')

/-- How many groups there are in a part of a long address, of which the last may be a short address
that counts as two. -/
def groupCount? (part : String) : Option Nat :=
  if part.isEmpty then some 0
  else
    let groups := part.splitOn ":"
    let last := groups.getLastD ""
    if groups.all isAddressGroup then some groups.length
    else if groups.dropLast.all isAddressGroup && isShortAddress last then
      some (groups.length + 1)
    else none

/-- Whether a text is eight groups with colons between them, or fewer with a gap. -/
def isLongAddress (text : String) : Bool :=
  match text.splitOn "::" with
  | [groups] => groupCount? groups = some 8
  | [first, last] =>
    let isPlain := !first.toList.contains '.'
    isPlain && match groupCount? first, groupCount? last with
      | some before, some behind => before + behind < 8
      | _, _ => false
  | _ => false

/-- Whether a text is a part of the name of a server. -/
def isLabel (text : String) : Bool :=
  !text.isEmpty && text.length ≤ 63 && !text.startsWith "-" && !text.endsWith "-" &&
    text.toList.all fun character ↦ character.isAlphanum || character = '-' || character = '_'

/-- Whether a text is the name of a server or its address. The last part of a name is no number, and
a dot may follow it. -/
def isServerName (text : String) : Bool :=
  let labels := text.splitOn "."
  let labels := if 1 < labels.length && labels.getLast? = some "" then labels.dropLast else labels
  (text.length ≤ 253 && labels.all isLabel && !isNumber (labels.getLastD "")) ||
    isShortAddress text || isLongAddress text

end BlogOperator.Http
