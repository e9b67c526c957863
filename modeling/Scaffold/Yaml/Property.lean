import Scaffold.Text.Hex
import Scaffold.Yaml.Cursor
import Scaffold.Yaml.Token

/-! What may be written before a node or a document: anchors, aliases, tags and directives. -/

namespace Scaffold.Yaml

open Text

namespace Property

/-- The name of an anchor. -/
def name? (cursor : Cursor) : Option (List Char × Cursor) :=
  let (name, after) := cursor.takeWhile isWordChar
  let ends := match after.peek? with
    | some c => isSpace c || ['?', ':', ',', ']', '\x7d', '%', '@', '\x60'].contains c
    | none => true
  if name.isEmpty || !ends then none else some (name, after)

/-! ### Tags -/

/-- A character of an address; commas and brackets count only where nothing else may follow. -/
def isAddressChar (wide : Bool) (c : Char) : Bool :=
  isWordChar c || ";/?:@&=+$.%!~*'()".toList.contains c || (wide && ",[]".toList.contains c)

/-- The bytes that a run of characters stands for: a percent sign and two digits are one byte. -/
def addressBytes? : List Char → Option (List UInt8)
  | [] => some []
  | '%' :: high :: low :: rest => do
    let byte ← Hex.toBytes? [high, low]
    let bytes ← addressBytes? rest
    return byte ++ bytes
  | c :: rest =>
    if c == '%' then none else (addressBytes? rest).map ((String.singleton c).toUTF8.toList ++ ·)

/-- An address after what is known of it. -/
def address? (wide : Bool) (known : List Char) (cursor : Cursor) :
    Option (List Char × Cursor) := do
  let (run, after) := cursor.takeWhile (isAddressChar wide)
  if run.isEmpty && known.isEmpty then none
  let text ← String.fromUTF8? ⟨(← addressBytes? run).toArray⟩
  return (known ++ text.toList, after)

/-- A handle: an exclamation mark, or a name between two of them. The second one may be missing. -/
def handle? (cursor : Cursor) : Option (List Char × Cursor) :=
  if cursor.peek? == some '!' then
    let (name, after) := (cursor.skip 1).takeWhile isWordChar
    if after.peek? == some '!' then some ('!' :: name ++ ['!'], after.skip 1)
    else some ('!' :: name, after)
  else none

/-- The two parts of a tag, at its exclamation mark. A verbatim tag has no handle. -/
def tagParts? (cursor : Cursor) : Option (List Char × List Char × Cursor) := do
  if cursor.startsWith "!<" then
    let (rest, after) ← address? true [] (cursor.skip 2)
    if after.peek? == some '>' then return ([], rest, after.skip 1) else none
  else
    let (handle, after) ← handle? cursor
    if handle.length > 1 && handle.getLast? == some '!' then
      let (rest, after) ← address? false [] after
      return (handle, rest, after)
    else
      let name := handle.drop 1
      let (run, after) := after.takeWhile (isAddressChar false)
      let text ← String.fromUTF8? ⟨(← addressBytes? run).toArray⟩
      let rest := name ++ text.toList
      return if rest.isEmpty then ([], ['!'], after) else (['!'], rest, after)

/-- A tag, which a space ends, or a comma inside brackets. -/
def tag? (inBrackets : Bool) (cursor : Cursor) : Option (Token × Cursor) := do
  let (handle, rest, after) ← tagParts? cursor
  if after.isSpaceAt 0 || (inBrackets && after.peek? == some ',') then
    return (.tag handle rest, after)
  else none

/-! ### Directives -/

/-- A number of at most nine digits. -/
def number? (cursor : Cursor) : Option (Nat × Cursor) :=
  let (digits, after) := cursor.takeWhile Char.isDigit
  if digits.isEmpty || digits.length > 9 then none
  else some ((String.ofList digits).toNat?.getD 0, after)

def version? (cursor : Cursor) : Option (Token × Cursor) := do
  let (major, cursor) ← number? (cursor.skipWhile isBlank)
  if cursor.peek? != some '.' then none
  let (minor, cursor) ← number? (cursor.skip 1)
  return (.version major minor, cursor)

/-- The declaration of a handle. -/
def declaration? (cursor : Cursor) : Option (Token × Cursor) := do
  let (name, cursor) ← handle? (cursor.skipWhile isBlank)
  if name.length > 1 && name.getLast? != some '!' then none
  if !(cursor.peek?.map isBlank).getD false then none
  let (start, cursor) ← address? true [] (cursor.skipWhile isBlank)
  if !cursor.isSpaceAt 0 then none
  return (.handle name start, cursor)

/-- A directive after its percent sign, with the rest of its line. -/
def directive? (cursor : Cursor) : Option (Token × Cursor) := do
  let (name, cursor) := cursor.takeWhile isWordChar
  if name.isEmpty || !cursor.isSpaceAt 0 then none
  let (token, cursor) ←
    if name = "YAML".toList then version? cursor
    else if name = "TAG".toList then declaration? cursor
    else none
  return (token, (← cursor.restOfLine?).pastLineEnd)

end Property

end Scaffold.Yaml
