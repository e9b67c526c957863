import Scaffold.Decimal.Reading
import Scaffold.Template.Value
import Scaffold.Text.Blank
import Scaffold.Text.Cluster
import Scaffold.Text.Identifier
import Scaffold.Text.LetterCase
import Scaffold.Text.Lines
import Scaffold.Text.Substring

/-! The filters of templates. A filter fails on values and arguments of kinds that it does not know. -/

namespace Scaffold.Template

abbrev Arguments := List (String × Value)

namespace Arguments

variable {α : Type}

def find? (arguments : Arguments) (key : String) : Option Value :=
  (List.find? (·.1 == key) arguments).map (·.2)

/-- An argument that must be there. -/
def required? (arguments : Arguments) (key : String) (read? : Value → Option α) : Option α :=
  (arguments.find? key).bind read?

/-- An argument with a value to fall back on. -/
def withDefault? (arguments : Arguments) (key : String) (read? : Value → Option α) (default : α) :
    Option α :=
  match arguments.find? key with
  | some value => read? value
  | none => some default

end Arguments

namespace Filter

open Text

/-- A filter from texts to texts. -/
def onText (f : List Char → List Char) (value : Value) : Option Value :=
  value.asText?.map fun text => .text (String.ofList (f text.toList))

/-- A fraction, or nothing if it is infinite or not a number. -/
def ofFloat (x : Float) : Value :=
  match Number.ofFloat? x with
  | some number => .number number
  | none => .null

def truncate (arguments : Arguments) (value : Value) : Option Value := do
  let text ← value.asText?
  let length ← arguments.withDefault? "length" Value.asCount? 255
  let tail ← arguments.withDefault? "end" Value.asText? "…"
  let clusters := Cluster.clusters text.toList
  if clusters.length ≤ length then some value
  else some (.text (String.ofList (clusters.take length).flatten ++ tail))

def capitalize : List Char → List Char
  | [] => []
  | c :: rest => LetterCase.upperOf c ++ LetterCase.lower rest

/-- Capitalizes the words of a text; an apostrophe does not end a word. -/
def titleFrom (inside : Bool) : (fuel : Nat) → List Char → List Char
  | 0, text => text
  | _, [] => []
  | fuel + 1, c :: rest =>
    let isWordPart (c : Char) : Bool := Identifier.isContinue c
    if inside || !isWordPart c then c :: titleFrom (isWordPart c) fuel rest
    else
      let more := rest.takeWhile fun c => isWordPart c || c == '\''
      let word := (more.reverse.dropWhile (!isWordPart ·)).reverse
      LetterCase.upperOf c ++ LetterCase.lower word ++ titleFrom true fuel (rest.drop word.length)

def title (text : List Char) : List Char := titleFrom false text.length text

def indent (arguments : Arguments) (value : Value) : Option Value := do
  let text ← value.asText?
  let margin ← arguments.withDefault? "prefix" Value.asText? "    "
  let first ← arguments.withDefault? "first" Value.asFlag? false
  let blank ← arguments.withDefault? "blank" Value.asFlag? false
  let lines := Text.lines text
  let later := lines.tail.map fun line =>
    "\n" ++ (if blank || !(trimStart line.toList).isEmpty then margin else "") ++ line
  let head := match lines with
    | [] => ""
    | line :: _ => (if first then margin else "") ++ line
  return .text (head ++ String.join later)

/-- The text after a tag that stands at the front, if one does. -/
def afterTag? (text : List Char) : Option (List Char) :=
  let comment := do
    let (before, after) ← cut? ['-', '-', '>'] (text.drop 4)
    if before.contains '\n' then none else some after
  if ['<', '!', '-', '-'].isPrefixOf text ∧ comment.isSome then comment
  else if text.head? == some '<' then (cut? ['>'] text).map (·.2)
  else none

def withoutTags : (fuel : Nat) → List Char → List Char
  | 0, text => text
  | _, [] => []
  | fuel + 1, c :: rest =>
    match afterTag? (c :: rest) with
    | some after => withoutTags fuel after
    | none => c :: withoutTags fuel rest

/-- The text without blanks between one tag and the next. -/
def spaceless : (fuel : Nat) → List Char → List Char
  | 0, text => text
  | _, [] => []
  | fuel + 1, c :: rest =>
    let after := rest.dropWhile isBlank
    if c == '>' && after.head? == some '<' && after.length < rest.length then
      '>' :: '<' :: spaceless fuel after.tail
    else c :: spaceless fuel rest

def escapeHtml (c : Char) : List Char :=
  match c with
  | '&' => "&amp;".toList
  | '<' => "&lt;".toList
  | '>' => "&gt;".toList
  | '"' => "&quot;".toList
  | '\'' => "&#x27;".toList
  | '/' => "&#x2F;".toList
  | c => [c]

def escapeXml (c : Char) : List Char :=
  match c with
  | '\'' => "&apos;".toList
  | '/' => ['/']
  | c => escapeHtml c

def addSlashes (c : Char) : List Char :=
  if c == '\\' || c == '"' || c == '\'' then ['\\', c] else [c]

def inRange? (n : Int) : Option Int := if -(Int.pow 2 63) ≤ n ∧ n < Int.pow 2 63 then some n else none

/-- The whole number that a text shows, or the whole part of a fraction. -/
def toWhole (arguments : Arguments) (value : Value) : Option Value := do
  let default ← arguments.withDefault? "default" Value.asInt? 0
  let base ← arguments.withDefault? "base" Value.asCount? 10
  match value with
  | .text text =>
    let digits := trim text.toList
    let digits := match base with
      | 2 => trimStartMatches ['0', 'b'] digits
      | 8 => trimStartMatches ['0', 'o'] digits
      | 16 => trimStartMatches ['0', 'x'] digits
      | _ => digits
    let found := match (Decimal.wholeInBase? base digits).bind inRange? with
      | some n => n
      | none =>
        if digits.contains '.' then ((Decimal.ofText? digits).map Number.truncated).getD default
        else default
    return .number (.whole found)
  | .number n => return .number (.whole (Number.truncated n.toFloat))
  | _ => none

def toFraction (arguments : Arguments) (value : Value) : Option Value := do
  let default ← arguments.withDefault? "default" Value.asFloat? 0.0
  match value with
  | .text text => return ofFloat ((Decimal.ofText? (trim text.toList)).getD default)
  | .number n => return ofFloat n.toFloat
  | _ => none

/-- A value that takes part in sorting: values of one kind only can be sorted. -/
def precedes? : Value → Value → Option Bool
  | .flag a, .flag b => some (!a && b)
  | .number a, .number b => some (a.toFloat < b.toFloat)
  | .text a, .text b => some (a < b)
  | .array a, .array b => some (a.length < b.length)
  | _, _ => none

def insertSorted (value : Value) : List Value → Option (List Value)
  | [] => some [value]
  | other :: rest => do
    if ← precedes? value other then return value :: other :: rest
    else return other :: (← insertSorted value rest)

/-- The value that an attribute leads to; the empty attribute leads to the value itself. -/
def attribute? (path : String) (value : Value) : Option Value :=
  if path.isEmpty then some value else value.path? (path.splitOn ".")

def sort (arguments : Arguments) (value : Value) : Option Value := do
  let items ← value.asItems?
  let path ← arguments.withDefault? "attribute" Value.asText? ""
  if path.isEmpty then
    if items.any Value.isNull then none
    else return .array (← items.foldlM (fun sorted item => insertSorted item sorted) [])
  else none

def isKind : Value → Value → Bool
  | .flag _, .flag _ => true
  | .number _, .number _ => true
  | .text _, .text _ => true
  | _, _ => false

def unique (arguments : Arguments) (value : Value) : Option Value := do
  let items ← value.asItems?
  let sensitive ← arguments.withDefault? "case_sensitive" Value.asFlag? false
  let fold : Value → Value
    | .text text =>
      .text (if sensitive then text else String.ofList (LetterCase.lower text.toList))
    | value => value
  match items with
  | [] => return value
  | first :: _ =>
    if !items.all (isKind first) then none
    else
      let step (found : List Value) (item : Value) : List Value :=
        if found.any fun other => (fold other).same (fold item) then found else found ++ [item]
      return .array (items.foldl step [])

def slice (arguments : Arguments) (value : Value) : Option Value := do
  let items ← value.asItems?
  let index (x : Float) : Nat :=
    let n := Number.truncated x
    if 0 ≤ n then n.toNat
    else if 0 ≤ n + items.length then (n + items.length).toNat
    else Nat.pow 2 64
  let start ← arguments.withDefault? "start" (fun v => v.asFloat?.map index) 0
  let stop ← arguments.withDefault? "end" (fun v => v.asFloat?.map index) items.length
  let stop := min stop items.length
  return .array ((items.take stop).drop start)

/-- The items with an attribute, or those where it has a certain value. -/
def keep (arguments : Arguments) (value : Value) : Option Value := do
  let items ← value.asItems?
  let path ← arguments.required? "attribute" Value.asText?
  let found (item : Value) : Value := (attribute? path item).getD .null
  match arguments.find? "value" with
  | some wanted => return .array (items.filter fun item => (found item).same wanted)
  | none => return .array (items.filter fun item => !(found item).isNull)

def collect (arguments : Arguments) (value : Value) : Option Value := do
  let items ← value.asItems?
  let path ← arguments.required? "attribute" Value.asText?
  return .array ((items.filterMap (attribute? path)).filter fun item => !item.isNull)

def pluralize (arguments : Arguments) (value : Value) : Option Value := do
  let n ← value.asFloat?
  let singular ← arguments.withDefault? "singular" Value.asText? ""
  let plural ← arguments.withDefault? "plural" Value.asText? "s"
  return .text (if (n.abs - 1.0).abs > Float.ofScientific 2220446049250313 true 31 then plural
    else singular)

def round (arguments : Arguments) (value : Value) : Option Value := do
  let n ← value.asFloat?
  let method ← arguments.withDefault? "method" Value.asText? "common"
  let precision ← arguments.withDefault? "precision" Value.asInt? 0
  let scale : Float := match precision with
    | .ofNat p => Float.ofScientific 1 false (min p 400)
    | .negSucc p => 1.0 / Float.ofScientific 1 false (min (p + 1) 400)
  match method with
  | "common" => return ofFloat ((scale * n).round / scale)
  | "ceil" => return ofFloat ((scale * n).ceil / scale)
  | "floor" => return ofFloat ((scale * n).floor / scale)
  | _ => none

def length : Value → Option Value
  | .text text => some (.number (.whole text.length))
  | .array items => some (.number (.whole items.length))
  | _ => none

def reverse : Value → Option Value
  | .text text => some (.text (String.ofList text.toList.reverse))
  | .array items => some (.array items.reverse)
  | _ => none

def abs : Value → Option Value
  | .number (.whole n) => some (.number (.whole n.natAbs))
  | .number (.fraction x) => some (ofFloat x.abs)
  | _ => none

def itemOr (item : Option Value) : Value := item.getD (.text "")

/-- Applies a filter by its name. -/
def result? (name : String) (arguments : Arguments) (value : Value) : Option Value :=
  let textArgument (key : String) : Option (List Char) :=
    (arguments.required? key Value.asText?).map String.toList
  match name with
  | "upper" => onText LetterCase.upper value
  | "lower" => onText LetterCase.lower value
  | "trim" => onText trim value
  | "trim_start" => onText trimStart value
  | "trim_end" => onText trimEnd value
  | "trim_start_matches" => do onText (trimStartMatches (← textArgument "pat")) value
  | "trim_end_matches" => do onText (trimEndMatches (← textArgument "pat")) value
  | "truncate" => truncate arguments value
  | "wordcount" => do
    return .number (.whole (fieldsBy isBlank (← value.asText?).toList).length)
  | "replace" => do onText (replace (← textArgument "from") (← textArgument "to")) value
  | "capitalize" => onText capitalize value
  | "title" => onText title value
  | "linebreaksbr" =>
    onText (fun text =>
      replace ['\n'] "<br>".toList (replace ['\r', '\n'] "<br>".toList text)) value
  | "indent" => indent arguments value
  | "striptags" => onText (fun text => withoutTags text.length text) value
  | "spaceless" => onText (fun text => spaceless text.length text) value
  | "escape" => onText (·.flatMap escapeHtml) value
  | "escape_xml" => onText (·.flatMap escapeXml) value
  | "addslashes" => onText (·.flatMap addSlashes) value
  | "split" => do
    let pieces := split (← textArgument "pat") (← value.asText?).toList
    return .array (pieces.map fun piece => .text (String.ofList piece))
  | "int" => toWhole arguments value
  | "float" => toFraction arguments value
  | "first" => value.asItems?.map fun items => itemOr items.head?
  | "last" => value.asItems?.map fun items => itemOr items.getLast?
  | "nth" => do return itemOr ((← value.asItems?)[← arguments.required? "n" Value.asCount?]?)
  | "join" => do
    let separator ← arguments.withDefault? "sep" Value.asText? ""
    return .text (separator.intercalate ((← value.asItems?).map Value.render))
  | "sort" => sort arguments value
  | "unique" => unique arguments value
  | "filter" => keep arguments value
  | "map" => collect arguments value
  | "concat" => do
    let items ← value.asItems?
    match ← arguments.find? "with" with
    | .array more => return .array (items ++ more)
    | item => return .array (items ++ [item])
  | "slice" => slice arguments value
  | "abs" => abs value
  | "pluralize" => pluralize arguments value
  | "round" => round arguments value
  | "length" => length value
  | "reverse" => reverse value
  | "json_encode" => do
    let pretty ← arguments.withDefault? "pretty" Value.asFlag? false
    let document := value.toDocument
    return .text (if pretty then Json.print document else Json.printCompact document)
  | "as_str" => some (.text value.render)
  | _ => none

end Filter

end Scaffold.Template
