/-!
Structured data as configuration files and manifests hold it, whatever notation it is written in.
A plain scalar has no type of its own: what it is depends on what is asked of it.
-/

namespace Scaffold

inductive Document where
  | null
  | boolean (value : Bool)
  | number (text : String)
  | text (value : String)
  /-- a string that names no text, such as one with half of a surrogate pair -/
  | brokenText
  /-- an untyped scalar -/
  | plain (text : String)
  /-- a value that is marked with a name -/
  | named (name : String) (content : Document)
  | list (items : List Document)
  | table (entries : List (String × Document))
  deriving Repr, Inhabited

namespace Document

/-- The spellings under which a plain scalar stands for nothing. -/
def nullWords : List String := ["", "~", "null", "Null", "NULL"]

def isNull : Document → Bool
  | null => true
  | plain word => nullWords.contains word
  | _ => false

def asText? : Document → Option String
  | text value => some value
  | plain value => some value
  | named _ content => content.asText?
  | _ => none

def asFlag? : Document → Option Bool
  | boolean value => some value
  | plain value =>
    if ["true", "True", "TRUE"].contains value then some true
    else if ["false", "False", "FALSE"].contains value then some false
    else none
  | named _ content => content.asFlag?
  | _ => none

/-- A list of items that all have the wanted form. -/
def asList? {α : Type} (item? : Document → Option α) : Document → Option (List α)
  | list items => items.mapM item?
  | named _ (list items) => items.mapM item?
  | _ => none

/-- A name out of a fixed set: a text, a mark on nothing, or a table with that name and nothing
under it. -/
def asName? {α : Type} (ofText? : String → Option α) : Document → Option α
  | table [(key, null)] => ofText? key
  | named name content => if content.isNull then ofText? name else none
  | document => document.asText?.bind ofText?

/-- The fields of a record. A list gives them by position, and then none may be left out that has
no value of its own to fall back on. -/
structure Fields where
  positional : Bool
  entries : List (String × Document)

/-- The fields among `known`, none of them twice; others are refused when the record is closed. -/
def fields? (known : List String) (closed : Bool) : Document → Option Fields
  | table entries =>
    let found := entries.filter fun (key, _) => known.contains key
    if (closed && found.length != entries.length) || !(found.map (·.1)).Nodup then none
    else some ⟨false, found⟩
  | list items => if items.length ≤ known.length then some ⟨true, known.zip items⟩ else none
  | named _ content => content.fields? known closed
  | _ => none

namespace Fields

variable {α : Type}

def find? (fields : Fields) (key : String) : Option Document :=
  (fields.entries.find? (·.1 == key)).map (·.2)

/-- A field that must be there. -/
def required? (fields : Fields) (key : String) (value? : Document → Option α) : Option α :=
  (fields.find? key).bind value?

/-- A field with a value to fall back on. -/
def withDefault? (fields : Fields) (key : String) (value? : Document → Option α) (default : α) :
    Option α :=
  match fields.find? key with
  | some document => value? document
  | none => some default

/-- A field that may be empty, and may be left out where fields have names. -/
def optional? (fields : Fields) (key : String) (value? : Document → Option α) :
    Option (Option α) :=
  match fields.find? key with
  | some document => if document.isNull then some none else (value? document).map some
  | none => if fields.positional then none else some none

/-- A field that may be empty or left out. -/
def optionalOrMissing? (fields : Fields) (key : String) (value? : Document → Option α) :
    Option (Option α) :=
  match fields.find? key with
  | some document => if document.isNull then some none else (value? document).map some
  | none => some none

end Fields

end Document

end Scaffold
