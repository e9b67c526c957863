import Scaffold.Path
import Scaffold.ValidationMode

/-!
The command line. What follows an option counts as its value unless it looks like an option itself;
variables of the environment stand in for options that are not given.
-/

namespace Scaffold

/-- What a command line asks for. -/
structure Arguments where
  config : Option Path
  sourceRoots : Option (List Path)
  outDir : Option Path
  suffix : Option String
  includes : Option (List String)
  excludes : Option (List String)
  template : Option Path
  validation : Option ValidationMode
  format : Bool
  keepOrphans : Bool
  check : Bool
  list : Bool
  deriving DecidableEq, Repr

/-- Why the reading of a command line ends before its work. -/
inductive ArgumentsEnd where
  | invalidValue
  /-- an option is given twice -/
  | conflict
  /-- a switch is given a value -/
  | tooManyValues
  | unknownArgument
  | help
  | version
  deriving DecidableEq, Repr

namespace ArgumentsEnd

def message : ArgumentsEnd → String
  | invalidValue => "an option has no valid value"
  | conflict => "an option is given more than once"
  | tooManyValues => "a switch is given a value"
  | unknownArgument => "an argument is not known"
  | help => "help is asked for"
  | version => "the version is asked for"

end ArgumentsEnd

namespace CommandLine

/-- The options that take a value. -/
inductive Setting where
  | config
  | sourceRoots
  | outDir
  | suffix
  | includes
  | excludes
  | template
  | validation
  deriving DecidableEq, Repr

/-- The options that take none. -/
inductive Switch where
  | format
  | keepOrphans
  | check
  | list
  | help
  | version
  deriving DecidableEq, Repr

namespace Setting

def all : List Setting :=
  [config, sourceRoots, outDir, suffix, includes, excludes, template, validation]

def name : Setting → String
  | config => "config"
  | sourceRoots => "source-root"
  | outDir => "out-dir"
  | suffix => "suffix"
  | includes => "include"
  | excludes => "exclude"
  | template => "template"
  | validation => "validation"

/-- The variable that stands in for an option. -/
def environmentName? : Setting → Option String
  | config => none
  | sourceRoots => some "AGGREGEN_SOURCE_ROOTS"
  | outDir => some "AGGREGEN_OUT_DIR"
  | suffix => some "AGGREGEN_SUFFIX"
  | includes => some "AGGREGEN_INCLUDE"
  | excludes => some "AGGREGEN_EXCLUDE"
  | template => some "AGGREGEN_TEMPLATE"
  | validation => some "AGGREGEN_VALIDATION"

def ofName? (name : String) : Option Setting := all.find? (·.name == name)

end Setting

namespace Switch

def all : List Switch := [format, keepOrphans, check, list, help, version]

def name : Switch → String
  | format => "format"
  | keepOrphans => "keep-orphans"
  | check => "check"
  | list => "list"
  | help => "help"
  | version => "version"

def ofName? (name : String) : Option Switch := all.find? (·.name == name)

/-- The switches that one letter stands for. -/
def ofLetter? : Char → Option Switch
  | 'h' => some help
  | 'V' => some version
  | _ => none

end Switch

end CommandLine

namespace Arguments

open CommandLine

def empty : Arguments :=
  ⟨none, none, none, none, none, none, none, none, false, false, false, false⟩

/-- The parts of a text between commas. -/
def parts (text : String) : List String := text.splitOn ","

/-- A path, which must not be empty. -/
def path (text : String) : Except ArgumentsEnd Path :=
  if text.isEmpty then .error .invalidValue else .ok ⟨text⟩

/-- A value for an option that may be given once. -/
def once {α : Type} (given : Option α) (value : Except ArgumentsEnd α) :
    Except ArgumentsEnd (Option α) :=
  match given with
  | some _ => .error .conflict
  | none => value.map some

/-- Gives a value to an option. Those that take several values add them to what they have. -/
def give (arguments : Arguments) (setting : Setting) (text : String) :
    Except ArgumentsEnd Arguments :=
  match setting with
  | .config => do return { arguments with config := ← once arguments.config (path text) }
  | .sourceRoots => do
    let roots ← (parts text).mapM path
    return { arguments with sourceRoots := some (arguments.sourceRoots.getD [] ++ roots) }
  | .outDir => do return { arguments with outDir := ← once arguments.outDir (path text) }
  | .suffix => do return { arguments with suffix := ← once arguments.suffix (.ok text) }
  | .includes =>
    return { arguments with includes := some (arguments.includes.getD [] ++ parts text) }
  | .excludes =>
    return { arguments with excludes := some (arguments.excludes.getD [] ++ parts text) }
  | .template => do return { arguments with template := ← once arguments.template (path text) }
  | .validation => do
    let mode : Except ArgumentsEnd ValidationMode := match ValidationMode.ofText? text with
      | some mode => .ok mode
      | none => .error .invalidValue
    return { arguments with validation := ← once arguments.validation mode }

def flip (given : Bool) : Except ArgumentsEnd Bool := if given then .error .conflict else .ok true

/-- Turns a switch on. -/
def turnOn (arguments : Arguments) (switch : Switch) : Except ArgumentsEnd Arguments :=
  match switch with
  | .format => do return { arguments with format := ← flip arguments.format }
  | .keepOrphans => do return { arguments with keepOrphans := ← flip arguments.keepOrphans }
  | .check => do return { arguments with check := ← flip arguments.check }
  | .list => do return { arguments with list := ← flip arguments.list }
  | .help => .error .help
  | .version => .error .version

/-- Whether an option has been given. -/
def has (arguments : Arguments) : Setting → Bool
  | .config => arguments.config.isSome
  | .sourceRoots => arguments.sourceRoots.isSome
  | .outDir => arguments.outDir.isSome
  | .suffix => arguments.suffix.isSome
  | .includes => arguments.includes.isSome
  | .excludes => arguments.excludes.isSome
  | .template => arguments.template.isSome
  | .validation => arguments.validation.isSome

/-- The options so far, and the last one as long as it is not finished: a value on its own is looked
at only when the next option starts. -/
structure Reading where
  arguments : Arguments
  unfinished : Option (Setting × Option String)

namespace Reading

/-- Finishes the last option, which has to have a value. -/
def finish (reading : Reading) : Except ArgumentsEnd Arguments :=
  match reading.unfinished with
  | none => .ok reading.arguments
  | some (_, none) => .error .invalidValue
  | some (setting, some text) => reading.arguments.give setting text

/-- Whether the last option waits for its value. -/
def waits? (reading : Reading) : Option Setting :=
  match reading.unfinished with
  | some (setting, none) => some setting
  | _ => none

/-- A long option: its name, and the value after an equals sign. -/
def long (reading : Reading) (name : String) (value : Option String) :
    Except ArgumentsEnd Reading :=
  match Setting.ofName? name, Switch.ofName? name, value with
  | some setting, _, some text => do
    return ⟨← (← reading.finish).give setting text, none⟩
  | some setting, _, none => do return ⟨← reading.finish, some (setting, none)⟩
  | none, some _, some _ => .error .tooManyValues
  | none, some switch, none => do return ⟨← (← reading.finish).turnOn switch, none⟩
  | none, none, _ => .error .unknownArgument

/-- An option of one letter. None of them takes a value or leaves something to do. -/
def short (reading : Reading) (letter : Char) : Except ArgumentsEnd Reading :=
  match Switch.ofLetter? letter with
  | some switch => do return ⟨← (← reading.finish).turnOn switch, none⟩
  | none => .error .unknownArgument

/-- The name of a long option and its value. -/
def splitLong (text : List Char) : String × Option String :=
  let name := String.ofList (text.takeWhile (· != '='))
  if text.contains '=' then (name, some (String.ofList ((text.dropWhile (· != '=')).drop 1)))
  else (name, none)

/-- What a word of the command line adds, if it is not the mark that ends the options. -/
def word (reading : Reading) (text : String) : Except ArgumentsEnd Reading :=
  match text.toList with
  | '-' :: '-' :: long =>
    let (name, value) := splitLong long
    reading.long name value
  | '-' :: letter :: _ => reading.short letter
  | _ =>
    match reading.waits? with
    | some setting => .ok { reading with unfinished := some (setting, some text) }
    | none => .error .unknownArgument

/-- Reads words. After a double dash there may be none. -/
def words (reading : Reading) : List String → Except ArgumentsEnd Reading
  | [] => .ok reading
  | "--" :: rest => if rest.isEmpty then .ok reading else .error .unknownArgument
  | text :: rest => do (← reading.word text).words rest

end Reading

/-- Takes a value from the environment for an option that is not given. -/
def orVariable (value? : String → Option String) (arguments : Arguments) (setting : Setting) :
    Except ArgumentsEnd Arguments :=
  if arguments.has setting then .ok arguments
  else
    match setting.environmentName?.bind value? with
    | some text => arguments.give setting text
    | none => .ok arguments

/-- What a command line and the environment ask for. -/
def read (value? : String → Option String) (words : List String) : Except ArgumentsEnd Arguments := do
  let reading ← Reading.words ⟨empty, none⟩ words
  Setting.all.foldlM (orVariable value?) (← reading.finish)

end Arguments

end Scaffold
