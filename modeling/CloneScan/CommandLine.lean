import CloneScan.Exchange
import CloneScan.FileSystem

/-!
# The Command Line

How the words of a command line are understood. They are read from left to right. An option
that wants a value takes it from the same word, after an equals sign, or from the next word
unless that one starts with a dash. Every word that belongs to no option is a path, and after
a double dash every word is one.

What a word gives is only checked when the next option begins or the line ends, since until
then more may follow. That decides which of two mistakes is reported: a word that is no
option at all, or a value where none may be, is reported before the value of the word in
front of it is looked at, and any other option after.

## Main definitions

* `UsageError`: Why a command line is not carried out.
* `Arguments`: What a command line gives.
* `Arguments.ofWords`: Reads a command line.
* `Arguments.usage`: What may be written on a command line.
* `Options`: What a run is told.
* `Options.ofArguments`: The options that arguments come to, with a settings file read.
-/

namespace CloneScan

/-- Why a command line is not carried out. -/
inductive UsageError where
  | displayHelp
  | displayVersion
  /-- A word looks like an option and is none. -/
  | unknownArgument
  /-- A value is missing or not allowed. -/
  | invalidValue
  | missingRequiredArgument
  /-- An option is given twice. -/
  | argumentConflict
  /-- An option that takes no value has one. -/
  | tooManyValues
  deriving Repr, DecidableEq

/-- Why a command line is not carried out, in words. -/
def UsageError.message : UsageError → String
  | displayHelp => "help was asked for"
  | displayVersion => "the version was asked for"
  | unknownArgument => "there is no such option"
  | invalidValue => "an option or a path has no value, or one that is not allowed"
  | missingRequiredArgument => "no path is given"
  | argumentConflict => "an option is given more than once"
  | tooManyValues => "an option that takes no value has one"

/-- The options that take a value. -/
inductive ValueOption where
  | settingsFile
  | commentPattern
  | commentMessage
  | format
  deriving Repr, DecidableEq

/-- The options that take none. -/
inductive FlagOption where
  | ignoreLiterals
  | ignoreIdentifiers
  | debug
  deriving Repr, DecidableEq

/-- What a word that starts with two dashes names. -/
inductive LongOption where
  | value (o : ValueOption)
  | flag (o : FlagOption)
  | help
  | version
  deriving Repr, DecidableEq

/-- The options by their names. -/
def LongOption.ofName? (name : String) : Option LongOption :=
  [("config", value .settingsFile), ("comment-regex", value .commentPattern),
    ("comment-message", value .commentMessage), ("format", value .format),
    ("ignore-literals", flag .ignoreLiterals), ("ignore-identifiers", flag .ignoreIdentifiers),
    ("debug", flag .debug), ("help", help), ("version", version)].lookup name

/-- How the report of a run is written. -/
inductive ReportFormat where
  | text
  | json
  deriving Repr, DecidableEq

/-- The formats by their names. -/
def ReportFormat.ofName? (name : String) : Option ReportFormat :=
  [("text", text), ("json", json)].lookup name

/-- What a command line gives. -/
structure Arguments where
  paths : List String
  settingsFile : Option String
  /-- The pattern of comments to report. -/
  commentPattern : Option String
  /-- What to say of such a comment. -/
  commentMessage : Option String
  format : Option ReportFormat
  /-- The options without a value. -/
  flags : List FlagOption
  deriving Repr, DecidableEq

namespace Arguments

/-- An empty command line. -/
def empty : Arguments :=
  ⟨[], none, none, none, none, []⟩

/-- An option is given a value. -/
def setValue (a : Arguments) (o : ValueOption) (v : String) : Except UsageError Arguments :=
  match o with
  | .settingsFile =>
    if a.settingsFile.isSome then .error .argumentConflict
    else if v.isEmpty then .error .invalidValue
    else .ok { a with settingsFile := some v }
  | .commentPattern =>
    if a.commentPattern.isSome then .error .argumentConflict
    else .ok { a with commentPattern := some v }
  | .commentMessage =>
    if a.commentMessage.isSome then .error .argumentConflict
    else .ok { a with commentMessage := some v }
  | .format =>
    if a.format.isSome then .error .argumentConflict
    else match ReportFormat.ofName? v with
      | some f => .ok { a with format := some f }
      | none => .error .invalidValue

/-- An option without a value is given. -/
def setFlag (a : Arguments) (o : FlagOption) : Except UsageError Arguments :=
  if a.flags.contains o then .error .argumentConflict else .ok { a with flags := a.flags ++ [o] }

/-- Further paths are given. -/
def addPaths (a : Arguments) (paths : List String) : Except UsageError Arguments :=
  if paths.contains "" then .error .invalidValue else .ok { a with paths := a.paths ++ paths }

/-- What the last words gave and has not been checked yet. -/
inductive Pending where
  | nothing
  /-- An option that takes a value, with the value if it came. -/
  | option (o : ValueOption) (value : Option String)
  | paths (words : List String)
  deriving Repr, DecidableEq

/-- A command line that has been read in part. -/
structure Reading where
  /-- What has been checked. -/
  arguments : Arguments
  /-- What has not. -/
  pending : Pending
  /-- A double dash was read: only paths follow. -/
  pathsOnly : Bool
  deriving Repr, DecidableEq

namespace Reading

/-- Nothing has been read. -/
def start : Reading :=
  ⟨.empty, .nothing, false⟩

/-- Checks what the last words gave. -/
def settle (r : Reading) : Except UsageError Arguments :=
  match r.pending with
  | .nothing => .ok r.arguments
  | .option _ none => .error .invalidValue
  | .option o (some v) => r.arguments.setValue o v
  | .paths words => r.arguments.addPaths words

/-- Goes on after what has been checked. -/
def continueWith (r : Reading) (a : Arguments) (pending : Pending) : Reading :=
  { r with arguments := a, pending := pending }

/-- Reads a word that is a path, or the value of the option before it. -/
def plainWord (r : Reading) (word : String) : Except UsageError Reading :=
  match r.pending with
  | .paths words => .ok { r with pending := .paths (words ++ [word]) }
  | .option o none =>
    if r.pathsOnly then .error .invalidValue
    else .ok { r with pending := .option o (some word) }
  | _ => do return r.continueWith (← r.settle) (.paths [word])

/-- Reads an option by its name, with the value from the same word if there is one. -/
def longOption (r : Reading) (name : String) (value : Option String) :
    Except UsageError Reading :=
  match LongOption.ofName? name, value with
  | none, _ => .error .unknownArgument
  | some (.value o), some v => do
    return r.continueWith (← (← r.settle).setValue o v) .nothing
  | some (.value o), none => do return r.continueWith (← r.settle) (.option o none)
  | some _, some _ => .error .tooManyValues
  | some (.flag o), none => do return r.continueWith (← (← r.settle).setFlag o) .nothing
  | some .help, none => do
    let _ ← r.settle
    throw .displayHelp
  | some .version, none => do
    let _ ← r.settle
    throw .displayVersion

/-- Reads a word of single-letter options, of which the first one decides. -/
def shortOption (r : Reading) (letter : Char) : Except UsageError Reading :=
  if letter = 'h' ∨ letter = 'V' then do
    let _ ← r.settle
    throw (if letter = 'h' then .displayHelp else .displayVersion)
  else .error .unknownArgument

/-- Reads a word. -/
def word (r : Reading) (w : String) : Except UsageError Reading :=
  if r.pathsOnly then r.plainWord w
  else match w.toList with
    | ['-', '-'] => .ok { r with pathsOnly := true }
    | '-' :: '-' :: rest =>
      let name := String.ofList (rest.takeWhile (· ≠ '='))
      match rest.dropWhile (· ≠ '=') with
      | [] => r.longOption name none
      | _ :: value => r.longOption name (some (String.ofList value))
    | '-' :: letter :: _ => r.shortOption letter
    | _ => r.plainWord w

end Reading

/-- What may be written on a command line. -/
def usage : String :=
  "Usage: clone-scan [OPTIONS] <PATH>...\n\n" ++
  "Scans the files and directories given, in the archive on standard input.\n\n" ++
  "Options:\n" ++
  "  --ignore-literals         let numbers, strings and characters be equal\n" ++
  "  --ignore-identifiers      let identifiers be equal\n" ++
  "  --config <FILE>           read settings from a JSON file\n" ++
  "  --comment-regex <PATTERN> report comments that match a pattern\n" ++
  "  --comment-message <TEXT>  what to say of such a comment\n" ++
  "  --format <FORMAT>         text or json\n" ++
  "  --debug                   show more of the log\n" ++
  "  -h, --help                show this text\n" ++
  "  -V, --version             show the version\n"

/-- The version of the program. -/
def version : String :=
  "clone-scan 0.1.0"

/-- Reads a command line. A path must be given. -/
def ofWords (words : List String) : Except UsageError Arguments := do
  let reading ← words.foldlM Reading.word Reading.start
  let arguments ← reading.settle
  if arguments.paths.isEmpty then throw .missingRequiredArgument
  return arguments

end Arguments

/-- What a run is told. -/
structure Options where
  paths : List Path
  settings : Settings
  format : ReportFormat
  /-- The log is to show more. -/
  debug : Bool
  deriving Repr, DecidableEq

namespace Settings

/-- Reads a settings file. -/
def ofFile (fs : FileSystem) (path : Path) : Except Fault Settings := do
  Settings.ofText (← fs.readText path)

/-- The settings with what a command line says on top. Its flags only ever switch on. -/
def overrideWith (s : Settings) (a : Arguments) : Settings where
  policy :=
    { ignoreLiterals := s.policy.ignoreLiterals || a.flags.contains .ignoreLiterals
      ignoreIdentifiers := s.policy.ignoreIdentifiers || a.flags.contains .ignoreIdentifiers }
  commentPattern := a.commentPattern <|> s.commentPattern
  commentMessage := a.commentMessage <|> s.commentMessage
  extensions := s.extensions

end Settings

namespace Options

/-- The options that arguments come to. -/
def ofArguments (fs : FileSystem) (a : Arguments) : Except Fault Options := do
  let settings ← match a.settingsFile with
    | some file => Settings.ofFile fs ⟨file⟩
    | none => pure Settings.initial
  return ⟨a.paths.map Path.ofString, settings.overrideWith a, a.format.getD .text,
    a.flags.contains .debug⟩

end Options

end CloneScan
