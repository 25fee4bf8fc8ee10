import RibTree.Path.Basic

/-!
# Flags

The words of a command line in front of the request. Flags end at two dashes or at the first word
that is not a known flag, and everything from there on belongs to the request, dashes or not.
-/

namespace RibTree

set_option autoImplicit false

inductive Flag
  | verbose
  | quiet
  | noColor
  | settings
  | outputFormat
  | help
  | version
  deriving DecidableEq, Repr

namespace Flag

def all : List Flag := [verbose, quiet, noColor, settings, outputFormat, help, version]

def long : Flag → String
  | verbose => "verbose"
  | quiet => "quiet"
  | noColor => "no-color"
  | settings => "settings"
  | outputFormat => "output-format"
  | help => "help"
  | version => "version"

def short? : Flag → Option Char
  | verbose => some 'v'
  | quiet => some 'q'
  | settings => some 's'
  | help => some 'h'
  | version => some 'V'
  | noColor | outputFormat => none

def takesValue : Flag → Bool
  | settings | outputFormat => true
  | _ => false

def ofLong? (name : List Char) : Option Flag :=
  all.find? fun flag => flag.long.toList = name

def ofShort? (letter : Char) : Option Flag :=
  all.find? fun flag => flag.short? = some letter

end Flag

/-- One use of a flag, with the value that stands in the same word. -/
structure FlagUse where
  flag : Flag
  value : Option String
  deriving DecidableEq, Repr

/-- The flags of a cluster of letters. The first one that takes a value takes the letters after
it. -/
def readCluster : List Char → List FlagUse
  | [] => []
  | letter :: rest =>
      match Flag.ofShort? letter with
      | none => []
      | some flag =>
          if flag.takesValue then
            [⟨flag, if rest.isEmpty then none else some (String.ofList rest)⟩]
          else ⟨flag, none⟩ :: readCluster rest

/-- The uses of flags that a word makes. A word with an unknown flag makes none. -/
def flagUses (word : String) : List FlagUse :=
  match word.toList with
  | '-' :: '-' :: text =>
      let name := text.takeWhile (· != '=')
      let value := (text.dropWhile (· != '=')).tail
      match Flag.ofLong? name with
      | none => []
      | some flag =>
          [⟨flag, if name.length = text.length then none else some (String.ofList value)⟩]
  | '-' :: letters =>
      if letters.all fun letter => (Flag.ofShort? letter).isSome then readCluster letters else []
  | _ => []

inductive OutputFormat
  /-- Styled on a terminal, plain elsewhere. -/
  | auto
  | human
  | plain
  | json
  deriving DecidableEq, Repr

namespace OutputFormat

def all : List OutputFormat := [auto, human, plain, json]

def text : OutputFormat → String
  | auto => "auto"
  | human => "human"
  | plain => "plain"
  | json => "json"

def ofText? (s : String) : Option OutputFormat :=
  all.find? fun format => format.text = s

end OutputFormat

structure Flags where
  verbose : Bool := false
  quiet : Bool := false
  noColor : Bool := false
  settings : Option Path := none
  format : Option OutputFormat := none
  deriving DecidableEq, Repr

/-- A command line that cannot be read. -/
inductive UsageFailure
  | repeated (flag : Flag)
  | unexpectedValue (flag : Flag) (value : String)
  | missingValue (flag : Flag)
  | badValue (name value : String)
  | quietAndVerbose
  deriving DecidableEq, Repr

namespace UsageFailure

def message : UsageFailure → String
  | repeated flag => s!"the argument '--{flag.long}' cannot be used multiple times"
  | unexpectedValue flag value =>
      s!"unexpected value '{value}' for '--{flag.long}' found; no more were expected"
  | missingValue flag =>
      s!"a value is required for '--{flag.long}' but none was supplied"
  | badValue name value => s!"invalid value '{value}' for '{name}'"
  | quietAndVerbose => "the argument '--quiet' cannot be used with '--verbose'"

end UsageFailure

/-- What ends the reading of a command line early. -/
inductive EarlyEnd
  | usage (failure : UsageFailure)
  | help
  | version
  deriving DecidableEq, Repr

namespace Flags

/-- Gives a flag its value. -/
def setValue (f : Flags) (flag : Flag) (value : String) : Except EarlyEnd Flags :=
  match flag with
  | .settings =>
      if f.settings.isSome then .error (.usage (.repeated flag))
      else if value.isEmpty then .error (.usage (.missingValue flag))
      else .ok { f with settings := some ⟨value⟩ }
  | .outputFormat =>
      if f.format.isSome then .error (.usage (.repeated flag))
      else match OutputFormat.ofText? value with
        | some format => .ok { f with format := some format }
        | none => .error (.usage (.badValue ("--" ++ flag.long) value))
  | _ => .error (.usage (.unexpectedValue flag value))

/-- Raises a flag that takes no value. Help and the version are given at once. -/
def raise (f : Flags) : Flag → Except EarlyEnd Flags
  | .verbose => .ok { f with verbose := true }
  | .quiet =>
      if f.quiet then .error (.usage (.repeated .quiet)) else .ok { f with quiet := true }
  | .noColor =>
      if f.noColor then .error (.usage (.repeated .noColor)) else .ok { f with noColor := true }
  | .help => .error .help
  | .version => .error .version
  | flag => .error (.usage (.missingValue flag))

/-- The flags after the uses of one word, and the flag whose value is the next word. -/
def use (f : Flags) : List FlagUse → Except EarlyEnd (Flags × Option Flag)
  | [] => .ok (f, none)
  | ⟨flag, some value⟩ :: rest => do use (← f.setValue flag value) rest
  | ⟨flag, none⟩ :: rest =>
      if flag.takesValue then
        if (flag = .settings ∧ f.settings.isSome) ∨ (flag = .outputFormat ∧ f.format.isSome) then
          .error (.usage (.repeated flag))
        else .ok (f, some flag)
      else do use (← f.raise flag) rest

/-- Reads flags up to the first word of the request. `waiting` is the flag whose value is the next
word; it takes any word but a flag and the two dashes. -/
def read (f : Flags) (waiting : Option Flag) :
    List String → Except EarlyEnd (Flags × List String)
  | [] =>
      match waiting with
      | some flag => .error (.usage (.missingValue flag))
      | none => .ok (f, [])
  | word :: rest =>
      match waiting, flagUses word with
      | some flag, [] =>
          if word = "--" then .error (.usage (.missingValue flag))
          else do read (← f.setValue flag word) none rest
      | some flag, _ :: _ => .error (.usage (.missingValue flag))
      | none, [] => .ok (f, if word = "--" then rest else word :: rest)
      | none, uses => do
          let (f, waiting) ← f.use uses
          read f waiting rest

/-- The name of the variable that turns colors off. -/
def noColorVariable : String := "NO_COLOR"

/-- Reads a command line. The variable is looked at only if the flag for it is not given, and it
has to be a truth value. -/
def parse (words : List String) (noColor : Option String) :
    Except EarlyEnd (Flags × List String) := do
  let (f, request) ← read {} none words
  if f.quiet && f.verbose then .error (.usage .quietAndVerbose)
  else if f.noColor then .ok (f, request)
  else match noColor with
    | none | some "false" => .ok (f, request)
    | some "true" => .ok ({ f with noColor := true }, request)
    | some value => .error (.usage (.badValue noColorVariable value))

end Flags

end RibTree
