import RibTree.Path.Basic

/-!
# Requests

What the words of a command line ask for. The first two words name a subcommand and what it is
about; the rest are options. An option takes the last word before the next option as its value.
-/

namespace RibTree

set_option autoImplicit false

inductive ArgumentFailure
  | tooFew
  | missingOption (subcommand option : String)
  deriving DecidableEq, Repr

namespace ArgumentFailure

def message : ArgumentFailure → String
  | tooFew => "Lack of arguments: expected at least a subcommand and a target"
  | missingOption subcommand option =>
      "Missing required option --" ++ option ++ " for '" ++ subcommand ++ "'"

def suggestions : ArgumentFailure → List String
  | tooFew =>
      ["Usage: ribgen <add|link|scaffold|help|version> <name> [--option value]",
        "Example: ribgen add Profile --parent App"]
  | missingOption subcommand option =>
      ["'" ++ subcommand ++ "' needs --" ++ option ++ " <Name>",
        "Example: ribgen " ++ subcommand ++ " Child --" ++ option ++ " App"]

end ArgumentFailure

/-- The options of a command line with their values, each key once, in the order of the keys'
first occurrences. -/
structure Options where
  entries : List (String × String)
  deriving DecidableEq, Repr

namespace Options

def empty : Options := ⟨[]⟩

def get? (o : Options) (key : String) : Option String :=
  o.entries.lookup key

/-- Puts a value under a key, in the place of the value that is there. -/
def setEntry (key value : String) : List (String × String) → List (String × String)
  | [] => [(key, value)]
  | (k, v) :: rest => if k = key then (key, value) :: rest else (k, v) :: setEntry key value rest

def set (o : Options) (key value : String) : Options :=
  ⟨setEntry key value o.entries⟩

def has (o : Options) (key : String) : Bool :=
  (o.get? key).isSome

theorem lookup_setEntry (key value k : String) (entries : List (String × String)) :
    (setEntry key value entries).lookup k = if k = key then some value else entries.lookup k := by
  induction entries with
  | nil => grind [setEntry]
  | cons entry rest ih =>
      obtain ⟨own, v⟩ := entry
      by_cases hOwn : own = key <;> by_cases hKey : k = key <;>
        grind [setEntry]

@[simp] theorem get?_empty (k : String) : empty.get? k = none := rfl

@[simp] theorem get?_set (o : Options) (key value k : String) :
    (o.set key value).get? k = if k = key then some value else o.get? k :=
  lookup_setEntry key value k o.entries

end Options

/-- The key that a word declares: what follows two dashes. -/
def optionKey? (word : String) : Option String :=
  match word.toList with
  | '-' :: '-' :: key => some (String.ofList key)
  | _ => none

/-- Reads words after the options so far. A value goes to the latest key and is dropped if there
is none; a key that comes again starts without a value. -/
def readOptions (options : Options) (latest : Option String) : List String → Options
  | [] => options
  | word :: rest =>
      match optionKey? word, latest with
      | some key, _ => readOptions (options.set key "") (some key) rest
      | none, some key => readOptions (options.set key word) latest rest
      | none, none => readOptions options none rest

structure Arguments where
  first : String
  second : String
  options : Options
  deriving DecidableEq, Repr

inductive Request
  | help
  | version
  | add (target : String) (parent : Option String) (ownsView : Bool)
  | link (parent child : String)
  | scaffold (outline : Path) (parent : String)
  deriving DecidableEq, Repr

namespace Arguments

def parse : List String → Except ArgumentFailure Arguments
  | first :: second :: rest => .ok ⟨first, second, readOptions .empty none rest⟩
  | _ => .error .tooFew

def hasParent (a : Arguments) : Bool := a.options.has "parent"

def noView (a : Arguments) : Bool := a.options.has "no-view"

/-- The value of `--parent`, empty if there is none. -/
def parent (a : Arguments) : String := (a.options.get? "parent").getD ""

/-- The parent, if it is given and not empty. -/
def parent? (a : Arguments) : Option String :=
  (a.options.get? "parent").filter (· ≠ "")

def requiredParent (a : Arguments) : Except ArgumentFailure String :=
  match a.parent? with
  | some parent => .ok parent
  | none => .error (.missingOption a.first "parent")

/-- What the words ask for. Unknown subcommands ask for help. -/
def request (a : Arguments) : Except ArgumentFailure Request :=
  if a.first = "version" then .ok .version
  else if a.first = "add" then .ok (.add a.second a.parent? (!a.noView))
  else if a.first = "link" then a.requiredParent.map (.link · a.second)
  else if a.first = "scaffold" then a.requiredParent.map (.scaffold ⟨a.second⟩ ·)
  else .ok .help

end Arguments

namespace Request

/-- The words that ask for the same, as messages show them. -/
def text : Request → String
  | help => "help"
  | version => "version"
  | add target (some parent) _ => s!"add {target} --parent {parent}"
  | add target none _ => s!"add {target}"
  | link parent child => s!"link {child} --parent {parent}"
  | scaffold outline parent => s!"scaffold {outline.text} --parent {parent}"

end Request

end RibTree
