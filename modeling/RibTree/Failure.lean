import RibTree.Outline.Line
import RibTree.Request
import RibTree.Template.Basic

/-!
# Failures

Why a request, an outline or a step of a run can fail. Every failure has a kind for scripts, an
exit code, a message and advice; failures of arguments and outlines end a run, the others only
the step they belong to.
-/

namespace RibTree

set_option autoImplicit false

/-- A file or folder could not be read or written. -/
structure StorageFailure where
  path : Path
  reason : String
  deriving DecidableEq, Repr

inductive TemplateFailure
  | missing (key : TemplateKey)
  | unreadable (failure : StorageFailure)
  deriving DecidableEq, Repr

/-- The sources of a project could not be listed. -/
structure IndexFailure where
  root : Path
  reason : String
  deriving DecidableEq, Repr

inductive Failure
  | argument (failure : ArgumentFailure)
  | outline (failure : OutlineFailure)
  | folderNotCreated (path : Path) (reason : String)
  | fileNotCreated (path : Path) (reason : String)
  | fileNotEdited (path : Path) (reason : String)
  | builderNotFound (parent fileName : String)
  | storage (failure : StorageFailure)
  | templateNotFound (key : String)
  | index (failure : IndexFailure)
  | outlineNotFound (path : Path)
  | outlineUnreadable (path : Path) (reason : String)
  deriving DecidableEq, Repr

namespace StorageFailure

def message (f : StorageFailure) : String :=
  s!"Filesystem error at {f.path.text}: {f.reason}"

end StorageFailure

/-- Reading a template from a set. -/
def TemplateSet.read (t : TemplateSet) (key : TemplateKey) : Except TemplateFailure String :=
  match t.get? key with
  | some text => .ok text
  | none => .error (.missing key)

namespace TemplateFailure

def message : TemplateFailure → String
  | missing key => "Template not found: " ++ key.text
  | unreadable failure => failure.message

end TemplateFailure

/-- What a failure is about. -/
inductive Category
  | argument
  | outline
  | notFound
  | filesystem
  deriving DecidableEq, Repr

namespace Category

def text : Category → String
  | argument => "Argument"
  | outline => "Outline"
  | notFound => "NotFound"
  | filesystem => "Filesystem"

end Category

namespace Failure

def ofTemplate : TemplateFailure → Failure
  | .missing key => .templateNotFound key.text
  | .unreadable failure => .storage failure

/-- A name for the kind of failure that does not change. -/
def kind : Failure → String
  | argument .tooFew => "lackOfArguments"
  | argument (.missingOption ..) => "missingOption"
  | outline _ => "malformedOutline"
  | folderNotCreated .. => "failedCreateDirectory"
  | fileNotCreated .. => "failedCreateFile"
  | fileNotEdited .. => "failedEditFile"
  | builderNotFound .. => "builderNotFound"
  | storage _ => "filesystem"
  | templateNotFound _ => "templateNotFound"
  | index _ => "indexFailed"
  | outlineNotFound _ => "outlineNotFound"
  | outlineUnreadable .. => "outlineUnreadable"

/-- The exit code of a run that reports this failure first. -/
def exitCode : Failure → Nat
  | argument _ => 2
  | folderNotCreated .. => 3
  | fileNotCreated .. | templateNotFound _ => 4
  | fileNotEdited .. | storage _ => 5
  | builderNotFound .. => 6
  | outline _ | outlineNotFound _ | outlineUnreadable .. => 7
  | index _ => 8

def category : Failure → Category
  | argument _ => .argument
  | outline _ | outlineNotFound _ | outlineUnreadable .. => .outline
  | builderNotFound .. | templateNotFound _ => .notFound
  | folderNotCreated .. | fileNotCreated .. | fileNotEdited .. | storage _ | index _ => .filesystem

/-- Whether the failure ends a run before its first step. -/
def isFatal (f : Failure) : Bool :=
  f.category = .argument || f.category = .outline

def message : Failure → String
  | argument failure => failure.message
  | outline failure => failure.message
  | folderNotCreated path reason => s!"Failed to create directory {path.text}: {reason}"
  | fileNotCreated path reason => s!"Failed to create file {path.text}: {reason}"
  | fileNotEdited path reason => s!"Failed to edit file {path.text}: {reason}"
  | builderNotFound parent fileName =>
      "Builder for '" ++ parent ++ "' not found (looked for " ++ fileName ++ ")"
  | storage failure => failure.message
  | templateNotFound key => "Template not found: " ++ key
  | index failure => s!"Failed to index sources under {failure.root.text}: {failure.reason}"
  | outlineNotFound path => "Outline file not found: " ++ path.text
  | outlineUnreadable path reason => s!"Failed to read outline {path.text}: {reason}"

def suggestions : Failure → List String
  | argument failure => failure.suggestions
  | outline failure => failure.suggestions
  | folderNotCreated path _ =>
      ["Could not create: " ++ path.text,
        "Check that you have write permissions",
        "Check targetDirectory in .ribgen"]
  | fileNotCreated path _ =>
      ["Could not write: " ++ path.text,
        "Check templateDirectory in .ribgen contains the template",
        "Check that you have write permissions"]
  | fileNotEdited path _ =>
      ["Could not update: " ++ path.text,
        "Make sure the builder contains the dependency anchor line"]
  | builderNotFound parent fileName =>
      ["Create '" ++ parent ++ "' first: ribgen add " ++ parent,
        "Or check that " ++ fileName ++ " lives under targetDirectory"]
  | outlineNotFound path =>
      ["No file at " ++ path.text,
        "Pass the outline path relative to the current directory"]
  | index failure =>
      ["Could not list sources under " ++ failure.root.text,
        "Check targetDirectory in .ribgen"]
  | storage _ | templateNotFound _ | outlineUnreadable .. => ["Check the error details above"]

@[simp] theorem message_ofTemplate (f : TemplateFailure) :
    (ofTemplate f).message = f.message := by
  cases f <;> rfl

end Failure

end RibTree
