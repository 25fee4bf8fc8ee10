import RibTree.Declaration
import RibTree.Host
import RibTree.Settings

/-!
# Steps

One step of a run creates the files of a component, creates the extension through which a parent
meets the needs of a child, or declares the child in the parent's builder. A step looks at a
listing of the sources and does nothing if its result is there. All templates are rendered before
the first file is written; what was written before a failure stays.
-/

namespace RibTree

set_option autoImplicit false

inductive Status
  | created
  | skipped
  | edited
  | info
  deriving DecidableEq, Repr

def Status.text : Status → String
  | created => "created"
  | skipped => "skipped"
  | edited => "edited"
  | info => "info"

/-- What a step did. -/
structure Report where
  status : Status
  message : String
  deriving DecidableEq, Repr

inductive Command
  | createComponent
  | createExtension
  | addDependency
  | help
  | version
  deriving DecidableEq, Repr

def Command.text : Command → String
  | createComponent => "create-component"
  | createExtension => "create-extension"
  | addDependency => "add-dependency"
  | help => "help"
  | version => "version"

inductive Step
  | component (target : String) (ownsView : Bool)
  | extension (parent child : String)
  | dependency (parent child : String)
  deriving DecidableEq, Repr

structure SourceFile where
  path : Path
  content : String
  deriving DecidableEq, Repr

/-- The first path with exactly this file name. -/
def findFile (listing : List Path) (fileName : String) : Option Path :=
  listing.find? fun path => path.fileName? == some fileName

namespace Settings

def componentFolder (s : Settings) (target : String) : Path :=
  s.targetDirectory.join ⟨target⟩

def roleFile (s : Settings) (target : String) (role : Role) : Path :=
  (s.componentFolder target).join ⟨s.fileName (role.stem target)⟩

def extensionFolder (s : Settings) (parent : String) : Path :=
  (s.componentFolder parent).join ⟨"Dependencies"⟩

def extensionName (s : Settings) (parent child : String) : String :=
  s.fileName (extensionStem parent child)

def extensionFile (s : Settings) (parent child : String) : Path :=
  (s.extensionFolder parent).join ⟨s.extensionName parent child⟩

def builderName (s : Settings) (name : String) : String :=
  s.fileName (Role.builder.stem name)

end Settings

namespace Step

def command : Step → Command
  | component .. => .createComponent
  | extension .. => .createExtension
  | dependency .. => .addDependency

def parent : Step → Option String
  | component .. => none
  | extension parent _ | dependency parent _ => some parent

def target : Step → String
  | component target _ => target
  | extension _ child | dependency _ child => child

/-- A component is there when its builder is listed. -/
def needsComponent (s : Settings) (listing : List Path) (target : String) : Bool :=
  (findFile listing (s.builderName target)).isNone

def needsExtension (s : Settings) (listing : List Path) (parent child : String) : Bool :=
  (findFile listing (s.extensionName parent child)).isNone

/-- The builder that declares the children of `parent`. -/
def builder? (s : Settings) (listing : List Path) (parent : String) : Option Path :=
  findFile listing (s.builderName parent)

section

variable {m : Type → Type} [Monad m] (host : Host m) (s : Settings)

def ensureFolder (folder : Path) : ExceptT Failure m Unit := do
  if !(← host.isFolder folder) then
    attempt (host.createFolders folder) fun e => .folderNotCreated folder e.message

def writeFile (file : SourceFile) : ExceptT Failure m Unit :=
  attempt (host.write file.path file.content) fun e => .fileNotCreated file.path e.message

/-- A file rendered from its template, not written yet. -/
def renderFile (path : Path) (key : TemplateKey) (names : Placeholders) :
    ExceptT Failure m SourceFile := do
  let template ← attempt (host.template key) fun e => .fileNotCreated path e.message
  return ⟨path, names.render template⟩

def renderRoles (target : String) (ownsView : Bool) : ExceptT Failure m (List SourceFile) :=
  (Role.all ownsView).mapM fun role =>
    renderFile host (s.roleFile target role) (.component role ownsView s.fileExtension)
      { product := target }

def createComponent (target : String) (ownsView : Bool) : ExceptT Failure m Report := do
  let files ← renderRoles host s target ownsView
  ensureFolder host (s.componentFolder target)
  files.forM (writeFile host)
  return ⟨.created, s!"Success to create {target} ({files.length} files)"⟩

def createExtension (parent child : String) : ExceptT Failure m Report := do
  let file ← renderFile host (s.extensionFile parent child) (.extension s.fileExtension)
    { product := parent, child := some child }
  ensureFolder host (s.extensionFolder parent)
  writeFile host file
  return ⟨.created, "Success to create " ++ s.extensionName parent child⟩

/-- Declares the child in the builder at `path`, unless it is declared there. -/
def addDependency (path : Path) (parent child : String) : ExceptT Failure m Report := do
  let parentBuilder := Role.builder.stem parent
  let childBuilder := Role.builder.stem child
  let source ← attempt (host.read path) fun e => .fileNotEdited path e.message
  if Declaration.isDeclared child source then
    return ⟨.skipped, s!"No need to add {childBuilder} to {parentBuilder}, it already exists."⟩
  match Declaration.insertAbove s.dependencyAnchor (Declaration.statement child) source with
  | none => throw (.fileNotEdited path (Declaration.missingAnchor s.dependencyAnchor))
  | some updated =>
      attempt (host.write path updated) fun e => .fileNotEdited path e.message
      return ⟨.edited, s!"Success to add {childBuilder} to {parentBuilder}"⟩

/-- Performs a step in view of a listing of the sources, which need not agree with the host. -/
def perform (listing : List Path) : Step → ExceptT Failure m Report
  | component target ownsView =>
      if needsComponent s listing target then createComponent host s target ownsView
      else return ⟨.skipped, s!"No need to add {target}, it already exists."⟩
  | extension parent child =>
      if needsExtension s listing parent child then createExtension host s parent child
      else return ⟨.skipped, s!"No need to add {s.extensionName parent child}, it already exists."⟩
  | dependency parent child =>
      match builder? s listing parent with
      | none => throw (.builderNotFound parent (s.builderName parent))
      | some path => addDependency host s path parent child

end

end Step

end RibTree
