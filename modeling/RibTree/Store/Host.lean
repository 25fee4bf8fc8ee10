import RibTree.Host
import RibTree.Store.Basic

/-!
# A store as a host

One store is the file system and the index of a run. It never fails to list its sources.
-/

namespace RibTree.Store

set_option autoImplicit false

/-- An update of the store, with a failure at `path` if it is refused. -/
def update (path : Path) (change : Store → Except String Store) :
    StateM Store (Except StorageFailure Unit) := fun s =>
  match change s with
  | .ok changed => (.ok (), changed)
  | .error reason => (.error ⟨path, reason⟩, s)

/-- The store works with templates from elsewhere, which it cannot change. -/
def host (template : TemplateKey → Except TemplateFailure String) : Host (StateM Store) where
  createFolders path := update path (·.createFolders path)
  write path content := update path (·.write path content)
  read path := do return ((← get).read path).mapError (StorageFailure.mk path)
  isPresent path := do return (← get).isPresent path
  isFolder path := do return (← get).isFolder path
  sources root extension := do return .ok ((← get).sources root extension)
  template key := return template key

end RibTree.Store
