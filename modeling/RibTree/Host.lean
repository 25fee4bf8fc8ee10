import RibTree.Failure

/-!
# Hosts

What a run asks of the place that it works in. A host may keep a state of any kind and may fail at
any call; nothing is assumed of it here.
-/

namespace RibTree

set_option autoImplicit false

structure Host (m : Type → Type) where
  /-- Creates a folder with all folders above it. -/
  createFolders : Path → m (Except StorageFailure Unit)
  /-- Writes a file in an existing folder, in the place of the one that is there. -/
  write : Path → String → m (Except StorageFailure Unit)
  read : Path → m (Except StorageFailure String)
  isPresent : Path → m Bool
  isFolder : Path → m Bool
  /-- The files under a folder that have the given extension. -/
  sources : Path → String → m (Except IndexFailure (List Path))
  template : TemplateKey → m (Except TemplateFailure String)

/-- A host call as a part of a step: the step says what its failure means. -/
def attempt {m : Type → Type} {ε α : Type} [Monad m] (call : m (Except ε α))
    (meaning : ε → Failure) : ExceptT Failure m α :=
  ExceptT.mk ((·.mapError meaning) <$> call)

end RibTree
