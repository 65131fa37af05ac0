import FlowchartMerge.Storage.History

/-!
# The system around a command

A command asks its system to read a file, to write one, and to run git. Nothing is
known of the state of the system but what it answers. A file that cannot be written leaves
the state as it is.
-/

set_option autoImplicit false

namespace FlowchartMerge

structure System (σ : Type) where
  read : σ → (path : Text) → Except FileError ByteArray
  write : σ → (path : Text) → ByteArray → Except FileError σ
  git : σ → Git

end FlowchartMerge
