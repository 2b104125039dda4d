import Cellbook.IoFault
import Cellbook.Text.Utf8

/-!
# Stores

A store keeps files by name, with no directories.
-/

namespace Cellbook

/-- Stores with state `σ`. -/
class FileStore (σ : Type) where
  /-- The names of all files, in no particular order. -/
  list : σ → Except IoFault (List String)
  /-- The size of a file in octets. -/
  size : σ → String → Except IoFault Nat
  /-- The content of a file. -/
  read : σ → String → Except IoFault Bytes
  /-- Sets the content of a file, which need not exist. -/
  write : σ → String → Bytes → σ × Except IoFault Unit
  /-- Removes a file. -/
  remove : σ → String → σ × Except IoFault Unit
  /-- Whether there is a file of that name. -/
  exists? : σ → String → Bool

end Cellbook
