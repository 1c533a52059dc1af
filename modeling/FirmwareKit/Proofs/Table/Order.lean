import Mathlib.Data.List.TakeWhile
import FirmwareKit.Proofs.Files.Descent
import FirmwareKit.Proofs.Sources.Order
import FirmwareKit.Proofs.Table.Listing

/-! All tables of a directory or none. Each file with the wanted extension gives one table, and
they come in the order of the bytes of their names, which is the order of the components of their
paths. If one holds no table, nothing but the fault of the first such file is told, and if the
directory cannot be listed, nothing but that. The order in which the system lists the directory
decides neither. -/

namespace FirmwareKit

namespace Path

end Path

namespace Table

open Files

/-- A file in the directory, itself or through a link, whose name has the extension: something
stands before its last dot, and the extension behind it. -/
structure IsTableFile (files : Files) (dir : Path) (extension name : String) : Prop where
  listed : ∃ names, files.list dir = .ok names ∧ name ∈ names
  file : files.isFile (dir.join name) = true
  stem : ∃ stem, stem ≠ "" ∧ name = stem ++ "." ++ extension
  noDot : '.' ∉ extension.toList

variable {files : Files} {dir : Path} {extension : String}

theorem IsTableFile.isName {name : String} (hroot : files.root.Proper)
    (h : IsTableFile files dir extension name) : Node.IsName name := by
  obtain ⟨names, hlist, hname⟩ := h.listed
  exact (names_of_list hroot hlist).2 name hname

end Table

end FirmwareKit
