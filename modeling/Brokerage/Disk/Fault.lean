import Brokerage.Record.Basic

/-!
What can be wrong with the file of a database, with its neighbours on the disk, or with what an
address asks for them.
-/

namespace Brokerage.Disk

inductive Fault where
  | cannotOpen
  | readOnly
  /-- A directory cannot be read as a file. -/
  | isDirectory
  /-- The file whose rights a new file is to have is missing. -/
  | noModel
  /-- No file can tell others that the database is in use. -/
  | cannotLock
  | locked
  /-- What is left of a transaction would have to be undone first. -/
  | journalLeft
  | notADatabase
  | malformed
  | unsupportedFormat
  | foreignEncoding
  deriving DecidableEq, Repr

namespace Fault

/-- The result code of a fault, and what is said of it. -/
def result : Fault → Nat × String
  | cannotOpen => (14, "unable to open database file")
  | readOnly => (8, "attempt to write a readonly database")
  | isDirectory => (266, "disk I/O error")
  | noModel => (1802, "disk I/O error")
  | cannotLock => (3850, "disk I/O error")
  | locked => (5, "database is locked")
  | journalLeft => (776, "attempt to write a readonly database")
  | notADatabase => (26, "file is not a database")
  | malformed => (11, "database disk image is malformed")
  | unsupportedFormat => (1, "unsupported file format")
  | foreignEncoding => (1, "attached databases must use the same text encoding as main database")

/-- The refusal that a fault leads to. -/
def refusal (f : Fault) : StoreError := .database (.refused f.result.1 f.result.2)

end Fault

end Brokerage.Disk
