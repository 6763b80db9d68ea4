import ServiceBroker.Program

/-!
# Files

The program reads its settings, certificates and the description of its platform from files. What it
asks of them is an effect, so that a test can answer as well as a file system.

## Main definitions

* `Files.effects`: finding and reading files
* `Files.find`, `Files.read`: one such effect as a program
-/

namespace ServiceBroker.Files

/-- What a path leads to. -/
inductive Entry where
  | file
  | directory
  deriving DecidableEq, Repr

/-- What can be asked of files. -/
inductive Request where
  | find (path : String)
  | read (path : String)
  deriving DecidableEq, Repr

/-- The type of the reply to a request. A file that cannot be read has a text that says why. -/
abbrev Request.Reply : Request → Type
  | .find _ => Option Entry
  | .read _ => Except String (List UInt8)

/-- Finding and reading files. -/
abbrev effects : Effects := ⟨Request, Request.Reply⟩

/-- What a path leads to, if anything. -/
def find (path : String) : Program effects (Option Entry) :=
  .ask (E := effects) (.find path) fun entry => .done entry

/-- The content of a file, or why it cannot be read. -/
def read (path : String) : Program effects (Except String (List UInt8)) :=
  .ask (E := effects) (.read path) fun content => .done content

/-- Why a file that does not exist cannot be read. -/
def missing : String := "No such file or directory (os error 2)"

/-- A path inside a directory. -/
def inside (directory name : String) : String :=
  if directory.toList.getLast? = some '/' then directory ++ name else directory ++ "/" ++ name

end ServiceBroker.Files
