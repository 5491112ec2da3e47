import EventLog.Failure
import EventLog.Text.Split

/-! Paths as they are written. A path is refused as a whole when it is empty or holds a NUL
character; its names are checked one by one on the way. -/
namespace EventLog

inductive Step
  | into (name : String)
  | here
  | up
  deriving DecidableEq, Repr

/-- The steps of a path. After a slash at the end only a directory can stand there. -/
structure Route where
  steps : List Step
  slashed : Bool
  deriving DecidableEq, Repr

namespace Route

def longestName : Nat := 255
def longestPath : Nat := 4095

def stepOf : List Char → Step
  | ['.'] => .here
  | ['.', '.'] => .up
  | name => .into (String.ofList name)

def read (path : String) : Route :=
  ⟨((Text.split '/' path.toList).filter (!·.isEmpty)).map stepOf, path.toList.getLast? = some '/'⟩

def parse (path : String) : Except DiskFault Route :=
  if '\x00' ∈ path.toList then .error .nulInName
  else if path.isEmpty then .error .missing
  else if longestPath < path.utf8ByteSize then .error .nameTooLong
  else .ok (read path)

/-- The path of a name inside a directory; a name that begins at the root stands for itself. -/
def join (directory name : String) : String :=
  if directory.isEmpty || name.toList.head? == some '/' then name
  else if directory.toList.getLast? == some '/' then directory ++ name
  else directory ++ "/" ++ name

/-! The path around a path is cut from its text, piece by piece between the slashes. -/

def pieces (path : String) : List (List Char) := Text.split '/' path.toList

def ofPieces (pieces : List (List Char)) : String := String.ofList (['/'].intercalate pieces)

@[simp] theorem ofPieces_pieces (path : String) : ofPieces (pieces path) = path := by
  simp [ofPieces, pieces, Text.intercalate_split]

/-- Empty pieces and single dots at the end name nothing, unless a dot is all there is. -/
def trimmed : List (List Char) → List (List Char)
  | [] => []
  | first :: rest => first :: (rest.reverse.dropWhile fun p => p.isEmpty || p = ['.']).reverse

/-- The path of the directory that holds the end of a path; empty if that is where paths begin. -/
def parent (path : String) : String := ofPieces (trimmed (trimmed (pieces path)).dropLast)

/-- The paths in front of the slashes of a path, from the outermost on. -/
def ancestors (path : String) : List String :=
  let text := path.toList
  ((List.range text.length).filter fun i => 0 < i && text[i]? == some '/').map
    fun i => String.ofList (text.take i)

end Route
end EventLog
