import FuzzyGrid.NameTable

/-!
# Workspaces

What a run can leave behind: the text it printed and the files it wrote.  A
path is followed folder by folder from the working directory; a file is
created or replaced only in a folder that exists.  The system may take a part of
a text only, from a full disk or a closed pipe for instance.
-/

namespace FuzzyGrid

/-- Why a file cannot be read or created. -/
inductive FileFault where
  | notFound
  | notADirectory
  | isADirectory
  | nameTooLong
  | nulInName
  deriving Repr, DecidableEq

def FileFault.message : FileFault → String
  | notFound => "No such file or directory (os error 2)"
  | notADirectory => "Not a directory (os error 20)"
  | isADirectory => "Is a directory (os error 21)"
  | nameTooLong => "File name too long (os error 36)"
  | nulInName => "file name contained an unexpected NUL byte"

/-- Lines for a file, or for the printed text where no file is named. -/
structure Report where
  destination : Option String
  lines : List String
  deriving Repr, DecidableEq

/-- The text of a report, every line with its end. -/
def Report.text (report : Report) : String :=
  String.join (report.lines.map fun line => line ++ "\n")

/-- A write that the system cuts short: how many characters it takes, and its text
of the error. -/
structure ShortWrite where
  taken : Nat
  reason : String
  deriving Repr, DecidableEq

/-- Printed text, known folders and files. -/
structure Workspace where
  printed : String
  /-- The folders below the working directory, by path. -/
  folders : List String
  /-- The text of every file, by path. -/
  files : NameTable String
  /-- How a write to a file, or to the printed text, is cut short. -/
  shortWrite? : Option String → Option ShortWrite

namespace Workspace

/-- A workspace without folders that holds some files. -/
def ofFiles (files : List (String × String)) : Workspace :=
  ⟨"", [], NameTable.ofList files, fun _ => none⟩

/-- The path of an entry of a folder. -/
def entryPath (folder name : String) : String :=
  if folder = "" then name
  else if folder = "/" then "/" ++ name
  else folder ++ "/" ++ name

/-- Whether a name is longer than the 255 bytes that a folder takes. -/
def isTooLong (name : String) : Bool :=
  decide (255 < name.utf8ByteSize)

/-- Follow folder names from a folder.  The parent of a folder always exists. -/
def enter (workspace : Workspace) (folder : String) :
    List String → Except FileFault String
  | [] => .ok folder
  | name :: rest =>
    if name = "" || name = "." then enter workspace folder rest
    else if isTooLong name then .error .nameTooLong
    else
      let path := entryPath folder name
      if name = ".." || workspace.folders.contains path then
        enter workspace path rest
      else if workspace.files.contains path then .error .notADirectory
      else .error .notFound

/-- The path of a file in a folder.  A name that ends in a slash stands for a
folder, and so do the two names made of dots. -/
def locateIn (workspace : Workspace) (folder name : String) (slashed : Bool) :
    Except FileFault String :=
  if name = "." || name = ".." || slashed then .error .isADirectory
  else if isTooLong name then .error .nameTooLong
  else
    let file := entryPath folder name
    if workspace.folders.contains file then .error .isADirectory else .ok file

/-- The path of the file that a given path leads to, whether or not that file
exists.  A path has less than 4096 bytes. -/
def locate (workspace : Workspace) (path : String) : Except FileFault String := do
  if path = "" then throw .notFound
  if path.toList.contains '\x00' then throw .nulInName
  if 4096 ≤ path.utf8ByteSize then throw .nameTooLong
  let segments := path.splitOn "/"
  let start := if segments.head? = some "" then "/" else ""
  match segments.reverse.dropWhile (fun segment => segment = "") with
  | [] => throw .isADirectory
  | name :: folders =>
    let folder ← enter workspace start folders.reverse
    workspace.locateIn folder name (segments.getLast? = some "")

def read (workspace : Workspace) (path : String) : Except FileFault String := do
  let file ← workspace.locate path
  match workspace.files.get? file with
  | some text => return text
  | none => throw .notFound

def print (workspace : Workspace) (text : String) : Workspace :=
  { workspace with printed := workspace.printed ++ text }

/-- Replace the text of a file. -/
def put (workspace : Workspace) (file text : String) : Workspace :=
  { workspace with files := workspace.files.insert file text }

/-- The part of a text that an output takes, and the error if it takes no more. -/
def passed (workspace : Workspace) (output : Option String) (text : String) :
    String × Except String Unit :=
  match workspace.shortWrite? output with
  | none => (text, .ok ())
  | some short => (String.ofList (text.toList.take short.taken), .error short.reason)

end Workspace

end FuzzyGrid
