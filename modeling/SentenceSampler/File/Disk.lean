import SentenceSampler.Failure

/-!
Paths, and files held in memory: what reading and writing along a path lead to. A path is made of
names separated by slashes, counted from the root if a slash comes first. A single point stays where
it is, two points lead one level up.
-/
namespace SentenceSampler

namespace Path

def names (path : String) : List String := (path.splitOn "/").filter fun name => name ≠ ""

def isAbsolute (path : String) : Bool := path.toList.head? = some '/'

/-- A slash at the end says that the last name is a folder's. -/
def endsInSlash (path : String) : Bool := path.toList.getLast? = some '/'

/-- What a path means when it is looked at from a folder. -/
def join (folder path : String) : String :=
  if isAbsolute path then path else folder ++ "/" ++ path

/-- The last name of a path that is no single point, unless it leads up. -/
def fileName? (path : String) : Option String :=
  ((names path).filter (· ≠ ".")).getLast?.filter (· ≠ "..")

/-- What stands behind the last point of a file name. A name whose only point comes first has no
extension. -/
def extension? (path : String) : Option String := do
  let name ← fileName? path
  let letters := name.toList.reverse
  let stem := (letters.dropWhile (· ≠ '.')).drop 1
  if stem.isEmpty then none else some (String.ofList (letters.takeWhile (· ≠ '.')).reverse)

end Path

/-- A place is given by the names that lead to it from the root. -/
abbrev Place := List String

/-- What is stored, and the folder that relative paths are looked at from. A folder that something
lies in need not be listed. -/
structure Disk where
  files : List (Place × ByteArray)
  folders : List Place
  current : Place

namespace Disk

/-- The longest name a file may have, in bytes. -/
def longestName : Nat := 255

/-- The longest path that is followed, in bytes. -/
def longestPath : Nat := 4095

def file? (disk : Disk) (place : Place) : Option ByteArray := disk.files.lookup place

/-- The root is a folder always. -/
def isFolder (disk : Disk) (place : Place) : Bool :=
  place.isEmpty ||
    (disk.current :: disk.folders ++ disk.files.map (·.1.dropLast)).any place.isPrefixOf

/-- Where a name leads, which must be looked up in a folder. Nothing lies above the root. -/
def step (disk : Disk) (place : Place) (name : String) : Except FileFault Place :=
  if !disk.isFolder place then
    .error (if (disk.file? place).isSome then .notDirectory else .missing)
  else if longestName < name.utf8ByteSize then .error .nameTooLong
  else .ok (if name = "." then place else if name = ".." then place.dropLast else place ++ [name])

/-- Where some names lead that are all that matters of a path. -/
def walk (disk : Disk) (path : String) (names : List String) : Except FileFault Place :=
  if path.toList.contains '\x00' then .error .nulInName
  else if path.isEmpty then .error .missing
  else if longestPath < path.utf8ByteSize then .error .nameTooLong
  else names.foldlM disk.step (if Path.isAbsolute path then [] else disk.current)

/-- Behind a slash at the end the folder itself is meant, as by a point. -/
def readingNames (path : String) : List String :=
  Path.names path ++ if Path.endsInSlash path then ["."] else []

/-- The bytes of a file must be a text in UTF-8. -/
def load (disk : Disk) (path : String) : Except FileFault String :=
  match disk.walk path (readingNames path) with
  | .error fault => .error fault
  | .ok place =>
    if disk.isFolder place then .error .isDirectory
    else match disk.file? place with
      | none => .error .missing
      | some bytes => match String.fromUTF8? bytes with
        | some text => .ok text
        | none => .error .notText

/-- With a slash at the end nothing can be written, and the last name is not looked up. -/
def writingNames (path : String) : List String :=
  if Path.endsInSlash path then (Path.names path).dropLast ++ ["."] else Path.names path

/-- The place that a text is written to. -/
def destination (disk : Disk) (path : String) : Except FileFault Place :=
  match disk.walk path (writingNames path) with
  | .error fault => .error fault
  | .ok place => if disk.isFolder place then .error .isDirectory else .ok place

/-- The disk with some bytes at a place, whatever was there before. -/
def put (disk : Disk) (place : Place) (bytes : ByteArray) : Disk :=
  { disk with files := (place, bytes) :: disk.files }

def save (disk : Disk) (path text : String) : Except FileFault Disk :=
  match disk.destination path with
  | .error fault => .error fault
  | .ok place => .ok (disk.put place text.toUTF8)

end Disk

end SentenceSampler
