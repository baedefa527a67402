import QueryTaint.Text.Pieces

namespace QueryTaint

-- What went wrong, with the number that the system has for it.
structure DiskError where
  text : String
  code : Option Nat
  deriving DecidableEq

namespace DiskError

def message (error : DiskError) : String :=
  match error.code with
  | some code => error.text ++ " (os error " ++ toString code ++ ")"
  | none => error.text

def noSuchFile : DiskError := ⟨"No such file or directory", some 2⟩

def notDirectory : DiskError := ⟨"Not a directory", some 20⟩

def isDirectory : DiskError := ⟨"Is a directory", some 21⟩

def noSpace : DiskError := ⟨"No space left on device", some 28⟩

def nameTooLong : DiskError := ⟨"File name too long", some 36⟩

-- The system is not even asked about such a path.
def nulInName : DiskError := ⟨"file name contained an unexpected NUL byte", none⟩

end DiskError

class Disk (m : Type → Type) where
  -- Makes an empty file, also in place of one that is there.
  create : (path : String) → m (Except DiskError Unit)
  append : (path text : String) → m (Except DiskError Unit)

-- A place is given by the names on the way to it: from the folder, from a folder around it, which
-- has one `..` or more in front, or from the root, which is a `/` in front.
abbrev Place := List String

namespace Place

def root : Place := ["/"]

def parent (place : Place) : Place :=
  match place.getLast? with
  | none | some ".." => place ++ [".."]
  | some "/" => root
  | some _ => place.dropLast

-- Whether a place is in the folder and not around it.
def isInside (place : Place) : Bool := place.head? != some ".." && place.head? != some "/"

-- Folders around the folder that are always there.
def isSurrounding (place : Place) : Bool :=
  place.all (· = "..") || place = root || place = ["/", "dev"] || place = ["/", "tmp"]

-- Places where a file takes what is written and does not keep it.
def sink : Place := ["/", "dev", "null"]

-- The place of a file that takes nothing.
def full : Place := ["/", "dev", "full"]

def isDevice (place : Place) : Bool := place = sink || place = full

end Place

structure Folder where
  files : List (Place × String)
  deriving DecidableEq

namespace Folder

-- The bytes that a name and a path may have.
def longestName : Nat := 255

def longestPath : Nat := 4095

def names (path : String) : List String :=
  ((pieces '/' path.toList).map String.ofList).filter (· ≠ "")

def ofList (files : List (String × String)) : Folder :=
  ⟨files.map fun (path, text) => ((names path).filter (· ≠ "."), text)⟩

def toList (folder : Folder) : List (String × String) :=
  (folder.files.filter (·.1.isInside)).map fun (file, text) => ("/".intercalate file, text)

def content? (folder : Folder) (file : Place) : Option String := folder.files.lookup file

def hasFolder (folder : Folder) (place : Place) : Bool :=
  place.isSurrounding || folder.files.any fun (file, _) => place.isPrefixOf file && place ≠ file

def hasFile (folder : Folder) (place : Place) : Bool :=
  place.isDevice || (folder.content? place).isSome

-- Goes on to the folder of a name; a dot names the place itself, and two the folder around it.
def enter (folder : Folder) (place : Place) (name : String) : Except DiskError Place :=
  if name = "." then .ok place
  else if name = ".." then .ok place.parent
  else if longestName < name.utf8ByteSize then .error .nameTooLong
  else if folder.hasFolder (place ++ [name]) then .ok (place ++ [name])
  else if folder.hasFile (place ++ [name]) then .error .notDirectory
  else .error .noSuchFile

-- The place that a name has for a file, which need not be there.
def fileAt (folder : Folder) (place : Place) (name : String) : Except DiskError Place :=
  if longestName < name.utf8ByteSize then .error .nameTooLong
  else if folder.hasFolder (place ++ [name]) then .error .isDirectory
  else .ok (place ++ [name])

-- The place that a path names for a file. A path that ends in dots or in a slash names a folder,
-- also where none is.
def locate (folder : Folder) (path : String) : Except DiskError Place := do
  if path.toList.contains '\x00' then .error .nulInName
  if path.isEmpty then .error .noSuchFile
  if longestPath < path.utf8ByteSize then .error .nameTooLong
  let start := if path.toList.head? = some '/' then Place.root else []
  match (names path).getLast? with
  | none => .error .isDirectory
  | some name =>
    let place ← (names path).dropLast.foldlM folder.enter start
    if name = "." ∨ name = ".." ∨ path.toList.getLast? = some '/' then .error .isDirectory
    else folder.fileAt place name

def write (folder : Folder) (file : Place) (text : String) : Folder :=
  if (folder.content? file).isSome then
    ⟨folder.files.map fun (name, old) => (name, if name = file then text else old)⟩
  else ⟨folder.files ++ [(file, text)]⟩

def create (folder : Folder) (path : String) : Except DiskError Folder := do
  let file ← folder.locate path
  .ok (if file.isDevice then folder else folder.write file "")

def append (folder : Folder) (path text : String) : Except DiskError Folder := do
  let file ← folder.locate path
  if file = Place.full then .error .noSpace
  else if file = Place.sink then .ok folder
  else
    match folder.content? file with
    | some old => .ok (folder.write file (old ++ text))
    | none => .error .noSuchFile

-- Keeps the folder as it was where the change failed.
def keep (changed : Except DiskError Folder) : StateM Folder (Except DiskError Unit) :=
  fun folder =>
    match changed with
    | .ok folder => (.ok (), folder)
    | .error error => (.error error, folder)

instance : Disk (StateM Folder) where
  create path := do keep ((← get).create path)
  append path text := do keep ((← get).append path text)

end Folder

end QueryTaint
