import Hanyu.Text

/-!
# Files

The files a command line may name: `Files` says what reading a path gives, and `FileTree` is a tree
of files in which paths are walked name by name.

* `mem_of_read_eq_ok`: only what is in a file of the tree is read.
* `read_nil`: the empty path leads nowhere.
-/

namespace Hanyu.CommandLine

/-- Why a file has no bytes to give. -/
inductive Unreadable where
  | missing
  | notDirectory
  | directory
  | nameTooLong
  /-- Another reason, in these words. -/
  | other (text : String)
deriving DecidableEq, Repr

/-- The wording of the reason. -/
def Unreadable.message : Unreadable → String
  | missing => "No such file or directory (os error 2)"
  | notDirectory => "Not a directory (os error 20)"
  | directory => "Is a directory (os error 21)"
  | nameTooLong => "File name too long (os error 36)"
  | other text => text

/-- The bytes of the files that can be read, by their paths. -/
abbrev Files := Text → Except Unreadable ByteArray

/-- The text in a file, or why there is none. -/
def Files.text (files : Files) (path : Text) : Except String Text :=
  match files path with
  | .error reason => .error reason.message
  | .ok bytes =>
    match String.fromUTF8? bytes with
    | some text => .ok text.toList
    | none => .error "stream did not contain valid UTF-8"

/-! ## Walking a tree -/

/-- The names on the way from the root to a file or a directory. -/
abbrev Place := List Text

/-- The names that a path consists of. Two slashes in a row have an empty name between them. -/
def namesOf : (path : Text) → List Text
  | [] => [[]]
  | c :: rest =>
    if c = '/' then [] :: namesOf rest
    else
      match namesOf rest with
      | [] => [[c]]
      | name :: names => (c :: name) :: names

/-- Files in directories, and the directory in which relative paths begin. -/
structure FileTree where
  files : List (Place × ByteArray)
  home : Place

namespace FileTree

/-- A directory that holds these files, given by their paths from there. -/
def ofFiles (home : Place) (files : List (Text × ByteArray)) : FileTree :=
  ⟨files.map fun (path, bytes) => (home ++ namesOf path, bytes), home⟩

/-- Whether there is a directory: the home directory, or one on the way to it or to a file. -/
def isDirectory (tree : FileTree) (place : Place) : Bool :=
  place.isPrefixOf tree.home ||
    tree.files.any fun (file, _) => place.isPrefixOf file && place.length < file.length

/-- The bytes of the file at a place. -/
def bytes? (tree : FileTree) (place : Place) : Option ByteArray := tree.files.lookup place

/-- The greatest number of bytes in a name. -/
def longestName : Nat := 255

/-- The greatest number of bytes in a path. -/
def longestPath : Nat := 4095

/-- The bytes that a text takes. -/
def byteCount (text : Text) : Nat := (String.ofList text).utf8ByteSize

/-- The place that a name leads to. An empty name and a dot lead nowhere else, two dots lead up. -/
def step (tree : FileTree) (place : Place) (name : Text) : Except Unreadable Place :=
  if !tree.isDirectory place then .error .notDirectory
  else if name = [] ∨ name = ['.'] then .ok place
  else if name = ['.', '.'] then .ok place.dropLast
  else if longestName < byteCount name then .error .nameTooLong
  else if tree.isDirectory (place ++ [name]) || (tree.bytes? (place ++ [name])).isSome then
    .ok (place ++ [name])
  else .error .missing

/-- Where a path begins: at the root if it begins with a slash. -/
def start (tree : FileTree) (path : Text) : Place :=
  if path.head? = some '/' then [] else tree.home

/-- What reading a path gives. -/
def read (tree : FileTree) : Files := fun path =>
  if path = [] then .error .missing
  else if longestPath < byteCount path then .error .nameTooLong
  else
    match (namesOf path).foldlM tree.step (tree.start path) with
    | .error reason => .error reason
    | .ok place =>
      if tree.isDirectory place then .error .directory
      else
        match tree.bytes? place with
        | some bytes => .ok bytes
        | none => .error .missing

@[simp] theorem read_nil (tree : FileTree) : tree.read [] = .error .missing := rfl

theorem mem_of_bytes?_eq_some {tree : FileTree} {place : Place} {bytes : ByteArray}
    (h : tree.bytes? place = some bytes) : (place, bytes) ∈ tree.files := by
  obtain ⟨before, after, heq, -⟩ := List.lookup_eq_some_iff.mp h
  simp [heq]

theorem mem_of_read_eq_ok {tree : FileTree} {path : Text} {bytes : ByteArray}
    (h : tree.read path = .ok bytes) : ∃ place, (place, bytes) ∈ tree.files := by
  unfold read at h
  (repeat' split at h) <;> cases h
  next hplace => exact ⟨_, mem_of_bytes?_eq_some hplace⟩

end FileTree

end Hanyu.CommandLine
