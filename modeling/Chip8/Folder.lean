import Chip8.FileFault

/-!
# Folders

A folder of files as a value: what its files hold, and why a path cannot be read or written from there. A path
is a row of names between slashes, walked from the left; one that does not start at the root starts in the
folder. Outside of the folder only what every system has is known: its directories and some devices.

A name is looked up only in a directory, and must not be too long; a file must not be walked through. The last
name may be missing when a file is written, but then no slash may follow it.
-/

namespace Chip8

structure Folder where
  /-- The path of the folder itself. -/
  path : Text
  /-- The files by name. -/
  files : List (Text × List UInt8) := []

namespace Folder

open FileFault (Cause)

/-- The longest name and the longest path, in bytes; the path counts one more. -/
def nameLimit : Nat := 255
def pathLimit : Nat := 4096

/-- What a path is asked for. -/
inductive Purpose where
  | reading
  | writing
  deriving DecidableEq, Repr

/-- A file of the system without content of its own. What is written to one vanishes, unless it is always full. -/
inductive Device where
  | null
  | zero
  | full
  deriving DecidableEq, Repr

/-- A directory on the way of a path: the folder, one above it, or one known by its names from the root. -/
inductive Directory where
  | own
  | above
  | known (names : List Text)
  deriving DecidableEq, Repr

/-- Where a path leads, unless to a directory: to a name in the folder, to a device, or to a name elsewhere. -/
inductive Target where
  | inside (name : Text)
  | device (device : Device)
  | outside
  deriving DecidableEq, Repr

/-- The names from the root of the directories that every system has. -/
def systemDirectories : List (List Text) :=
  [ ["bin"], ["boot"], ["dev"], ["etc"], ["home"], ["lib"], ["lib64"], ["media"], ["mnt"], ["opt"], ["proc"],
    ["root"], ["run"], ["sbin"], ["srv"], ["sys"], ["tmp"], ["usr"], ["var"], ["dev", "fd"], ["dev", "pts"],
    ["dev", "shm"], ["usr", "bin"], ["usr", "lib"], ["usr", "local"], ["usr", "sbin"], ["usr", "share"],
    ["var", "log"], ["var", "tmp"] ]

def devices : List (List Text × Device) :=
  [(["dev", "null"], .null), (["dev", "zero"], .zero), (["dev", "full"], .full)]

namespace Directory

/-- The directory around a directory. The root is around itself. -/
def parent : Directory → Directory
  | known names => known names.dropLast
  | own | above => above

/-- The names from the root of what has a name in the directory, if they are known. -/
def names? (d : Directory) (name : Text) : Option (List Text) :=
  match d with
  | known names => some (names ++ [name])
  | own | above => none

/-- The directory with a name in the directory, if every system has it. -/
def child? (d : Directory) (name : Text) : Option Directory :=
  ((d.names? name).filter (systemDirectories.contains ·)).map known

def device? (d : Directory) (name : Text) : Option Device := (d.names? name).bind (devices.lookup ·)

end Directory

/-- The number of bytes of a code point in a file name; some surrogates stand for a byte that is no character. -/
def pointBytes? : CodePoint → Option Nat
  | .char c => some c.utf8Size
  | .half n => if 0x480 ≤ n.val ∧ n.val < 0x500 then some 1 else none

/-- The number of bytes of a file name, if every code point has bytes. -/
def bytes? (path : Text) : Option Nat := (path.points.mapM pointBytes?).map fun sizes => sizes.foldl (· + ·) 0

/-- The parts of a row of code points between slashes. -/
def between : List CodePoint → List Text
  | [] => [⟨[]⟩]
  | p :: rest =>
    match between rest with
    | [] => [⟨[p]⟩]
    | first :: more => if p = .char '/' then ⟨[]⟩ :: first :: more else ⟨p :: first.points⟩ :: more

/-- Whether a name leaves the place as it is. -/
def stays (name : Text) : Bool := name = "" || name = "."

def hasFile (f : Folder) (d : Directory) (name : Text) : Bool :=
  d = .own && (f.files.lookup name).isSome || (d.device? name).isSome

/-- Where the last name of a path leads, in a directory that has no directory with that name. -/
def targetIn (d : Directory) (name : Text) : Target :=
  match d.device? name with
  | some device => .device device
  | none => if d = .own then .inside name else .outside

def walk (f : Folder) (purpose : Purpose) (d : Directory) : (names : List Text) → Except Cause Target
  | [] => .error .directory
  | name :: rest =>
    if stays name then walk f purpose d rest
    else if name = ".." then walk f purpose d.parent rest
    else
      match d.child? name with
      | some d => walk f purpose d rest
      | none =>
        if !rest.isEmpty && rest.all Text.isEmpty && purpose = .writing then .error .directory
        else if nameLimit < (bytes? name).getD 0 then .error .nameTooLong
        else if rest.isEmpty then .ok (targetIn d name)
        else .error (if f.hasFile d name then .notDirectory else .missing)

/-- Where a path leads. -/
def target (f : Folder) (purpose : Purpose) (path : Text) : Except Cause Target :=
  match bytes? path with
  | none => .error .unencodable
  | some bytes =>
    if path.points.contains (.char '\x00') then .error .nullCharacter
    else if path.isEmpty then .error .missing
    else if pathLimit ≤ bytes then .error .nameTooLong
    else
      let beyond := path.points.drop f.path.points.length
      if f.path.points.isPrefixOf path.points then
        let inOwn := beyond.isEmpty || beyond.head? = some (.char '/')
        f.walk purpose (if inOwn then .own else .above) (between beyond)
      else f.walk purpose (if path.points.head? = some (.char '/') then .known [] else .own) (between path.points)

/-- What the file at a path holds. -/
def read (f : Folder) (path : Text) : Except FileFault (List UInt8) :=
  match f.target .reading path with
  | .error cause => .error ⟨cause, path⟩
  | .ok (.inside name) =>
    match f.files.lookup name with
    | some data => .ok data
    | none => .error ⟨.missing, path⟩
  | .ok (.device .null) => .ok []
  | .ok (.device _) | .ok .outside => .error ⟨.missing, path⟩

/-- Why no file can be written at a path. -/
def refusal? (f : Folder) (path : Text) : Option FileFault :=
  match f.target .writing path with
  | .ok (.device .full) => some ⟨.noSpace, path⟩
  | .ok _ => none
  | .error cause => some ⟨cause, path⟩

end Folder

end Chip8
