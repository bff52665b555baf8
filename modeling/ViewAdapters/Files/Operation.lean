import ViewAdapters.Files.Tree
import ViewAdapters.Limits
import ViewAdapters.Text.Segments
import ViewAdapters.Text.Utf8

/-!
# Operations on files

What reading, writing, removing and making directories do to a file tree, and
how they fail. A path is followed name by name, and each name but the last one
must be that of a directory. A text is written by opening its file, which
empties it, and then writing the bytes of the text, if it has any. The missing
directories that lead to one are made by calls inside of calls, so there can be
too many of them; then none is made.

Links, permissions and full disks are left out: the operations here are refused
for names, places and kinds of entries alone.

* `writeText_eq`: a text that has no bytes leaves its file empty.
-/

namespace ViewAdapters

/-- Why the system refuses an operation. -/
inductive RefusalReason where
  | noEntry
  | exists
  | notDirectory
  | isDirectory
  | nameTooLong
  deriving DecidableEq, Repr

namespace RefusalReason

def code : RefusalReason → Nat
  | .noEntry => 2
  | .exists => 17
  | .notDirectory => 20
  | .isDirectory => 21
  | .nameTooLong => 36

def text : RefusalReason → String
  | .noEntry => "No such file or directory"
  | .exists => "File exists"
  | .notDirectory => "Not a directory"
  | .isDirectory => "Is a directory"
  | .nameTooLong => "File name too long"

end RefusalReason

/-- Why an operation on a path fails. -/
inductive FileFault where
  | refused (reason : RefusalReason) (path : String)
  /-- The path holds a character that no file name can hold. -/
  | nullInPath
  /-- The path holds a surrogate that no file name can hold. -/
  | unencodable (fault : Text.EncodeFault)
  /-- The path starts from the home of somebody who is not known. -/
  | noHome
  /-- Too many directories that lead to the path are missing. -/
  | tooDeep
  deriving DecidableEq, Repr

def FileFault.message : FileFault → String
  | .refused reason path =>
    "[Errno " ++ toString reason.code ++ "] " ++ reason.text ++ ": " ++ Text.quoted path
  | .nullInPath => "embedded null byte"
  | .unencodable fault => fault.message
  | .noHome => "Could not determine home directory."
  | .tooDeep => DepthFault.call.message

/-- Why a text is not written. -/
inductive WriteFault where
  | file (fault : FileFault)
  /-- The file was opened, and the text has no bytes. -/
  | encoding (fault : Text.EncodeFault)
  deriving DecidableEq, Repr

def WriteFault.message : WriteFault → String
  | .file fault => fault.message
  | .encoding fault => fault.message

namespace Files

/-- The most bytes of a name. -/
def maxNameBytes : Nat := 255

/-- The bytes that a path must stay below. -/
def maxPathBytes : Nat := 4096

/-- Whether a surrogate stands for a byte of a file name that is no UTF-8. -/
def isNameByte (n : Nat) : Bool := 0xDC80 ≤ n && n ≤ 0xDCFF

/-- How many bytes a name or a path takes. -/
def nameBytes (s : String) : Nat :=
  (Text.codePoints s.toList).foldl (fun bytes n =>
    bytes + if isNameByte n then 1 else (Char.ofNat n).utf8Size) 0

/-- What keeps a text from being a path, whatever the tree holds. -/
def textFault? (s : String) : Option FileFault :=
  match Text.encodeFault? isNameByte 0 (Text.codePoints s.toList) with
  | some fault => some (.unencodable fault)
  | none => if '\x00' ∈ s.toList then some .nullInPath else none

/-- What keeps a path from leading anywhere. -/
def pathFault? (p : Path) : Option FileFault :=
  (textFault? p.text).or
    (if maxPathBytes ≤ nameBytes p.text then some (.refused .nameTooLong p.text) else none)

/-- Follows names from a place. -/
def follow (f : Files) (place : Place) : List String → Except RefusalReason Place
  | [] => .ok place
  | name :: rest =>
    match f.get place with
    | none => .error .noEntry
    | some (.file _) => .error .notDirectory
    | some .directory =>
      if name = Path.up then f.follow place.dropLast rest
      else if maxNameBytes < nameBytes name then .error .nameTooLong
      else f.follow (place ++ [name]) rest

/-- The place that a path starts from. -/
def start (f : Files) (p : Path) : Place := if p.isAbsolute then [] else f.workingPlace

/-- The working directory. -/
def workingPath (f : Files) : Path := ⟨Path.separator, f.workingPlace⟩

/-- The same path from the root, without double dots. -/
def absolute (f : Files) (p : Path) : Path :=
  let q := f.workingPath.join p
  { q with parts := Path.collapse q.parts }

/-- The place that a path leads to; nothing need be there. -/
def locate (f : Files) (p : Path) : Except FileFault Place :=
  match pathFault? p with
  | some fault => .error fault
  | none => (f.follow (f.start p) p.parts).mapError (.refused · p.text)

/-- The entry that a path leads to. -/
def find (f : Files) (p : Path) : Except FileFault Entry := do
  match f.get (← f.locate p) with
  | some e => return e
  | none => throw (.refused .noEntry p.text)

/-- The entry that a path leads to, if any. Only a name that is too long is an error. -/
def find? (f : Files) (p : Path) : Except FileFault (Option Entry) :=
  match f.find p with
  | .ok e => .ok (some e)
  | .error (.refused .nameTooLong path) => .error (.refused .nameTooLong path)
  | .error _ => .ok none

def isDirectory (f : Files) (p : Path) : Except FileFault Bool :=
  (f.find? p).map (· == some .directory)

def read (f : Files) (p : Path) : Except FileFault ByteArray := do
  match ← f.find p with
  | .file content => return content
  | .directory => throw (.refused .isDirectory p.text)

/-- The place of a file that is to be written, which need not be there. -/
def placeToWrite (f : Files) (p : Path) : Except FileFault Place := do
  let place ← f.locate p
  match f.get place with
  | some .directory => throw (.refused .isDirectory p.text)
  | _ => return place

/-- Writes a file, new or in place of one. -/
def write (f : Files) (p : Path) (content : ByteArray) : Except FileFault Files :=
  (f.placeToWrite p).map fun place => f.put place (.file content)

/-- Writes a text to a file, new or in place of one. -/
def writeText (f : Files) (p : Path) (text : String) : Files × Option WriteFault :=
  match f.placeToWrite p with
  | .error fault => (f, some (.file fault))
  | .ok place =>
    -- Opening the file empties it before the text is looked at.
    let opened := f.put place (.file ByteArray.empty)
    match Text.encode text with
    | .error fault => (opened, some (.encoding fault))
    | .ok bytes => (opened.put place (.file bytes), none)

/-- Writes at the end of a file, which is made if it is not there. -/
def append (f : Files) (p : Path) (content : ByteArray) : Except FileFault Files := do
  let place ← f.locate p
  match f.get place with
  | some .directory => throw (.refused .isDirectory p.text)
  | some (.file start) => return f.put place (.file (start ++ content))
  | none => return f.put place (.file content)

def remove (f : Files) (p : Path) : Except FileFault Files := do
  let place ← f.locate p
  match f.get place with
  | none => throw (.refused .noEntry p.text)
  | some .directory => throw (.refused .isDirectory p.text)
  | some (.file _) => return f.erase place

def makeDirectory (f : Files) (p : Path) : Except FileFault Files := do
  let place ← f.locate p
  if (f.get place).isSome then throw (.refused .exists p.text)
  return f.put place .directory

/-- A failure to make a directory, unless a directory is there anyway. -/
def unlessDirectory (f : Files) (p : Path) (fault : FileFault) : Except FileFault Files := do
  match fault with
  | .refused .. => if ← f.isDirectory p then return f else throw fault
  | _ => throw fault

/-- Makes the directory of the names of a path, given in reverse, and those that lead to it.
Directories that were made stay if a later one cannot be. -/
def makeAllReversed (f : Files) (root : String) : List String → Files × Option FileFault
  | [] => settle f ⟨root, []⟩ (f.makeDirectory ⟨root, []⟩)
  | name :: above =>
    let p : Path := ⟨root, (name :: above).reverse⟩
    match f.makeDirectory p with
    | .error (.refused .noEntry _) =>
      match f.makeAllReversed root above with
      | (g, some fault) => (g, some fault)
      | (g, none) => settle g p (g.makeDirectory p)
    | made => settle f p made
where
  settle (f : Files) (p : Path) : Except FileFault Files → Files × Option FileFault
    | .ok g => (g, none)
    | .error (.refused .noEntry path) => (f, some (.refused .noEntry path))
    | .error fault =>
      match f.unlessDirectory p fault with
      | .ok g => (g, none)
      | .error fault => (f, some fault)

/-- How many directories in a row cannot be made for want of the one above, from the directory of
the names of a path, given in reverse, upwards. -/
def missing (f : Files) (root : String) : List String → Nat
  | [] => 0
  | name :: above =>
    match f.makeDirectory ⟨root, (name :: above).reverse⟩ with
    | .error (.refused .noEntry _) => f.missing root above + 1
    | _ => 0

/-- Makes a directory and those that lead to it, where they are not there. Each one that is
missing takes a call. -/
def makeDirectories (f : Files) (calls : Option Nat) (p : Path) : Files × Option FileFault :=
  if calls.any (· < f.missing p.root p.parts.reverse) then (f, some .tooDeep)
  else f.makeAllReversed p.root p.parts.reverse

/-- The names in a directory that have an ending, in order; what is no directory has none. -/
def namesWithEnding (f : Files) (p : Path) (ending : String) : List String :=
  match f.locate p with
  | .error _ => []
  | .ok place =>
    if f.get place = some .directory then
      (f.names place).filter fun n => ending.toList.isSuffixOf n.toList
    else []

/-- What a file holds once a text was written to it: nothing if the text has no bytes. -/
def storedBytes (text : String) : ByteArray := (Text.encode text).toOption.getD ByteArray.empty

theorem put_put (f : Files) (place : Place) (e e' : Entry) :
    (f.put place e).put place e' = f.put place e' := by
  by_cases hPlace : place = []
  · simp [put, hPlace]
  · refine ext_get (by simp only [workingPlace_put]) fun q => ?_
    rw [get_put hPlace, get_put hPlace, get_put hPlace]
    split <;> rfl

/-- A text is written like its bytes, and one without bytes like no bytes at all. -/
theorem writeText_eq (f : Files) (p : Path) (text : String) :
    f.writeText p text =
      match f.write p (storedBytes text) with
      | .error fault => (f, some (.file fault))
      | .ok g =>
        match Text.encode text with
        | .error fault => (g, some (.encoding fault))
        | .ok _ => (g, none) := by
  unfold writeText write storedBytes
  cases f.placeToWrite p with
  | error fault => rfl
  | ok place =>
    cases Text.encode text with
    | error fault => rfl
    | ok bytes => simp only [put_put, Except.map, Except.toOption, Option.getD_some]

/-- Names are followed one by one, each from a directory. -/
theorem follow_cons_eq_ok_iff {f : Files} {place q : Place} {name : String} {rest : List String} :
    f.follow place (name :: rest) = .ok q ↔ f.get place = some .directory ∧
      (name = Path.up ∧ f.follow place.dropLast rest = .ok q ∨
        name ≠ Path.up ∧ nameBytes name ≤ maxNameBytes ∧
          f.follow (place ++ [name]) rest = .ok q) := by
  rw [follow]
  cases f.get place with
  | none => simp
  | some entry =>
    cases entry with
    | file content => simp
    | directory =>
      by_cases hUp : name = Path.up
      · simp [hUp]
      · by_cases hLong : maxNameBytes < nameBytes name
        · simp [hUp, hLong, Nat.not_le.2 hLong]
        · simp [hUp, hLong, Nat.not_lt.1 hLong]

end Files
end ViewAdapters
