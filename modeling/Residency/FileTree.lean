import Residency.Path

/-!
Files and directories, known by their paths from the working directory or from the root. Where the
working directory lies is not known, so no path leads from one kind to the other, and the
directories above it are there without a name. There are no links and no permissions: every file
can be read and written, and every directory listed and changed. Names are texts, so a name whose
bytes are no UTF-8 has no place here.
-/
namespace Residency

inductive FileEntry where
  | directory
  | file (bytes : List UInt8)
  deriving DecidableEq, Repr

inductive FileCause where
  | notFound
  | exists
  | notDirectory
  | isDirectory
  | invalidArgument
  | nameTooLong
  deriving DecidableEq, Repr

/-- A refused operation: the cause and the path it was tried on, or a path that holds the
character NUL and is never tried. -/
inductive FileError where
  | refused (cause : FileCause) (path : String)
  | embeddedNul
  deriving DecidableEq, Repr

def FileCause.wording : FileCause → String
  | .notFound => "[Errno 2] No such file or directory"
  | .exists => "[Errno 17] File exists"
  | .notDirectory => "[Errno 20] Not a directory"
  | .isDirectory => "[Errno 21] Is a directory"
  | .invalidArgument => "[Errno 22] Invalid argument"
  | .nameTooLong => "[Errno 36] File name too long"

def FileError.message : FileError → String
  | .refused cause path => cause.wording ++ ": " ++ Text.quote path
  | .embeddedNul => "embedded null byte"

/-- A tree of files. Each entry stands once, under a path with `..` only in front; the working
directory with those above it and the root are always there. -/
structure FileTree where
  entries : List (Path × FileEntry) := []
  deriving DecidableEq, Repr

namespace FileTree

def isGround (place : Path) : Bool :=
  place.parts.all (· == "..")

def entryAt (t : FileTree) (place : Path) : Option FileEntry :=
  if isGround place then some .directory else t.entries.lookup place

def setEntries (place : Path) (e : FileEntry) :
    List (Path × FileEntry) → List (Path × FileEntry)
  | [] => [(place, e)]
  | (p, old) :: l => if p = place then (p, e) :: l else (p, old) :: setEntries place e l

def set (t : FileTree) (place : Path) (e : FileEntry) : FileTree :=
  { t with entries := setEntries place e t.entries }

def maxNameBytes : Nat := 255

def maxPathBytes : Nat := 4095

/-- Follows names from a place. Every place on the way has to be a directory; the last one need
not be there. -/
def follow (t : FileTree) : Path → List String → Except FileCause Path
  | place, [] => .ok place
  | place, name :: rest =>
      match t.entryAt place with
      | none => .error .notFound
      | some (.file _) => .error .notDirectory
      | some .directory =>
          if name = ".." then
            if place.root = .workingDirectory && isGround place then
              t.follow (place.child name) rest
            else t.follow place.parent rest
          else if name.utf8ByteSize > maxNameBytes then .error .nameTooLong
          else t.follow (place.child name) rest

def locate (t : FileTree) (p : Path) : Except FileError Path :=
  if p.hasNul then .error .embeddedNul
  else if p.toString.utf8ByteSize > maxPathBytes then .error (.refused .nameTooLong p.toString)
  else
    let start : Path :=
      { root := if p.root = .workingDirectory then .workingDirectory else .slash }
    (t.follow start p.parts).mapError (.refused · p.toString)

def readBytes (t : FileTree) (p : Path) : Except FileError (List UInt8) :=
  (t.locate p).bind fun place =>
    match t.entryAt place with
    | none => .error (.refused .notFound p.toString)
    | some .directory => .error (.refused .isDirectory p.toString)
    | some (.file bytes) => .ok bytes

/-- Whether a path leads to anything. A name that is too long is still refused. -/
def exists? (t : FileTree) (p : Path) : Except FileError Bool :=
  match t.locate p with
  | .ok place => .ok (t.entryAt place).isSome
  | .error (.refused .nameTooLong s) => .error (.refused .nameTooLong s)
  | .error _ => .ok false

def isFile (t : FileTree) (p : Path) : Except FileError Bool :=
  match t.locate p with
  | .ok place => .ok (match t.entryAt place with
    | some (.file _) => true
    | _ => false)
  | .error (.refused .nameTooLong s) => .error (.refused .nameTooLong s)
  | .error _ => .ok false

def isDirectory (t : FileTree) (p : Path) : Bool :=
  match t.locate p with
  | .ok place => t.entryAt place == some .directory
  | .error _ => false

/-- The names in the directory at a place, in the order of the entries: a file system gives them in
an order of its own. -/
def namesAt (t : FileTree) (place : Path) : List String :=
  t.entries.filterMap fun (p, _) =>
    if p.root = place.root ∧ p.parts.dropLast = place.parts then p.parts.getLast?
    else none

def list (t : FileTree) (p : Path) : Except FileError (List String) :=
  (t.locate p).bind fun place =>
    match t.entryAt place with
    | none => .error (.refused .notFound p.toString)
    | some (.file _) => .error (.refused .notDirectory p.toString)
    | some .directory => .ok (t.namesAt place)

def makeDirectory (t : FileTree) (p : Path) : Except FileError FileTree :=
  (t.locate p).bind fun place =>
    match t.entryAt place with
    | some _ => .error (.refused .exists p.toString)
    | none => .ok (t.set place .directory)

def ensureDirectory (t : FileTree) (p : Path) : Except FileError FileTree :=
  match t.makeDirectory p with
  | .ok t => .ok t
  | .error e => if t.isDirectory p then .ok t else .error e

/-- Makes the directory of the first of some names, given from the deepest up, with the ones above
it that are missing. A directory that is already there is left alone. -/
def makeDirectoriesFrom (t : FileTree) (root : PathRoot) :
    List String → Except FileError FileTree
  | [] => .ok t
  | name :: above =>
      let p : Path := { root := root, parts := (name :: above).reverse }
      match t.ensureDirectory p with
      | .error (.refused .notFound _) =>
          (t.makeDirectoriesFrom root above).bind fun t => t.ensureDirectory p
      | result => result

def makeDirectories (t : FileTree) (p : Path) : Except FileError FileTree :=
  t.makeDirectoriesFrom p.root p.parts.reverse

/-- What an attempt at the directories of some names leaves, given from the deepest up: those made
above one that is refused stay. -/
def tryDirectoriesFrom (t : FileTree) (root : PathRoot) : List String → FileTree
  | [] => t
  | name :: above =>
      let p : Path := { root := root, parts := (name :: above).reverse }
      match t.makeDirectoriesFrom root (name :: above), t.ensureDirectory p with
      | .ok made, _ => made
      | .error _, .error (.refused .notFound _) => t.tryDirectoriesFrom root above
      | .error _, _ => t

def tryDirectories (t : FileTree) (p : Path) : FileTree :=
  t.tryDirectoriesFrom p.root p.parts.reverse

def writeBytes (t : FileTree) (p : Path) (bytes : List UInt8) : Except FileError FileTree :=
  (t.locate p).bind fun place =>
    match t.entryAt place with
    | some .directory => .error (.refused .isDirectory p.toString)
    | _ => .ok (t.set place (.file bytes))

def appendBytes (t : FileTree) (p : Path) (bytes : List UInt8) : Except FileError FileTree :=
  (t.locate p).bind fun place =>
    match t.entryAt place with
    | some .directory => .error (.refused .isDirectory p.toString)
    | some (.file old) => .ok (t.set place (.file (old ++ bytes)))
    | none => .ok (t.set place (.file bytes))

def place (t : FileTree) (p : Path) : FileEntry → Except FileError FileTree
  | .directory => t.makeDirectories p
  | .file bytes => (t.makeDirectories p.parent).bind fun t => t.writeBytes p bytes

def clear (t : FileTree) (place : Path) : FileTree :=
  { t with entries := t.entries.filter fun (q, _) =>
      !(q.root == place.root && q.parts.length > place.parts.length &&
        place.parts.isPrefixOf q.parts) }

def erase (t : FileTree) (place : Path) : FileTree :=
  { t with entries := t.entries.filter (·.1 != place) }

/-- Removes a file, or a directory after all that is below it. A directory that its path does not
name is emptied and stays. -/
def remove (t : FileTree) (p : Path) : FileTree × Except FileError Unit :=
  match t.locate p with
  | .error e => (t, .error e)
  | .ok place => match t.entryAt place with
    | none => (t, .error (.refused .notFound p.toString))
    | some (.file _) => (t.erase place, .ok ())
    | some .directory =>
        let t := t.clear place
        match t.locate p with
        | .error e => (t, .error e)
        | .ok place =>
            if isGround place then (t, .error (.refused .invalidArgument p.toString))
            else (t.erase place, .ok ())

def has (t : FileTree) (p : Path) : Bool :=
  match t.locate p with
  | .ok place => (t.entryAt place).isSome
  | .error _ => false

def unlink (t : FileTree) (p : Path) : Except FileError FileTree :=
  (t.locate p).bind fun place =>
    match t.entryAt place with
    | none => .error (.refused .notFound p.toString)
    | some .directory => .error (.refused .isDirectory p.toString)
    | some (.file _) => .ok (t.erase place)

def move (t : FileTree) (source target : Path) : FileTree :=
  { t with entries := t.entries.map fun (p, e) => (p.rebase source target, e) }

def rename (t : FileTree) (source target : Path) : Except FileError FileTree :=
  (t.locate source).bind fun place =>
    match t.entryAt place with
    | none => .error (.refused .notFound source.toString)
    | some _ => (t.locate target).bind fun free =>
        if (t.entryAt free).isSome then .error (.refused .exists target.toString)
        else .ok (t.move place free)

/-- Renames what stands at a path, if anything does, and removes the file at its new path before.
A directory there is in the way. -/
def supplant (t : FileTree) (source target : Path) : Except FileError FileTree :=
  if t.has source then
    (if t.has target then t.unlink target else .ok t).bind (·.rename source target)
  else .ok t

def sorted (t : FileTree) : FileTree :=
  { t with entries := t.entries.mergeSort fun a b => !(b.1.parts < a.1.parts) }

theorem entryAt_set_self (t : FileTree) {place : Path} (e : FileEntry)
    (h : isGround place = false) : (t.set place e).entryAt place = some e := by
  have go : ∀ l, (setEntries place e l).lookup place = some e := by
    intro l
    induction l with
    | nil => simp [setEntries]
    | cons a l ih =>
        obtain ⟨p, old⟩ := a
        by_cases hp : p = place
        · simp [setEntries, hp]
        · simp only [setEntries, hp, if_false, List.lookup_cons]
          have : (place == p) = false := by simpa using fun h => hp h.symm
          simp [this, ih]
  simp [entryAt, h, set, go]

theorem entryAt_set_of_ne (t : FileTree) {place other : Path} (e : FileEntry)
    (h : other ≠ place) : (t.set place e).entryAt other = t.entryAt other := by
  have go : ∀ l, (setEntries place e l).lookup other = l.lookup other := by
    intro l
    induction l with
    | nil =>
        have : (other == place) = false := by simpa using h
        simp [setEntries, List.lookup_cons, this]
    | cons a l ih =>
        obtain ⟨p, old⟩ := a
        by_cases hp : p = place
        · subst hp
          have : (other == p) = false := by simpa using h
          simp [setEntries, List.lookup_cons, this]
        · simp [setEntries, hp, List.lookup_cons, ih]
  simp only [entryAt, set, go]

end FileTree

end Residency
