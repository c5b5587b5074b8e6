import XrPanel.Store.FilePath
import XrPanel.Store.FileTree

namespace XrPanel

/-- The folders at the root of a machine. Whoever works on it is not their owner. -/
def rootFolders : List String :=
  ["bin", "boot", "dev", "etc", "home", "lib", "media", "mnt", "opt", "proc", "root", "run", "sbin", "srv",
    "sys", "usr", "var"]

def kernelFolder : Location := ["proc"]

def scratchFolder : Location := ["tmp", ".tmp000000"]

def machineTree : FileTree :=
  let foreign : Rights := { writable := false }
  .folder foreign
    (("tmp", .folder {} [(".tmp000000", .folder {} [])]) :: rootFolders.map (·, .folder foreign []))

/-- The files of a machine, and the folder that paths start from. Rights hold for all that is done. -/
structure Disk where
  tree : FileTree := machineTree
  working : Location := scratchFolder

def notAFolder : DriveFault := .other "Not a directory"

def isAFolder : DriveFault := .other "Is a directory"

namespace Disk

def node? (d : Disk) (l : Location) : Option FileTree := d.tree.get? l

def edit (d : Disk) (l : Location) (f : FileTree → FileTree) : Disk := { d with tree := d.tree.edit f l }

def put (d : Disk) (l : Location) (t : FileTree) : Disk :=
  match l.getLast? with
  | none => { d with tree := t }
  | some name => d.edit l.dropLast (·.insert name t)

def remove (d : Disk) (l : Location) : Disk :=
  match l.getLast? with
  | none => d
  | some name => d.edit l.dropLast (·.erase name)

def search (d : Disk) (l : Location) : Except DriveFault Unit :=
  match d.node? l with
  | none => .error .notFound
  | some (.file ..) => .error notAFolder
  | some (.folder r _) => if r.searchable then .ok () else .error .denied

def child (l : Location) (name : String) : Location :=
  if name = "." then l else if name = ".." then l.dropLast else l ++ [name]

def descend (d : Disk) (l : Location) (name : String) : Except DriveFault Location :=
  match d.search l, FilePath.checkName name with
  | .error e, _ => .error e
  | _, .error e => .error e
  | .ok _, .ok _ => .ok (child l name)

def follow (d : Disk) (l : Location) (names : List String) : Except DriveFault Location :=
  names.foldlM d.descend l

def start (d : Disk) (path : String) : Location := if FilePath.isAbsolute path then [] else d.working

def locate (d : Disk) (path : String) : Except DriveFault Location :=
  match FilePath.check path with
  | .error e => .error e
  | .ok _ => d.follow (d.start path) (FilePath.names path)

def lookup (d : Disk) (path : String) : Except DriveFault (Location × FileTree) :=
  match d.locate path with
  | .error e => .error e
  | .ok l =>
    match d.node? l with
    | none => .error .notFound
    | some t => if t.isFile && FilePath.endsInSlash path then .error notAFolder else .ok (l, t)

def read (d : Disk) (path : String) : Except DriveFault ByteArray :=
  match d.lookup path with
  | .error e => .error e
  | .ok (_, t) =>
    if t.rights.readable then
      match t with
      | .file bytes _ => .ok bytes
      | .folder .. => .error isAFolder
    else .error .denied

def isFile (d : Disk) (path : String) : Bool :=
  match d.lookup path with
  | .ok (_, t) => t.isFile
  | .error _ => false

def canChange (d : Disk) (l : Location) : Except DriveFault Unit :=
  match d.search l with
  | .error e => .error e
  | .ok _ =>
    if l = kernelFolder then .error .notFound
    else if (d.node? l).any (·.rights.writable) then .ok ()
    else .error .denied

def makeFolders : List String → Location → Disk → Except DriveFault Unit × Disk
  | [], _, d => (.ok (), d)
  | name :: names, l, d =>
    match d.descend l name with
    | .error e => (.error e, d)
    | .ok next =>
      match d.node? next with
      | some (.folder ..) => makeFolders names next d
      | some (.file ..) => (.error notAFolder, d)
      | none =>
        match d.canChange l with
        | .error e => (.error e, d)
        | .ok _ => makeFolders names next (d.put next (.folder {} []))

def createParents (path : String) (d : Disk) : Except DriveFault Unit × Disk :=
  let folder := FilePath.parent path
  if folder = "" then (.ok (), d)
  else match FilePath.check folder with
    | .error e => (.error e, d)
    | .ok _ => makeFolders (FilePath.names folder) (d.start folder) d

def fileRights : Rights := { searchable := false }

def stagedName (n : Nat) : String :=
  let digits := Nat.toDigits 10 n
  String.ofList (['.', 't', 'm', 'p'] ++ List.replicate (6 - digits.length) '0' ++ digits)

def freshName (es : List (String × FileTree)) : String :=
  let names := (List.range (es.length + 1)).map stagedName
  (names.find? fun n => (es.lookup n).isNone).getD (stagedName 0)

def stage (path : String) (d : Disk) : Except DriveFault String × Disk :=
  let folder := FilePath.parent path
  match d.follow (d.start folder) (FilePath.names folder) with
  | .error e => (.error e, d)
  | .ok l =>
    let name := freshName (((d.node? l).map FileTree.entries).getD [])
    let staged := FilePath.within ("/" ++ String.intercalate "/" d.working) folder name
    match FilePath.check staged, d.canChange l with
    | .error e, _ => (.error e, d)
    | _, .error e => (.error e, d)
    | .ok _, .ok _ => (.ok staged, d.put (l ++ [name]) (.file .empty fileRights))

def fill (staged : String) (bytes : ByteArray) (d : Disk) : Except DriveFault Unit × Disk :=
  match d.locate staged with
  | .error e => (.error e, d)
  | .ok l => (.ok (), d.put l (.file bytes fileRights))

def discard (staged : String) (d : Disk) : Disk :=
  match d.locate staged with
  | .error _ => d
  | .ok l => d.remove l

def rename (staged path : String) (d : Disk) : Except DriveFault Unit × Disk :=
  match d.locate staged, d.locate path with
  | .error e, _ => (.error e, d)
  | _, .error e => (.error e, d)
  | .ok source, .ok target =>
    match d.node? source, d.node? target with
    | none, _ => (.error .notFound, d)
    | _, some (.folder ..) => (.error isAFolder, d)
    | some t, _ =>
      if FilePath.endsInSlash path then (.error notAFolder, d) else (.ok (), (d.remove source).put target t)

def writeFile (d : Disk) (path : String) (bytes : ByteArray) : Disk :=
  let d := (createParents path d).2
  match d.locate path with
  | .error _ => d
  | .ok l =>
    if FilePath.endsInSlash path then d
    else match d.node? l, d.canChange l.dropLast with
      | some (.folder ..), _ => d
      | some (.file _ r), _ => if r.writable then d.edit l fun _ => .file bytes r else d
      | none, .error _ => d
      | none, .ok _ => d.put l (.file bytes fileRights)

def removeFile (d : Disk) (path : String) : Disk :=
  match d.lookup path with
  | .error _ => d
  | .ok (l, t) =>
    match t, d.canChange l.dropLast with
    | .file .., .ok _ => d.remove l
    | _, _ => d

def removeFolder (d : Disk) (path : String) : Disk :=
  match d.lookup path with
  | .error _ => d
  | .ok (l, t) =>
    if t.isFile then d
    else
      let (left, gone) := t.empty
      let d := d.edit l fun _ => left
      match d.canChange l.dropLast with
      | .error _ => d
      | .ok _ => if gone && (FilePath.names path).getLast?.any (· ∉ [".", ".."]) then d.remove l else d

def setRights (d : Disk) (path : String) (r : Rights) : Disk :=
  match d.lookup path with
  | .error _ => d
  | .ok (l, _) => d.edit l (·.withRights r)

def list? (d : Disk) (path : String) : Option (List String) :=
  match d.lookup path with
  | .ok (_, .folder r es) =>
    if r.readable then some ((es.map (·.1)).mergeSort fun a b => decide (a ≤ b)) else none
  | _ => none

end Disk

def diskDrive : Drive (StateM Disk) where
  read path d := (d.read path, d)
  isFile path d := (d.isFile path, d)
  createParents path d := d.createParents path
  stage path d := d.stage path
  fill staged bytes d := d.fill staged bytes
  rename staged path d := d.rename staged path
  discard staged d := ((), d.discard staged)

end XrPanel
