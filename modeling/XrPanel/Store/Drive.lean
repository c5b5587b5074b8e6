namespace XrPanel

inductive DriveFault where
  | notFound
  | denied
  | other (detail : String)
  deriving DecidableEq

def DriveFault.detail : DriveFault → String
  | notFound => "No such file or directory"
  | denied => "Permission denied"
  | other detail => detail

/-- What a file store asks of the place where its file lies. A file is replaced in stages: the folders
above it are made, a new file is staged beside it and filled, and at last it takes the place of the
old one. -/
structure Drive (m : Type → Type) where
  read (path : String) : m (Except DriveFault ByteArray)
  isFile (path : String) : m Bool
  createParents (path : String) : m (Except DriveFault Unit)
  stage (path : String) : m (Except DriveFault String)
  fill (staged : String) (bytes : ByteArray) : m (Except DriveFault Unit)
  rename (staged path : String) : m (Except DriveFault Unit)
  discard (staged : String) : m Unit

namespace Drive

variable {m : Type → Type} [Monad m]

def settle (d : Drive m) (staged path : String) (bytes : ByteArray) : m (Except DriveFault Unit) := do
  match ← d.fill staged bytes with
  | .error e =>
    d.discard staged
    pure (.error e)
  | .ok _ =>
    match ← d.rename staged path with
    | .error e =>
      d.discard staged
      pure (.error e)
    | .ok _ => pure (.ok ())

def replace (d : Drive m) (path : String) (bytes : ByteArray) : m (Except DriveFault Unit) := do
  match ← d.createParents path with
  | .error e => pure (.error e)
  | .ok _ =>
    match ← d.stage path with
    | .error e => pure (.error e)
    | .ok staged => d.settle staged path bytes

end Drive

end XrPanel
