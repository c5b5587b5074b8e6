import XrPanel.Store.Document
import XrPanel.Store.Drive

namespace XrPanel

structure FileStore where
  path : String
  hive : Hive

namespace FileStore

def storeError (path : String) : DriveFault → StoreError
  | .denied => .accessDenied path
  | fault => .io fault.detail

def decode (path : String) (bytes : ByteArray) : Except StoreError Hive :=
  match String.fromUTF8? bytes with
  | none => .error (.io "stream did not contain valid UTF-8")
  | some text => (Document.read? text).elim (.error (.corrupt (path ++ ": not a store document"))) .ok

def contents (path : String) : Except DriveFault ByteArray → Except StoreError Hive
  | .ok bytes => decode path bytes
  | .error .notFound => .ok .empty
  | .error fault => .error (storeError path fault)

def openAt {m : Type → Type} [Monad m] (drive : Drive m) (path : String) :
    m (Except StoreError FileStore) := do
  let read ← drive.read path
  pure ((contents path read).map (⟨path, ·⟩))

end FileStore

/-- Every change replaces the file, and only then counts. -/
def fileStore {m : Type → Type} [Monad m] (drive : Drive m) : Store (StateT FileStore m) := fun r s =>
  match s.hive.edit? r with
  | none => pure (s.hive.answer r, s)
  | some next => do
    match ← drive.replace s.path (Document.write next).toUTF8 with
    | .error fault => pure (.error (FileStore.storeError s.path fault), s)
    | .ok _ => pure (s.hive.answer r, { s with hive := next })

end XrPanel
