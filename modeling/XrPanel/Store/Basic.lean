namespace XrPanel

inductive ValueKind where
  | dword
  | string
  deriving DecidableEq

def ValueKind.name : ValueKind → String
  | .dword => "DWORD"
  | .string => "string"

inductive Value where
  | dword (n : Int32)
  | string (s : String)
  deriving DecidableEq

def Value.kind : Value → ValueKind
  | .dword _ => .dword
  | .string _ => .string

inductive StoreError where
  | accessDenied (path : String)
  | os (path name : String) (code : UInt32)
  | typeMismatch (name : String) (expected : ValueKind)
  | io (detail : String)
  | corrupt (detail : String)
  | unavailable (reason : String)
  deriving DecidableEq

def StoreError.message : StoreError → String
  | .accessDenied path => "access denied to '" ++ path ++ "'"
  | .os path name code =>
    "'" ++ path ++ "\\" ++ name ++ "' failed with OS error " ++ String.ofList (Nat.toDigits 10 code.toNat)
  | .typeMismatch name expected => "'" ++ name ++ "' does not hold a " ++ expected.name ++ " value"
  | .io detail => "I/O error: " ++ detail
  | .corrupt detail => "corrupt store: " ++ detail
  | .unavailable reason => "store unavailable: " ++ reason

def StoreError.causes : StoreError → List String
  | .io detail => [detail]
  | _ => []

inductive Request where
  | ensurePath (path : String)
  | getDword (path name : String)
  | getString (path name : String)
  | setDword (path name : String) (n : Int32)
  | setString (path name : String) (s : String)
  | deleteValue (path name : String)
  deriving DecidableEq

namespace Request

abbrev Answer : Request → Type
  | getDword .. => Option Int32
  | getString .. => Option String
  | ensurePath _ => Unit
  | setDword .. => Unit
  | setString .. => Unit
  | deleteValue .. => Unit

def path : Request → String
  | ensurePath p | getDword p _ | getString p _ | setDword p _ _ | setString p _ _ | deleteValue p _ => p

def writes : Request → Bool
  | getDword .. | getString .. => false
  | ensurePath _ | setDword .. | setString .. | deleteValue .. => true

def target? : Request → Option (String × String)
  | setDword p n _ | setString p n _ | deleteValue p n => some (p, n)
  | ensurePath _ | getDword .. | getString .. => none

end Request

abbrev Store (m : Type → Type) := (r : Request) → m (Except StoreError r.Answer)

def registryUnavailable : StoreError :=
  .unavailable "the registry only exists on Windows; pass --store-file to use a file-backed store"

namespace Store

def missing {m : Type → Type} [Monad m] : Store m := fun _ => pure (.error registryUnavailable)

/-- The code with which a store that is out of resources refuses to change an entry. -/
def noResources : UInt32 := 1450

/-- Lets a number of sets and deletions through and refuses the later ones. -/
def limited {m : Type → Type} [Monad m] (store : Store m) : Store (StateT (Option Nat) m) :=
  fun r => do
    match r.target?, ← get with
    | some (path, name), some 0 => pure (.error (.os path name noResources))
    | some _, some (n + 1) => do
      set (some n)
      store r
    | _, _ => store r

end Store

end XrPanel
