import XrPanel.Store.Drive

namespace XrPanel.FilePath

def names (path : String) : List String := (path.splitOn "/").filter (· ≠ "")

def isAbsolute (path : String) : Bool := path.toList.head? = some '/'

/-- Only a folder can be meant by a path that ends in a slash. -/
def endsInSlash (path : String) : Bool := path.toList.getLast? = some '/'

def leadsOn (name : String) : Bool := name ≠ "" && name ≠ "."

def trimEnd (ns : List String) : List String := (ns.reverse.dropWhile fun n => !leadsOn n).reverse

/-- The path of the folder of what a path means, as far as possible in the same spelling; empty for the
current folder. A dot counts only where a path begins with it. -/
def parent (path : String) : String :=
  match path.splitOn "/" with
  | [] => ""
  | first :: rest =>
    if rest.any leadsOn then
      match first, trimEnd (trimEnd rest).dropLast with
      | "", [] => "/"
      | first, ns => String.intercalate "/" (first :: ns)
    else ""

def within (here folder name : String) : String :=
  if folder = "/" then folder ++ name
  else if isAbsolute folder then folder ++ "/" ++ name
  else here ++ "/" ++ (if folder = "" then "." else folder) ++ "/" ++ name

def limit : Nat := 4096

def nameLimit : Nat := 255

def tooLong : DriveFault := .other "File name too long"

def check (path : String) : Except DriveFault Unit :=
  if path = "" then .error .notFound
  else if '\x00' ∈ path.toList then .error (.other "file name contained an unexpected NUL byte")
  else if limit ≤ path.utf8ByteSize then .error tooLong
  else .ok ()

def checkName (name : String) : Except DriveFault Unit :=
  if nameLimit < name.utf8ByteSize then .error tooLong else .ok ()

end XrPanel.FilePath
