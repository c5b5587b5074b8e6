namespace XrPanel

structure Rights where
  readable : Bool := true
  writable : Bool := true
  searchable : Bool := true
  deriving DecidableEq

def Rights.ofMode (mode : Nat) : Rights :=
  let owner := mode / 64 % 8
  ⟨owner / 4 % 2 = 1, owner / 2 % 2 = 1, owner % 2 = 1⟩

inductive FileTree where
  | file (bytes : ByteArray) (rights : Rights)
  | folder (rights : Rights) (entries : List (String × FileTree))

abbrev Location := List String

namespace FileTree

def rights : FileTree → Rights
  | file _ r => r
  | folder r _ => r

def withRights (r : Rights) : FileTree → FileTree
  | file bytes _ => file bytes r
  | folder _ es => folder r es

def isFile : FileTree → Bool
  | file .. => true
  | folder .. => false

def entries : FileTree → List (String × FileTree)
  | file .. => []
  | folder _ es => es

def get? : Location → FileTree → Option FileTree
  | [], t => some t
  | n :: ns, t =>
    match t.entries.lookup n with
    | some t => get? ns t
    | none => none

def edit (f : FileTree → FileTree) : Location → FileTree → FileTree
  | [], t => f t
  | _ :: _, file bytes r => file bytes r
  | n :: ns, folder r es => folder r (es.map fun e => if e.1 = n then (n, edit f ns e.2) else e)

def insert : FileTree → String → FileTree → FileTree
  | file bytes r, _, _ => file bytes r
  | folder r es, n, t => folder r ((n, t) :: es.filter fun e => e.1 ≠ n)

def erase : FileTree → String → FileTree
  | file bytes r, _ => file bytes r
  | folder r es, n => folder r (es.filter fun e => e.1 ≠ n)

mutual

def empty : FileTree → FileTree × Bool
  | file bytes r => (file bytes r, false)
  | folder r es =>
    if r.readable then
      let (left, gone) := emptyEntries r es
      (folder r left, gone)
    else (folder r es, false)

def emptyEntries (above : Rights) : List (String × FileTree) → List (String × FileTree) × Bool
  | [] => ([], true)
  | (n, file bytes r) :: es =>
    if above.searchable && above.writable then emptyEntries above es else ((n, file bytes r) :: es, false)
  | (n, folder r inner) :: es =>
    let (t, gone) := if above.searchable then empty (folder r inner) else (folder r inner, false)
    if gone && above.writable then emptyEntries above es else ((n, t) :: es, false)

end

end FileTree

end XrPanel
