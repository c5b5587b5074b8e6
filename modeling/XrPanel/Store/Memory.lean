import XrPanel.SortedMap
import XrPanel.Store.Basic
import XrPanel.Text.Word

namespace XrPanel

open Text

namespace SortedMap

variable {β : Type}

def spelled? (m : SortedMap β) (name : String) : Option String :=
  m.names.find? fun k => decide (SameName k name)

def spelling (m : SortedMap β) (name : String) : String := (m.spelled? name).getD name

def look (m : SortedMap β) (name : String) : Option β := (m.spelled? name).bind m.find?

def put (m : SortedMap β) (name : String) (v : β) : SortedMap β := m.insert (m.spelling name) v

def drop (m : SortedMap β) (name : String) : SortedMap β := m.erase (m.spelling name)

end SortedMap

/-- A tree of paths with named values under them. Paths and names are looked up without regard to
the case of ASCII letters and keep the spelling with which they came. -/
abbrev Hive := SortedMap (SortedMap Value)

namespace Hive

def valuesAt (h : Hive) (path : String) : SortedMap Value := (h.look path).getD .empty

def containsPath (h : Hive) (path : String) : Bool := (h.look path).isSome

def get? (h : Hive) (path name : String) : Option Value := (h.valuesAt path).look name

def getDword (h : Hive) (path name : String) : Except StoreError (Option Int32) :=
  match h.get? path name with
  | none => .ok none
  | some (.dword n) => .ok (some n)
  | some (.string _) => .error (.typeMismatch name .dword)

def getString (h : Hive) (path name : String) : Except StoreError (Option String) :=
  match h.get? path name with
  | none => .ok none
  | some (.string s) => .ok (some s)
  | some (.dword _) => .error (.typeMismatch name .string)

def ensurePath (h : Hive) (path : String) : Hive := h.put path (h.valuesAt path)

def set (h : Hive) (path name : String) (v : Value) : Hive := h.put path ((h.valuesAt path).put name v)

def delete (h : Hive) (path name : String) : Hive :=
  if (h.get? path name).isSome then h.put path ((h.valuesAt path).drop name) else h

def entries (h : Hive) : List (String × String × Value) :=
  h.1.flatMap fun p => p.2.entries.map fun e => (p.1, e.1, e.2)

/-- The hive after a request that changes it; nothing if there is nothing to change. Setting an
entry always counts as a change. -/
def edit? (h : Hive) : Request → Option Hive
  | .ensurePath path => if h.containsPath path then none else some (h.ensurePath path)
  | .setDword path name n => some (h.set path name (.dword n))
  | .setString path name s => some (h.set path name (.string s))
  | .deleteValue path name => if (h.get? path name).isSome then some (h.delete path name) else none
  | .getDword .. => none
  | .getString .. => none

def answer (h : Hive) : (r : Request) → Except StoreError r.Answer
  | .getDword path name => h.getDword path name
  | .getString path name => h.getString path name
  | .ensurePath _ => .ok ()
  | .setDword .. => .ok ()
  | .setString .. => .ok ()
  | .deleteValue .. => .ok ()

def after (h : Hive) (r : Request) : Hive := (h.edit? r).getD h

end Hive

def hiveStore : Store (StateM Hive) := fun r h => (h.answer r, h.after r)

structure Memory where
  hive : Hive := .empty
  denyAll : Bool := false
  denyWrites : Bool := false
  writes : Nat := 0

namespace Memory

def denies (s : Memory) (r : Request) : Bool := s.denyAll || (s.denyWrites && r.writes)

/-- Creating a path is no write, and neither is a deletion that removes nothing. -/
def countsWrite (s : Memory) (r : Request) : Bool := r.target?.isSome && (s.hive.edit? r).isSome

def step (s : Memory) (r : Request) : Memory :=
  { s with hive := s.hive.after r, writes := s.writes + (s.countsWrite r).toNat }

end Memory

def memoryStore : Store (StateM Memory) := fun r s =>
  if s.denies r then (.error (.accessDenied r.path), s) else (s.hive.answer r, s.step r)

end XrPanel
