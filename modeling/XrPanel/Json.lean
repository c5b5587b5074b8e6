import XrPanel.Number.Shortest

namespace XrPanel

open Text

inductive Json where
  | null
  | bool (b : Bool)
  | int (n : Int)
  | float (x : Float32)
  | string (s : String)
  | array (items : List Json)
  | object (fields : List (String × Json))

namespace Json

def hexDigit (n : Nat) : Char := if n < 10 then Char.ofNat (48 + n) else Char.ofNat (87 + n)

def escape (c : Char) : List Char :=
  if c = '"' then ['\\', '"']
  else if c = '\\' then ['\\', '\\']
  else if c = '\x08' then ['\\', 'b']
  else if c = '\x0c' then ['\\', 'f']
  else if c = '\n' then ['\\', 'n']
  else if c = '\r' then ['\\', 'r']
  else if c = '\t' then ['\\', 't']
  else if c.toNat < 0x20 then ['\\', 'u', '0', '0', hexDigit (c.toNat / 16), hexDigit (c.toNat % 16)]
  else [c]

def quote (s : String) : List Char := '"' :: s.toList.flatMap escape ++ ['"']

def newLine (depth : Nat) : List Char := '\n' :: List.replicate (2 * depth) ' '

def atom (s : String) : List Char := s.toList

mutual

def layout (depth : Nat) : Json → List Char
  | null => atom "null"
  | bool b => if b then atom "true" else atom "false"
  | int n => intDigits n
  | float x => ((Number.Single.ofFloat x).shortestText?).getD (atom "null")
  | string s => quote s
  | array items =>
    if items.isEmpty then ['[', ']']
    else '[' :: layoutItems (depth + 1) items ++ newLine depth ++ [']']
  | object fields =>
    if fields.isEmpty then ['\x7b', '\x7d']
    else '\x7b' :: layoutFields (depth + 1) fields ++ newLine depth ++ ['\x7d']

def layoutItems (depth : Nat) : List Json → List Char
  | [] => []
  | j :: js => newLine depth ++ layout depth j ++ (if js.isEmpty then [] else [',']) ++ layoutItems depth js

def layoutFields (depth : Nat) : List (String × Json) → List Char
  | [] => []
  | (k, j) :: fs =>
    newLine depth ++ quote k ++ [':', ' '] ++ layout depth j ++ (if fs.isEmpty then [] else [',']) ++
      layoutFields depth fs

end

def pretty (j : Json) : String := String.ofList (layout 0 j)

end Json

end XrPanel
