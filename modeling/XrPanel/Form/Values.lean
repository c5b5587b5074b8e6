import XrPanel.FormTable
import XrPanel.Script
import XrPanel.SortedMap

namespace XrPanel

abbrev Snapshot := SortedMap (Option Int32)

namespace Snapshot

def raw? (s : Snapshot) (key : String) : Option Int32 := (s.find? key).join

def read (path : String) : List String → Snapshot → Script (Except StoreError Snapshot)
  | [], s => pure (.ok s)
  | key :: keys, s => do
    match ← Script.request (.getDword path key) with
    | .ok raw => read path keys (s.insert key raw)
    | .error e => pure (.error e)

end Snapshot

abbrev Values := SortedMap Int32

namespace Values

def value (vs : Values) (id : String) : Int32 := (vs.find? id).getD 0

def set (vs : Values) (id : String) (v : Int32) : Values := vs.insert id v

def reset (vs : Values) (bs : List Binding) : Values := bs.foldl (fun vs b => vs.set b.id b.default) vs

def defaults (t : FormTable) : Values := reset .empty t.bindings

def loadBinding? (s : Snapshot) (vs : Values) (b : Binding) : Option Values :=
  match b.key.bind s.raw? with
  | some raw => (b.fromStored? raw).map (vs.set b.id)
  | none => some vs

def engaged (t : FormTable) (s : Snapshot) (g : Gate) : Bool :=
  (t.known g.governs).any fun b => ((b.key.bind s.raw?).map g.engagedBy).getD false

def loadGate (t : FormTable) (s : Snapshot) (vs : Values) (g : Gate) : Values :=
  if g.sentinel.isNone then vs
  else if engaged t s g then vs.set g.toggle 1
  else (vs.set g.toggle 0).reset (t.known g.governs)

def loadExclusive (t : FormTable) (s : Snapshot) (vs : Values) (e : Exclusive) : Values :=
  let code := (s.raw? e.key).getD e.none
  let marked := e.members.foldl (fun vs m => vs.set m.1 (if code = m.2 then 1 else 0)) vs
  if e.members.any fun m => code = m.2 then marked.reset (t.known e.shadowed) else marked

def ofSnapshot? (t : FormTable) (s : Snapshot) : Option Values :=
  (t.bindings.foldlM (loadBinding? s) (defaults t)).map fun vs =>
    t.exclusives.foldl (loadExclusive t s) (t.gates.foldl (loadGate t s) vs)

end Values

end XrPanel
