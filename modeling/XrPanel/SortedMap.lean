namespace XrPanel

/-- Values under distinct names, in the order of the names' code points. -/
structure SortedMap (β : Type) where
  entries : List (String × β)
  ordered : entries.Pairwise fun a b => a.1 < b.1

namespace SortedMap

variable {β : Type}

instance [DecidableEq β] : DecidableEq (SortedMap β) := fun a b =>
  decidable_of_iff (a.entries = b.entries) (by cases a; cases b; simp)

@[ext]
theorem ext_entries {a b : SortedMap β} (h : a.entries = b.entries) : a = b := by
  cases a; cases b; simpa using h

def empty : SortedMap β := ⟨[], .nil⟩

instance : Inhabited (SortedMap β) := ⟨empty⟩

def names (m : SortedMap β) : List String := m.entries.map (·.1)

def find? (m : SortedMap β) (k : String) : Option β :=
  (m.entries.find? fun e => e.1 = k).map (·.2)

def insertEntry (k : String) (v : β) : List (String × β) → List (String × β)
  | [] => [(k, v)]
  | e :: es =>
    if k < e.1 then (k, v) :: e :: es
    else if k = e.1 then (k, v) :: es
    else e :: insertEntry k v es

theorem mem_insertEntry {k : String} {v : β} {es : List (String × β)} {x : String × β}
    (h : x ∈ insertEntry k v es) : x = (k, v) ∨ x ∈ es := by
  induction es with
  | nil => simpa [insertEntry] using h
  | cons e es ih =>
    simp only [insertEntry] at h
    split at h
    case isTrue => simpa using h
    case isFalse =>
      split at h
      case isTrue => simp only [List.mem_cons] at h ⊢; exact h.imp_right .inr
      case isFalse =>
        rcases List.mem_cons.1 h with rfl | h
        · simp
        · exact (ih h).imp_right (List.mem_cons_of_mem _)

theorem pairwise_insertEntry (k : String) (v : β) {es : List (String × β)}
    (h : es.Pairwise fun a b => a.1 < b.1) :
    (insertEntry k v es).Pairwise fun a b => a.1 < b.1 := by
  induction es with
  | nil => simp [insertEntry]
  | cons e es ih =>
    obtain ⟨he, hes⟩ := List.pairwise_cons.1 h
    simp only [insertEntry]
    split
    case isTrue hk =>
      refine List.pairwise_cons.2 ⟨fun x hx => ?_, h⟩
      rcases List.mem_cons.1 hx with rfl | hx
      · exact hk
      · exact String.lt_trans hk (he x hx)
    case isFalse hk =>
      split
      case isTrue hke => exact List.pairwise_cons.2 ⟨fun x hx => hke ▸ he x hx, hes⟩
      case isFalse hke =>
        refine List.pairwise_cons.2 ⟨fun x hx => ?_, ih hes⟩
        rcases mem_insertEntry hx with rfl | hx
        · rcases String.le_total k e.1 with hle | hle
          · exact absurd (String.le_antisymm hle (String.not_lt.1 hk)) hke
          · exact String.not_le.1 fun h' => hke (String.le_antisymm h' hle)
        · exact he x hx

def insert (m : SortedMap β) (k : String) (v : β) : SortedMap β :=
  ⟨insertEntry k v m.entries, pairwise_insertEntry k v m.ordered⟩

def erase (m : SortedMap β) (k : String) : SortedMap β :=
  ⟨m.entries.filter fun e => e.1 ≠ k, m.ordered.filter _⟩

def ofList (es : List (String × β)) : SortedMap β :=
  es.foldl (fun m e => m.insert e.1 e.2) empty

theorem find?_insertEntry (k x : String) (v : β) (es : List (String × β)) :
    ((insertEntry k v es).find? fun e => e.1 = x).map (·.2) =
      if k = x then some v else (es.find? fun e => e.1 = x).map (·.2) := by
  induction es with
  | nil => by_cases h : k = x <;> simp [insertEntry, h]
  | cons e es ih =>
    simp only [insertEntry]
    split
    case isTrue => by_cases h : k = x <;> simp [h]
    case isFalse =>
      split
      case isTrue hk => by_cases h : k = x <;> simp_all
      case isFalse hk =>
        by_cases he : e.1 = x
        · have : k ≠ x := fun hx => hk (hx.trans he.symm)
          simp [he, this]
        · simpa [he] using ih

@[simp]
theorem find?_insert (m : SortedMap β) (k x : String) (v : β) :
    (m.insert k v).find? x = if k = x then some v else m.find? x :=
  find?_insertEntry k x v m.entries

@[simp]
theorem find?_empty (x : String) : (empty : SortedMap β).find? x = none := rfl

@[simp]
theorem find?_erase (m : SortedMap β) (k x : String) :
    (m.erase k).find? x = if k = x then none else m.find? x := by
  simp only [find?, erase, List.find?_filter]
  by_cases h : k = x
  · subst h; simp
  · have : (fun e : String × β => !decide (e.1 = k) && decide (e.1 = x)) =
        fun e => decide (e.1 = x) := by
      funext e
      by_cases he : e.1 = x
      · simp [he, Ne.symm h]
      · simp [he]
    simp [this, h]

end SortedMap

end XrPanel
