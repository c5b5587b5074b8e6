import XrPanel.FormTable

namespace XrPanel

theorem nodup_eraseDups {α : Type} [BEq α] [LawfulBEq α] (l : List α) : l.eraseDups.Nodup := by
  match l with
  | [] => exact List.nodup_nil
  | a :: l =>
    rw [List.eraseDups_cons]
    refine List.nodup_cons.2 ⟨fun h => ?_, nodup_eraseDups _⟩
    simpa using (List.mem_filter.1 (List.mem_eraseDups.1 h)).2
termination_by l.length
decreasing_by exact Nat.lt_succ_of_le (List.length_filter_le _ l)

namespace FormTable

variable {t : FormTable} {b : Binding} {k id group : String} {ids : List String}

theorem mem_of_binding? (h : t.binding? id = some b) : b ∈ t.bindings := List.mem_of_find?_eq_some h

theorem binding?_eq_none : t.binding? id = none ↔ ∀ b ∈ t.bindings, b.id ≠ id := by
  simp [binding?, List.find?_eq_none]

theorem id_of_binding? (h : t.binding? id = some b) : b.id = id := by simpa using List.find?_some h

theorem mem_groups : group ∈ t.groups ↔ ∃ b ∈ t.bindings, b.group = group := by
  rw [groups, List.mem_eraseDups, List.mem_map]

theorem mem_of_known (h : b ∈ t.known ids) : b ∈ t.bindings := by
  obtain ⟨id, -, hb⟩ := List.mem_filterMap.1 h
  exact mem_of_binding? hb

theorem mem_of_exclusiveOf? {e : Exclusive} (h : t.exclusiveOf? id = some e) : e ∈ t.exclusives :=
  List.mem_of_find?_eq_some h

theorem mem_ownedKeys :
    k ∈ t.ownedKeys ↔ (∃ b ∈ t.bindings, b.key = some k) ∨ ∃ e ∈ t.exclusives, k ∈ e.keys := by
  simp only [ownedKeys, List.mem_eraseDups, List.mem_append, List.mem_filterMap, List.mem_map, List.mem_flatMap,
    Exclusive.keys, List.mem_cons, or_assoc]
  refine or_congr_right ?_
  constructor
  · rintro (⟨e, he, rfl⟩ | ⟨e, he, hk⟩)
    · exact ⟨e, he, .inl rfl⟩
    · exact ⟨e, he, .inr hk⟩
  · rintro ⟨e, he, rfl | hk⟩
    · exact .inl ⟨e, he, rfl⟩
    · exact .inr ⟨e, he, hk⟩

theorem ownedKeys_nodup (t : FormTable) : t.ownedKeys.Nodup := nodup_eraseDups _

theorem groupKeys_nodup (t : FormTable) (group : String) : (t.groupKeys group).Nodup := nodup_eraseDups _

theorem keys_known_owned (h : k ∈ (t.known ids).filterMap (·.key)) : k ∈ t.ownedKeys := by
  obtain ⟨b, hb, hk⟩ := List.mem_filterMap.1 h
  exact mem_ownedKeys.2 (.inl ⟨b, mem_of_known hb, hk⟩)

theorem bindingKeys_owned (hb : b ∈ t.bindings) (h : k ∈ t.bindingKeys b) : k ∈ t.ownedKeys := by
  rw [bindingKeys, List.mem_append] at h
  rcases h with h | h
  · exact mem_ownedKeys.2 (.inl ⟨b, hb, Option.mem_toList.1 h⟩)
  · cases he : t.exclusiveOf? b.id with
    | none => simp [he] at h
    | some e =>
      rw [he] at h
      exact mem_ownedKeys.2 (.inr ⟨e, mem_of_exclusiveOf? he, h⟩)

theorem groupKeys_owned (h : k ∈ t.groupKeys group) : k ∈ t.ownedKeys := by
  rw [groupKeys, List.mem_eraseDups] at h
  obtain ⟨b, hb, hk⟩ := List.mem_flatMap.1 h
  exact bindingKeys_owned (List.mem_filter.1 hb).1 hk

def changeKeys (t : FormTable) (b : Binding) : List String :=
  match t.sentinelGate? b.id, t.exclusiveOf? b.id with
  | some g, _ => (t.known g.governs).filterMap (·.key)
  | none, some e => e.keys ++ (t.known e.shadowed).filterMap (·.key)
  | none, none => b.key.toList

theorem changeKeys_owned (hb : b ∈ t.bindings) (h : k ∈ t.changeKeys b) : k ∈ t.ownedKeys := by
  unfold changeKeys at h
  split at h
  case h_1 => exact keys_known_owned h
  case h_2 e _ he =>
    rcases List.mem_append.1 h with h | h
    · exact mem_ownedKeys.2 (.inr ⟨e, mem_of_exclusiveOf? he, h⟩)
    · exact keys_known_owned h
  case h_3 => exact mem_ownedKeys.2 (.inl ⟨b, hb, Option.mem_toList.1 h⟩)

end FormTable

end XrPanel
