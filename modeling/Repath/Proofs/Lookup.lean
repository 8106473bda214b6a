import Mathlib.Data.List.Nodup

namespace Repath

variable {α β : Type} [BEq α] [LawfulBEq α] {es es' : List (α × β)} {k : α} {v : β}

theorem lookup_eq_none_iff : es.lookup k = none ↔ k ∉ es.map (·.1) := by
  rw [List.lookup_eq_none_iff]
  constructor
  · intro h hmem
    obtain ⟨entry, hentry, rfl⟩ := List.mem_map.1 hmem
    exact bne_iff_ne.1 (h entry hentry) rfl
  · intro h entry hentry
    apply bne_iff_ne.2
    rintro rfl
    exact h (List.mem_map_of_mem hentry)

theorem lookup_eq_some_iff (hkeys : (es.map (·.1)).Nodup) :
    es.lookup k = some v ↔ (k, v) ∈ es := by
  rw [List.lookup_eq_some_iff]
  constructor
  · rintro ⟨before, after, rfl, -⟩
    exact List.mem_append_right before List.mem_cons_self
  · intro hmem
    obtain ⟨before, after, rfl⟩ := List.append_of_mem hmem
    refine ⟨before, after, rfl, fun entry hentry => bne_iff_ne.2 ?_⟩
    rw [List.map_append, List.map_cons, List.nodup_append] at hkeys
    exact (hkeys.2.2 _ (List.mem_map_of_mem hentry) k List.mem_cons_self).symm

theorem lookup_perm (h : es.Perm es') (hkeys : (es'.map (·.1)).Nodup) (k : α) :
    es.lookup k = es'.lookup k := by
  have hmap : (es.map (·.1)).Perm (es'.map (·.1)) := h.map (·.1)
  cases hlookup : es'.lookup k with
  | none =>
    rw [lookup_eq_none_iff] at hlookup ⊢
    rwa [hmap.mem_iff]
  | some v =>
    rw [lookup_eq_some_iff hkeys] at hlookup
    rwa [lookup_eq_some_iff (hmap.nodup_iff.2 hkeys), h.mem_iff]

theorem nodup_concat (hkeys : (es.map (·.1)).Nodup) (h : es.lookup k = none) (v : β) :
    ((es ++ [(k, v)]).map (·.1)).Nodup := by
  rw [List.map_append, List.nodup_append]
  refine ⟨hkeys, List.nodup_singleton k, fun a ha b hb => ?_⟩
  obtain rfl := List.mem_singleton.1 hb
  rintro rfl
  exact lookup_eq_none_iff.1 h ha

end Repath
