import Mathlib.Data.String.Basic
import ResultLint.Dictionary

/-!
# Dictionaries built from lists of entries

A dictionary keeps its entries sorted by key, each key once (`WellFormed`). Inserting keeps that
shape and only adds or replaces the entry of its key, so the dictionary of a list of entries
with distinct keys holds exactly those entries. Two well-formed lists of the same entries are
equal; hence a well-formed dictionary is the dictionary of its entries listed in any order
(`ofList_eq_of_perm`).
-/

namespace ResultLint
namespace Dictionary

variable {β : Type}

/-- Entries sorted by key, each key once. -/
def WellFormed (d : Dictionary β) : Prop := d.entries.Pairwise fun a b => a.1 < b.1

instance (d : Dictionary β) : Decidable d.WellFormed :=
  inferInstanceAs (Decidable (d.entries.Pairwise _))

theorem mem_insertEntry {key : String} {value : β} {p : String × β} :
    ∀ {l : List (String × β)}, p ∈ insertEntry key value l → p = (key, value) ∨ p ∈ l
  | [], h => by simpa [insertEntry] using h
  | (k, v) :: rest, h => by
    unfold insertEntry at h
    split at h
    · simpa using h
    · split at h
      · simp only [List.mem_cons] at h
        rcases h with h | h
        · exact .inl h
        · exact .inr (List.mem_cons_of_mem _ h)
      · simp only [List.mem_cons] at h
        rcases h with h | h
        · exact .inr (h ▸ List.mem_cons_self)
        · rcases mem_insertEntry h with h | h
          · exact .inl h
          · exact .inr (List.mem_cons_of_mem _ h)

theorem insertEntry_sorted (key : String) (value : β) :
    ∀ {l : List (String × β)}, l.Pairwise (fun a b => a.1 < b.1) →
      (insertEntry key value l).Pairwise fun a b => a.1 < b.1
  | [], _ => by simp [insertEntry]
  | (k, v) :: rest, hs => by
    have hp := List.pairwise_cons.mp hs
    unfold insertEntry
    split
    · next hlt =>
      refine List.pairwise_cons.mpr ⟨?_, hs⟩
      intro q hq
      rcases List.mem_cons.mp hq with rfl | hq
      · exact hlt
      · exact lt_trans hlt (hp.1 q hq)
    · split
      · next heq =>
        subst heq
        exact List.pairwise_cons.mpr ⟨hp.1, hp.2⟩
      · next hlt heq =>
        have hk : k < key := (lt_trichotomy key k).resolve_left hlt |>.resolve_left heq
        refine List.pairwise_cons.mpr ⟨?_, insertEntry_sorted key value hp.2⟩
        intro q hq
        rcases mem_insertEntry hq with rfl | hq
        · exact hk
        · exact hp.1 q hq

theorem insertEntry_perm (key : String) (value : β) :
    ∀ {l : List (String × β)}, key ∉ l.map Prod.fst →
      (insertEntry key value l).Perm ((key, value) :: l)
  | [], _ => by simp [insertEntry]
  | (k, v) :: rest, hk => by
    simp only [List.map_cons, List.mem_cons, not_or] at hk
    unfold insertEntry
    rw [if_neg hk.1]
    split
    · exact List.Perm.refl _
    · exact ((insertEntry_perm key value hk.2).cons (k, v)).trans (List.Perm.swap _ _ _)

theorem insertEntry_ne_nil (key : String) (value : β) :
    ∀ l : List (String × β), insertEntry key value l ≠ []
  | [] => by simp [insertEntry]
  | (k, v) :: rest => by
    unfold insertEntry
    split
    · exact List.cons_ne_nil _ _
    · split <;> exact List.cons_ne_nil _ _

theorem foldl_insert :
    ∀ (kvs : List (String × β)) (d : Dictionary β), WellFormed d →
      (kvs.map Prod.fst).Nodup → (∀ kv ∈ kvs, kv.1 ∉ d.entries.map Prod.fst) →
      WellFormed (kvs.foldl (fun d kv => d.insert kv.1 kv.2) d) ∧
        (kvs.foldl (fun d kv => d.insert kv.1 kv.2) d).entries.Perm (d.entries ++ kvs)
  | [], d, hd, _, _ => by simpa using hd
  | kv :: kvs, d, hd, hnodup, hfresh => by
    simp only [List.map_cons, List.nodup_cons] at hnodup
    have hnew := hfresh kv List.mem_cons_self
    have hperm := insertEntry_perm kv.1 kv.2 hnew
    -- the entries after the first insertion are fresh for the rest of the list
    have hfresh' : ∀ kv' ∈ kvs, kv'.1 ∉ (d.insert kv.1 kv.2).entries.map Prod.fst := by
      intro kv' hkv' hmem
      rw [insert, (hperm.map Prod.fst).mem_iff] at hmem
      rcases List.mem_cons.mp hmem with h | h
      · exact hnodup.1 (h ▸ List.mem_map_of_mem hkv')
      · exact hfresh kv' (List.mem_cons_of_mem _ hkv') h
    obtain ⟨hwf, hp⟩ := foldl_insert kvs (d.insert kv.1 kv.2)
      (insertEntry_sorted kv.1 kv.2 hd) hnodup.2 hfresh'
    exact ⟨hwf, hp.trans ((hperm.append_right kvs).trans List.perm_middle.symm)⟩

/-- A well-formed dictionary is the dictionary of its entries, listed in any order. -/
theorem ofList_eq_of_perm {A : Dictionary β} {kvs : List (String × β)} (hA : WellFormed A)
    (hkvs : kvs.Perm A.entries) : ofList kvs = A := by
  have hkeys : (A.entries.map Prod.fst).Nodup :=
    List.pairwise_map.mpr (hA.imp ne_of_lt)
  obtain ⟨hwf, hp⟩ := foldl_insert kvs {} (List.Pairwise.nil)
    ((hkvs.map Prod.fst).nodup_iff.mpr hkeys) (by simp)
  have hentries : (ofList kvs).entries = A.entries :=
    List.Perm.eq_of_pairwise (fun a b _ _ hab hba => absurd (lt_trans hab hba) (lt_irrefl _))
      hwf hA (hp.trans hkvs)
  cases A
  exact congrArg Dictionary.mk hentries

theorem isEmpty_foldl_insert :
    ∀ (kvs : List (String × β)) (d : Dictionary β),
      (kvs.foldl (fun d kv => d.insert kv.1 kv.2) d).isEmpty = (d.isEmpty && kvs.isEmpty)
  | [], d => by simp
  | kv :: kvs, d => by
    have hne : (d.insert kv.1 kv.2).isEmpty = false :=
      List.isEmpty_eq_false_iff.mpr (insertEntry_ne_nil kv.1 kv.2 d.entries)
    simp [isEmpty_foldl_insert kvs, hne]

theorem ofList_isEmpty (kvs : List (String × β)) : (ofList kvs).isEmpty = kvs.isEmpty := by
  simpa [ofList, isEmpty] using isEmpty_foldl_insert kvs {}

end Dictionary
end ResultLint
