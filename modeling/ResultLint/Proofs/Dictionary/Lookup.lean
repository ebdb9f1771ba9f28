import Mathlib.Data.List.Dedup
import ResultLint.Proofs.Dictionary.OfList

/-!
# Looking keys up

Inserting a key sets its value and leaves the value of every other key alone, whatever order
the entries are in (`get?_insert`); extending a key appends to its list in the same way
(`getD_extend`), so a run of extensions gathers under each key the values given to it, in order
(`getD_foldl_extend`). A dictionary built from a list therefore answers each key
with the last value the list gives it (`get?_ofList`); being sorted with each key once, it has
as many entries as the list has distinct keys (`size_ofList`).
-/

namespace ResultLint
namespace Dictionary

variable {β : Type}

theorem find?_insertEntry (key key' : String) (value : β) :
    ∀ l : List (String × β), (insertEntry key value l).find? (·.1 == key') =
      if key = key' then some (key, value) else l.find? (·.1 == key')
  | [] => by by_cases h : key = key' <;> simp [insertEntry, h]
  | (k, v) :: rest => by
    unfold insertEntry
    split
    · by_cases h : key = key' <;> simp [h]
    · split
      · next heq =>
        subst heq
        by_cases h : key = key' <;> simp [h]
      · next hlt hne =>
        rw [List.find?_cons, List.find?_cons, find?_insertEntry key key' value rest]
        by_cases hk : k = key'
        · subst hk
          simp [hne]
        · have hk' : (k == key') = false := by simpa using hk
          simp [hk']

/-- Inserting a key sets its value and keeps every other one. -/
@[simp]
theorem get?_insert (d : Dictionary β) (key key' : String) (value : β) :
    (d.insert key value).get? key' = if key = key' then some value else d.get? key' := by
  simp only [get?, insert, find?_insertEntry]
  split <;> simp

/-- Extending a key appends to its list and leaves the list of every other key alone. -/
@[simp]
theorem getD_extend {α : Type} (d : Dictionary (List α)) (key key' : String) (xs : List α) :
    ((d.extend key xs).get? key').getD [] =
      (d.get? key').getD [] ++ if key = key' then xs else [] := by
  rw [extend, get?_insert]
  by_cases h : key = key' <;> simp [h]

/-- Extending key after key, the list of a key gathers the values given to it, in order. -/
theorem getD_foldl_extend {α γ : Type} (key : γ → String) (value : γ → α) (k : String)
    (l : List γ) (d : Dictionary (List α)) :
    ((l.foldl (fun d e => d.extend (key e) [value e]) d).get? k).getD [] =
      (d.get? k).getD [] ++ (l.filter (key · == k)).map value := by
  induction l generalizing d with
  | nil => simp
  | cons e l ih =>
    rw [List.foldl_cons, ih, getD_extend]
    by_cases h : key e = k <;> simp [h]

/-- Inserting a list of entries answers each key with the last value the list gives it, and
with the old value for the keys it does not name. -/
theorem get?_foldl_insert (kvs : List (String × β)) (d : Dictionary β) (key : String) :
    (kvs.foldl (fun d kv => d.insert kv.1 kv.2) d).get? key =
      (kvs.reverse.lookup key).or (d.get? key) := by
  induction kvs generalizing d with
  | nil => simp
  | cons kv kvs ih =>
    obtain ⟨k, v⟩ := kv
    rw [List.foldl_cons, ih, get?_insert, List.reverse_cons, List.lookup_append]
    by_cases hk : k = key
    · subst hk
      cases kvs.reverse.lookup k <;> simp
    · have hne : (key == k) = false := by simpa using Ne.symm hk
      simp [hk, List.lookup_cons, hne]

/-- The dictionary of a list answers each key with the last value the list gives it. -/
theorem get?_ofList (kvs : List (String × β)) (key : String) :
    (ofList kvs).get? key = kvs.reverse.lookup key := by
  have hempty : ({} : Dictionary β).get? key = none := rfl
  rw [ofList, get?_foldl_insert, hempty, Option.or_none]

theorem wellFormed_foldl_insert :
    ∀ (kvs : List (String × β)) (d : Dictionary β), WellFormed d →
      WellFormed (kvs.foldl (fun d kv => d.insert kv.1 kv.2) d)
  | [], _, hd => hd
  | kv :: kvs, _, hd => wellFormed_foldl_insert kvs _ (insertEntry_sorted kv.1 kv.2 hd)

theorem mem_keys_iff_isSome_get? (d : Dictionary β) (key : String) :
    key ∈ d.entries.map Prod.fst ↔ (d.get? key).isSome := by
  simp [get?, List.find?_isSome]

/-- The dictionary of a list has one entry per distinct key of the list. -/
theorem size_ofList (kvs : List (String × β)) :
    (ofList kvs).size = (kvs.map Prod.fst).dedup.length := by
  have hwf : WellFormed (ofList kvs) := wellFormed_foldl_insert kvs {} List.Pairwise.nil
  have hnodup : ((ofList kvs).entries.map Prod.fst).Nodup :=
    List.pairwise_map.mpr (hwf.imp ne_of_lt)
  -- both key lists are free of repeats and have the same members, so they are permutations
  have hmem : ∀ key, key ∈ (ofList kvs).entries.map Prod.fst ↔
      key ∈ (kvs.map Prod.fst).dedup := by
    intro key
    rw [mem_keys_iff_isSome_get?, get?_ofList, List.mem_dedup]
    simp only [List.lookup_isSome_iff, List.mem_reverse, beq_iff_eq, List.mem_map]
    constructor <;> rintro ⟨p, hp, rfl⟩ <;> exact ⟨p, hp, rfl⟩
  have hperm := (List.perm_ext_iff_of_nodup hnodup (List.nodup_dedup _)).mpr hmem
  simpa [size] using hperm.length_eq

end Dictionary
end ResultLint
