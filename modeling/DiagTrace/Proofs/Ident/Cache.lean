import DiagTrace.Ident.Cache
import DiagTrace.Proofs.Ident.Normal
import Mathlib.Data.Finset.Card
import Mathlib.Data.List.Flatten

/-!
The table of identifiers after any lookups: it holds the identifiers that were asked for, each once and in its own
bucket with its own text (`Holds.run`). So nobody can tell by the texts that there is a table.
-/
namespace DiagTrace.Ident

namespace Cache

variable {cache : Cache} {asked : List UInt32} {id : UInt32}

def run (cache : Cache) : List UInt32 → List String × Cache
  | [] => ([], cache)
  | id :: ids =>
    let (found, next) := cache.lookup id
    let (texts, last) := next.run ids
    (found :: texts, last)

def entries (cache : Cache) : List Entry := cache.buckets.toList.flatten

def keys (cache : Cache) : List UInt32 := cache.entries.map Prod.fst

/-- The table holds what was asked for, and each entry where it is looked for. -/
structure Holds (cache : Cache) (asked : List UInt32) : Prop where
  placed : ∀ (i : Nat) (inside : i < cache.buckets.size), ∀ entry ∈ cache.buckets[i],
    bucket entry.1 = i ∧ entry.2 = text entry.1
  once : cache.keys.Nodup
  known : ∀ id, id ∈ cache.keys ↔ id ∈ asked

theorem bucket_lt (cache : Cache) (id : UInt32) : bucket id < cache.buckets.size := by
  have low : bucket id ≤ 0x7F7F := by
    simp only [bucket, UInt32.toNat_and]
    exact Nat.and_le_right
  rw [cache.sized]
  omega

theorem size_eq (cache : Cache) : cache.size = cache.entries.length := by
  have counted : ∀ (buckets : List (List Entry)) (n : Nat),
      buckets.foldl (fun n entries => n + entries.length) n = n + buckets.flatten.length := by
    intro buckets
    induction buckets with
    | nil => exact fun n => rfl
    | cons entries buckets ih =>
      intro n
      rw [List.foldl_cons, ih, List.flatten_cons, List.length_append, Nat.add_assoc]
  rw [size, ← Array.foldl_toList, counted, Nat.zero_add, entries]

theorem mem_keys_iff : id ∈ cache.keys ↔
    ∃ (i : Nat) (inside : i < cache.buckets.size), ∃ entry ∈ cache.buckets[i], entry.1 = id := by
  simp only [keys, entries, List.mem_map, List.mem_flatten, Array.mem_toList_iff, Array.mem_iff_getElem]
  constructor
  · rintro ⟨entry, ⟨_, ⟨i, inside, rfl⟩, present⟩, own⟩
    exact ⟨i, inside, entry, present, own⟩
  · rintro ⟨i, inside, entry, present, own⟩
    exact ⟨entry, ⟨_, ⟨i, inside, rfl⟩, present⟩, own⟩

theorem holds_empty : Holds empty [] := by
  have vacant : ∀ (i : Nat) (inside : i < empty.buckets.size), empty.buckets[i] = [] := by
    intro i inside
    exact Array.getElem_replicate ..
  have unknown : ∀ id, id ∉ empty.keys := by
    intro id present
    obtain ⟨i, inside, entry, there, -⟩ := mem_keys_iff.mp present
    rw [vacant i inside] at there
    exact List.not_mem_nil there
  constructor
  case placed =>
    intro i inside entry there
    rw [vacant i inside] at there
    exact absurd there List.not_mem_nil
  case once =>
    rw [List.eq_nil_iff_forall_not_mem.mpr unknown]
    exact List.nodup_nil
  case known => exact fun id => iff_of_false (unknown id) List.not_mem_nil

section Lookup

theorem Holds.find?_eq (holds : Holds cache asked) (id : UInt32) :
    cache.find? id = if id ∈ asked then some (text id) else none := by
  have inside := bucket_lt cache id
  have own : cache.buckets.getD (bucket id) [] = cache.buckets[bucket id] := by
    rw [Array.getD_eq_getD_getElem?, Array.getElem?_eq_getElem inside, Option.getD_some]
  rw [find?, own]
  cases found : cache.buckets[bucket id].find? fun entry => entry.1 == id with
  | some entry =>
    have present := List.mem_of_find?_eq_some found
    have matched : (entry.1 == id) = true := List.find?_some (p := fun entry : Entry => entry.1 == id) found
    have same := beq_iff_eq.mp matched
    have known := (holds.known id).mp (mem_keys_iff.mpr ⟨bucket id, inside, entry, present, same⟩)
    obtain ⟨-, value⟩ := holds.placed (bucket id) inside entry present
    rw [if_pos known, Option.map_some, value, same]
  | none =>
    have absent : id ∉ asked := by
      intro known
      obtain ⟨i, _, entry, present, same⟩ := mem_keys_iff.mp ((holds.known id).mpr known)
      obtain ⟨place, -⟩ := holds.placed i _ entry present
      rw [same] at place
      subst place
      exact List.find?_eq_none.mp found entry present (beq_iff_eq.mpr same)
    rw [if_neg absent, Option.map_none]

theorem flatten_modify_perm {α : Type} {lists : List (List α)} {i : Nat} (inside : i < lists.length) (value : α) :
    (lists.modify i (· ++ [value])).flatten.Perm (lists.flatten ++ [value]) := by
  have whole : lists.flatten = (lists.take i).flatten ++ (lists[i] ++ (lists.drop (i + 1)).flatten) := by
    rw [← List.flatten_cons, ← List.flatten_append, ← List.drop_eq_getElem_cons inside, List.take_append_drop]
  rw [List.modify_eq_take_cons_drop inside, List.flatten_append, List.flatten_cons, whole]
  simp only [List.append_assoc]
  exact (List.perm_append_comm.append_left lists[i]).append_left _

theorem keys_store (cache : Cache) (id : UInt32) (value : String) :
    (cache.store id value).keys.Perm (cache.keys ++ [id]) := by
  have inside : bucket id < cache.buckets.toList.length := bucket_lt cache id
  have added := (flatten_modify_perm inside (id, value)).map Prod.fst
  rw [List.map_append] at added
  rw [keys, entries, store, Array.toList_modify]
  exact added

theorem Holds.store (holds : Holds cache asked) (new : id ∉ asked) :
    Holds (cache.store id (text id)) (asked ++ [id]) := by
  have added := keys_store cache id (text id)
  constructor
  case placed =>
    intro i inside entry there
    have before : i < cache.buckets.size := by
      rw [Cache.store, Array.size_modify] at inside
      exact inside
    simp only [Cache.store, Array.getElem_modify] at there
    split at there
    · rename_i own
      rcases List.mem_append.mp there with earlier | last
      · exact holds.placed i before entry earlier
      · rw [List.mem_singleton.mp last]
        exact ⟨own, rfl⟩
    · exact holds.placed i before entry there
  case once =>
    have apart : id ∉ cache.keys := fun present => new ((holds.known id).mp present)
    rw [added.nodup_iff]
    exact List.nodup_append.mpr ⟨holds.once, List.nodup_singleton id, by
      intro key present other last same
      rw [List.mem_singleton.mp last] at same
      exact apart (same ▸ present)⟩
  case known =>
    intro key
    rw [added.mem_iff, List.mem_append, List.mem_append, holds.known key]

theorem Holds.lookup (holds : Holds cache asked) (id : UInt32) :
    (cache.lookup id).1 = text id ∧ Holds (cache.lookup id).2 (asked ++ [id]) := by
  have found := holds.find?_eq id
  rw [Cache.lookup, found]
  by_cases known : id ∈ asked
  · rw [if_pos known]
    refine ⟨rfl, holds.placed, holds.once, fun key => ?_⟩
    rw [holds.known key, List.mem_append, List.mem_singleton]
    constructor
    · exact Or.inl
    · rintro (earlier | rfl)
      · exact earlier
      · exact known
  · rw [if_neg known]
    exact ⟨rfl, holds.store known⟩

end Lookup

theorem Holds.run (holds : Holds cache asked) (ids : List UInt32) :
    (cache.run ids).1 = ids.map text ∧ Holds (cache.run ids).2 (asked ++ ids) := by
  induction ids generalizing cache asked with
  | nil =>
    rw [List.append_nil]
    exact ⟨rfl, holds⟩
  | cons id ids ih =>
    obtain ⟨first, next⟩ := holds.lookup id
    obtain ⟨rest, last⟩ := ih next
    rw [List.append_assoc, List.singleton_append] at last
    refine ⟨?_, last⟩
    have texts : (cache.run (id :: ids)).1 = (cache.lookup id).1 :: ((cache.lookup id).2.run ids).1 := rfl
    rw [texts, List.map_cons, first, rest]

theorem Holds.size_eq (holds : Holds cache asked) : cache.size = asked.toFinset.card := by
  have same : asked.toFinset = cache.keys.toFinset := by
    ext id
    rw [List.mem_toFinset, List.mem_toFinset, holds.known id]
  rw [same, List.toFinset_card_of_nodup holds.once, Cache.size_eq, keys, List.length_map]

/-- Identifiers have a normal form, which they keep on the wire, and the table of identifiers gives this form whatever
was looked up before, and holds each identifier once. -/
theorem lookups_give_the_normal_form :
    (∀ id, LongestWithout '\x00' (normal id).toList (reduced id)) ∧
    Set.InvOn text packed {id | Plain id} (packed '' {id | Plain id}) ∧
    (∀ id, normal id = id ↔ Plain id) ∧
    (∀ id, normal (text id) = text id) ∧
    ∀ ids, (empty.run ids).1 = ids.map text ∧ Holds (empty.run ids).2 ids ∧
      (∀ id, bucket id < (empty.run ids).2.buckets.size) ∧ (empty.run ids).2.size = ids.toFinset.card := by
  refine ⟨normal_longest, invOn_plain, normal_eq_self_iff, normal_text, fun ids => ?_⟩
  obtain ⟨texts, holds⟩ := holds_empty.run ids
  exact ⟨texts, holds, bucket_lt _, holds.size_eq⟩

end Cache

end DiagTrace.Ident
