import Mathlib.Data.List.Induction
import PagedQuery.Value.Entries

/-! Laws of entries: what is found under a key after entries were put in, taken out, renamed or put
together from pairs, and where an entry stands. Only the order of entries needs keys that occur
once. -/
namespace PagedQuery.Entries

variable {κ α : Type} [BEq κ] [LawfulBEq κ] {key other : κ} {value : α} {entries : List (κ × α)}

omit [LawfulBEq κ] in
@[simp] theorem find?_nil : find? key ([] : List (κ × α)) = none := rfl

@[simp] theorem find?_cons_self (rest : List (κ × α)) :
    find? key ((key, value) :: rest) = some value := by
  simp [find?]

theorem find?_cons_other (different : other ≠ key) (rest : List (κ × α)) :
    find? key ((other, value) :: rest) = find? key rest := by
  simp [find?, different]

omit [LawfulBEq κ] in
theorem find?_append (first second : List (κ × α)) :
    find? key (first ++ second) = (find? key first).or (find? key second) := by
  simp only [find?, List.find?_append]
  cases first.find? fun p => p.1 == key <;> rfl

theorem find?_eq_none_iff : find? key entries = none ↔ key ∉ entries.map Prod.fst := by
  rw [find?, Option.map_eq_none_iff, List.find?_eq_none]
  constructor
  · intro apart member
    obtain ⟨entry, inside, same⟩ := List.mem_map.mp member
    exact apart entry inside (beq_iff_eq.mpr same)
  · intro outside entry inside same
    exact outside (List.mem_map.mpr ⟨entry, inside, eq_of_beq same⟩)

theorem find?_eq_some (found : find? key entries = some value) :
    ∃ before after, entries = before ++ (key, value) :: after ∧ find? key before = none := by
  induction entries with
  | nil => cases found
  | cons entry rest ih =>
    obtain ⟨first, v⟩ := entry
    by_cases same : first = key
    · subst same
      rw [find?_cons_self] at found
      cases found
      exact ⟨[], rest, rfl, rfl⟩
    · rw [find?_cons_other same] at found
      obtain ⟨before, after, rfl, fresh⟩ := ih found
      exact ⟨(first, v) :: before, after, rfl, (find?_cons_other same before).trans fresh⟩

theorem mem_of_find? (found : find? key entries = some value) : (key, value) ∈ entries := by
  obtain ⟨before, after, rfl, _⟩ := find?_eq_some found
  exact List.mem_append_right before List.mem_cons_self

theorem find?_insert_self (key : κ) (value : α) (entries : List (κ × α)) :
    find? key (insert key value entries) = some value := by
  induction entries with
  | nil => exact find?_cons_self []
  | cons entry rest ih =>
    simp only [insert]
    split
    · rename_i same
      rw [eq_of_beq same, find?_cons_self]
    · rename_i different
      rw [find?_cons_other (by simpa using different), ih]

theorem find?_insert_other (different : other ≠ key) (entries : List (κ × α)) :
    find? other (insert key value entries) = find? other entries := by
  induction entries with
  | nil => exact find?_cons_other different.symm []
  | cons entry rest ih =>
    obtain ⟨first, v⟩ := entry
    simp only [insert]
    split
    · rename_i same
      cases eq_of_beq same
      rw [find?_cons_other different.symm, find?_cons_other different.symm]
    · by_cases hit : first = other
      · subst hit
        rw [find?_cons_self, find?_cons_self]
      · rw [find?_cons_other hit, find?_cons_other hit, ih]

theorem insert_absent (absent : find? key entries = none) :
    insert key value entries = entries ++ [(key, value)] := by
  induction entries with
  | nil => rfl
  | cons entry rest ih =>
    obtain ⟨first, v⟩ := entry
    have different : first ≠ key := by
      rintro rfl
      simp at absent
    rw [find?_cons_other different] at absent
    simp [insert, different, ih absent]

theorem insert_present {old : α} {before after : List (κ × α)}
    (fresh : find? key before = none) :
    insert key value (before ++ (key, old) :: after) = before ++ (key, value) :: after := by
  induction before with
  | nil => simp [insert]
  | cons entry rest ih =>
    obtain ⟨first, v⟩ := entry
    have different : first ≠ key := by
      rintro rfl
      simp at fresh
    rw [find?_cons_other different] at fresh
    simp [insert, different, ih fresh]

theorem find?_erase_self (key : κ) (entries : List (κ × α)) :
    find? key (erase key entries) = none := by
  simp [find?_eq_none_iff, erase]

theorem find?_erase_other (different : other ≠ key) (entries : List (κ × α)) :
    find? other (erase key entries) = find? other entries := by
  induction entries with
  | nil => rfl
  | cons entry rest ih =>
    obtain ⟨first, v⟩ := entry
    by_cases same : first = key
    · subst same
      rw [find?_cons_other different.symm, ← ih]
      simp [erase]
    · have kept : erase key ((first, v) :: rest) = (first, v) :: erase key rest := by
        simp [erase, same]
      rw [kept]
      by_cases hit : first = other
      · subst hit
        rw [find?_cons_self, find?_cons_self]
      · rw [find?_cons_other hit, find?_cons_other hit, ih]

theorem erase_absent (absent : find? key entries = none) : erase key entries = entries := by
  rw [find?_eq_none_iff] at absent
  rw [erase, List.filter_eq_self]
  intro entry member
  have different : entry.1 ≠ key := fun same => absent (same ▸ List.mem_map_of_mem member)
  simpa using different

omit [LawfulBEq κ] in
theorem erase_append (key : κ) (first second : List (κ × α)) :
    erase key (first ++ second) = erase key first ++ erase key second :=
  List.filter_append ..

omit [LawfulBEq κ] in
theorem ofPairs_append_one (pairs : List (κ × α)) (pair : κ × α) :
    ofPairs (pairs ++ [pair]) = insert pair.1 pair.2 (ofPairs pairs) := by
  simp [ofPairs]

omit [LawfulBEq κ] in
theorem forall_insert {P : α → Prop} (new : P value) (all : ∀ p ∈ entries, P p.2) :
    ∀ p ∈ insert key value entries, P p.2 := by
  induction entries with
  | nil => exact List.forall_mem_singleton.mpr new
  | cons entry rest ih =>
    obtain ⟨here, later⟩ := List.forall_mem_cons.mp all
    simp only [insert]
    split
    · exact List.forall_mem_cons.mpr ⟨new, later⟩
    · exact List.forall_mem_cons.mpr ⟨here, ih later⟩

omit [LawfulBEq κ] in
theorem forall_ofPairs {P : α → Prop} {pairs : List (κ × α)} (all : ∀ p ∈ pairs, P p.2) :
    ∀ p ∈ ofPairs pairs, P p.2 := by
  induction pairs using List.reverseRecOn with
  | nil => exact nofun
  | append_singleton pairs pair ih =>
    obtain ⟨early, last⟩ := List.forall_mem_append.mp all
    rw [ofPairs_append_one]
    exact forall_insert (last pair (List.mem_singleton_self pair)) (ih early)

theorem find?_ofPairs (key : κ) (pairs : List (κ × α)) :
    find? key (ofPairs pairs) = find? key pairs.reverse := by
  induction pairs using List.reverseRecOn with
  | nil => rfl
  | append_singleton pairs pair ih =>
    obtain ⟨last, v⟩ := pair
    rw [ofPairs_append_one, List.reverse_append, List.reverse_singleton, List.singleton_append]
    by_cases same : last = key
    · subst same
      rw [find?_insert_self, find?_cons_self]
    · rw [find?_insert_other (Ne.symm same), find?_cons_other same, ih]

/-- The last pair with a key is the one that is found. -/
theorem find?_ofPairs_last {before after : List (κ × α)} (last : find? key after = none) :
    find? key (ofPairs (before ++ (key, value) :: after)) = some value := by
  have later : find? key after.reverse = none := by
    rw [find?_eq_none_iff] at last ⊢
    simpa using last
  rw [find?_ofPairs, List.reverse_append, List.reverse_cons, List.append_assoc, find?_append,
    later, List.singleton_append, find?_cons_self]
  rfl

/-- If every key occurs only once, what is found is what is there. -/
theorem find?_eq_some_iff_mem (unique : (entries.map Prod.fst).Nodup) :
    find? key entries = some value ↔ (key, value) ∈ entries := by
  constructor
  · intro found
    obtain ⟨before, after, rfl, _⟩ := find?_eq_some found
    exact List.mem_append_right _ List.mem_cons_self
  · intro member
    obtain ⟨before, after, rfl⟩ := List.append_of_mem member
    have fresh : find? key before = none := by
      rw [find?_eq_none_iff]
      rw [List.map_append, List.map_cons, List.nodup_append] at unique
      exact fun earlier => unique.2.2 key earlier key List.mem_cons_self rfl
    rw [find?_append, fresh, find?_cons_self]
    rfl

theorem find?_perm {others : List (κ × α)} (unique : (entries.map Prod.fst).Nodup)
    (reordered : entries.Perm others) (key : κ) : find? key entries = find? key others := by
  have unique' := (reordered.map Prod.fst).nodup_iff.mp unique
  ext value
  rw [find?_eq_some_iff_mem unique, find?_eq_some_iff_mem unique', reordered.mem_iff]

/-- The entries with one key written as another, in its place. -/
def rename (old new : κ) (entries : List (κ × α)) : List (κ × α) :=
  entries.map fun p => if p.1 == old then (new, p.2) else p

theorem find?_rename_new {old new : κ} (absent : find? new entries = none) :
    find? new (rename old new entries) = find? old entries := by
  induction entries with
  | nil => rfl
  | cons entry rest ih =>
    obtain ⟨first, v⟩ := entry
    have different : first ≠ new := by
      rintro rfl
      simp at absent
    rw [find?_cons_other different] at absent
    by_cases hit : first = old
    · subst hit
      simp [rename]
    · have kept : rename old new ((first, v) :: rest) = (first, v) :: rename old new rest := by
        simp [rename, hit]
      rw [kept, find?_cons_other different, find?_cons_other hit, ih absent]

theorem find?_rename_old {old new : κ} (different : old ≠ new) (entries : List (κ × α)) :
    find? old (rename old new entries) = none := by
  rw [find?_eq_none_iff, rename, List.map_map]
  intro member
  obtain ⟨p, _, same⟩ := List.mem_map.mp member
  by_cases hit : p.1 = old
  · exact different (by simpa [hit] using same.symm)
  · simp [hit] at same

theorem find?_rename_other {old new : κ} (notOld : other ≠ old) (notNew : other ≠ new)
    (entries : List (κ × α)) : find? other (rename old new entries) = find? other entries := by
  induction entries with
  | nil => rfl
  | cons entry rest ih =>
    obtain ⟨first, v⟩ := entry
    by_cases hit : first = old
    · have written : rename old new ((first, v) :: rest) = (new, v) :: rename old new rest := by
        simp [rename, hit]
      rw [written, find?_cons_other (Ne.symm notNew), find?_cons_other (hit ▸ Ne.symm notOld), ih]
    · have kept : rename old new ((first, v) :: rest) = (first, v) :: rename old new rest := by
        simp [rename, hit]
      rw [kept]
      by_cases same : first = other
      · subst same
        rw [find?_cons_self, find?_cons_self]
      · rw [find?_cons_other same, find?_cons_other same, ih]

end PagedQuery.Entries
