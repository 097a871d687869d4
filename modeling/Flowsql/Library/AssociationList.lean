import Mathlib

/-!
# Association lists

How a lookup sees an entry whose value was replaced, and what an edit of one key does to
the list of all entries, up to their order.
-/

namespace Flowsql.Library

variable {Key Value : Type} [DecidableEq Key]

theorem kreplace_cons_self (key : Key) (value old : Value) (entries : List ((_ : Key) × Value)) :
    List.kreplace (β := fun _ => Value) key value (⟨key, old⟩ :: entries) =
      ⟨key, value⟩ :: entries := by
  unfold List.kreplace
  exact List.lookmap_cons_some _ _ (by simp)

theorem kreplace_cons_ne {key first : Key} (different : key ≠ first) (value old : Value)
    (entries : List ((_ : Key) × Value)) :
    List.kreplace (β := fun _ => Value) key value (⟨first, old⟩ :: entries) =
      ⟨first, old⟩ :: List.kreplace (β := fun _ => Value) key value entries := by
  unfold List.kreplace
  exact List.lookmap_cons_none _ _ (by simp [different])

theorem dlookup_kreplace (key other : Key) (value : Value) (entries : List ((_ : Key) × Value)) :
    List.dlookup (β := fun _ => Value) other
        (List.kreplace (β := fun _ => Value) key value entries) =
      if other = key then (entries.dlookup key).map fun _ => value else entries.dlookup other := by
  induction entries with
  | nil => simp [List.kreplace]
  | cons entry entries ih =>
      obtain ⟨first, old⟩ := entry
      by_cases found : key = first
      · subst found
        rw [kreplace_cons_self]
        by_cases same : other = key
        · subst same
          simp
        · rw [List.dlookup_cons_ne entries ⟨key, value⟩ same,
            List.dlookup_cons_ne entries ⟨key, old⟩ same, if_neg same]
      · rw [kreplace_cons_ne found]
        by_cases same : other = first
        · subst same
          simp [Ne.symm found]
        · rw [List.dlookup_cons_ne (β := fun _ => Value) _ ⟨first, old⟩ same, ih,
            List.dlookup_cons_ne entries ⟨first, old⟩ found,
            List.dlookup_cons_ne entries ⟨first, old⟩ same]

theorem lookup_replace (key other : Key) (value : Value) (entries : AList fun _ : Key => Value) :
    (entries.replace key value).lookup other =
      if other = key then (entries.lookup key).map fun _ => value else entries.lookup other :=
  dlookup_kreplace key other value entries.entries

/-! ## The entries as a whole -/

theorem entries_insert {key : Key} (value : Value) {entries : AList fun _ : Key => Value}
    (absent : entries.lookup key = none) :
    (entries.insert key value).entries = ⟨key, value⟩ :: entries.entries :=
  AList.entries_insert_of_notMem (AList.lookup_eq_none.mp absent)

theorem dlookup_perm_kerase {key : Key} {value : Value} {entries : List ((_ : Key) × Value)}
    (found : entries.dlookup key = some value) :
    entries.Perm (⟨key, value⟩ :: entries.kerase key) := by
  induction entries with
  | nil => cases found
  | cons entry entries ih =>
      obtain ⟨first, old⟩ := entry
      by_cases same : key = first
      · subst same
        rw [List.dlookup_cons_eq] at found
        cases found
        rw [@List.kerase_cons_eq _ _ _ key ⟨key, value⟩ entries rfl]
      · rw [List.dlookup_cons_ne entries ⟨first, old⟩ same] at found
        rw [List.kerase_cons_ne same]
        exact ((ih found).cons _).trans (.swap _ _ _)

theorem entries_erase_perm {key : Key} {value : Value} {entries : AList fun _ : Key => Value}
    (found : entries.lookup key = some value) :
    entries.entries.Perm (⟨key, value⟩ :: (entries.erase key).entries) :=
  dlookup_perm_kerase found

/-- One entry takes the place of another. -/
theorem entries_insert_erase_perm {key other : Key} {value old : Value}
    {entries : AList fun _ : Key => Value} (absent : entries.lookup key = none)
    (found : entries.lookup other = some old) :
    ((entries.insert key value).erase other).entries.Perm
      (⟨key, value⟩ :: (entries.erase other).entries) := by
  have different : other ≠ key := by
    intro same
    rw [same, absent] at found
    cases found
  have kept : (entries.insert key value).lookup other = some old := by
    rw [AList.lookup_insert_ne different, found]
  have split := (entries_erase_perm kept).symm.trans
    ((List.Perm.of_eq (entries_insert value absent)).trans ((entries_erase_perm found).cons _))
  exact (split.trans (.swap _ _ _)).cons_inv

theorem dlookup_perm_kreplace {key : Key} {value new : Value} {entries : List ((_ : Key) × Value)}
    (found : entries.dlookup key = some value) :
    (List.kreplace (β := fun _ => Value) key new entries).Perm
      (⟨key, new⟩ :: entries.kerase key) := by
  induction entries with
  | nil => cases found
  | cons entry entries ih =>
      obtain ⟨first, old⟩ := entry
      by_cases same : key = first
      · subst same
        rw [kreplace_cons_self, @List.kerase_cons_eq _ _ _ key ⟨key, old⟩ entries rfl]
      · rw [List.dlookup_cons_ne entries ⟨first, old⟩ same] at found
        rw [kreplace_cons_ne same, List.kerase_cons_ne same]
        exact ((ih found).cons _).trans (.swap _ _ _)

theorem entries_replace_perm {key : Key} {value : Value} (new : Value)
    {entries : AList fun _ : Key => Value} (found : entries.lookup key = some value) :
    (entries.replace key new).entries.Perm (⟨key, new⟩ :: (entries.erase key).entries) :=
  dlookup_perm_kreplace found

theorem erase_of_lookup_eq_none {key : Key} {entries : AList fun _ : Key => Value}
    (absent : entries.lookup key = none) : entries.erase key = entries :=
  AList.ext (List.kerase_of_notMem_keys (AList.lookup_eq_none.mp absent))

theorem erase_insert {key : Key} {value : Value} {entries : AList fun _ : Key => Value}
    (absent : entries.lookup key = none) : (entries.insert key value).erase key = entries := by
  apply AList.ext
  change (entries.insert key value).entries.kerase key = entries.entries
  rw [entries_insert value absent]
  exact List.kerase_cons_eq rfl

theorem mem_entries {key : Key} {value : Value} {entries : AList fun _ : Key => Value} :
    ⟨key, value⟩ ∈ entries.entries ↔ entries.lookup key = some value :=
  AList.mem_lookup_iff.symm

end Flowsql.Library
