/-!
Association lists whose keys ascend. A key is changed in one pass from the front, which stops at the
first greater key; the keys stay ascending and the other entries stay as they are.
-/

namespace SchemaHistory.Ascending

set_option autoImplicit false

variable {κ α : Type} [DecidableEq κ]

/-- Gives the key the value that `change` makes of the one it has, if it has one. -/
def alter (before : κ → κ → Bool) (key : κ) (change : Option α → α) :
    List (κ × α) → List (κ × α)
  | [] => [(key, change none)]
  | (other, value) :: rest =>
      if before key other then (key, change none) :: (other, value) :: rest
      else if key = other then (key, change (some value)) :: rest
      else (other, value) :: alter before key change rest

def Sorted (before : κ → κ → Bool) (entries : List (κ × α)) : Prop :=
  entries.Pairwise fun left right => before left.1 right.1 = true

structure IsStrict (before : κ → κ → Bool) : Prop where
  trans : ∀ {first second third}, before first second = true → before second third = true →
    before first third = true
  total : ∀ {left right}, before left right = false → left ≠ right → before right left = true

/-- An entry is one of those before, or it is the one of the key, made of what the key had. -/
theorem mem_alter {before : κ → κ → Bool} {key : κ} {change : Option α → α} {entry : κ × α}
    {entries : List (κ × α)} (member : entry ∈ alter before key change entries) :
    entry ∈ entries ∨ ∃ old, entry = (key, change old) ∧ ∀ value ∈ old, (key, value) ∈ entries := by
  induction entries with
  | nil =>
      rw [alter, List.mem_singleton] at member
      exact Or.inr ⟨none, member, by simp⟩
  | cons head rest ih =>
      obtain ⟨other, value⟩ := head
      rw [alter] at member
      split at member
      · rcases List.mem_cons.1 member with equal | inside
        · exact Or.inr ⟨none, equal, by simp⟩
        · exact Or.inl inside
      · split at member
        · rename_i same
          subst same
          rcases List.mem_cons.1 member with equal | inside
          · exact Or.inr ⟨some value, equal, by simp⟩
          · exact Or.inl (List.mem_cons_of_mem _ inside)
        · rcases List.mem_cons.1 member with equal | inside
          · exact Or.inl (by rw [equal]; exact List.mem_cons_self)
          · rcases ih inside with earlier | ⟨old, isChanged, had⟩
            · exact Or.inl (List.mem_cons_of_mem _ earlier)
            · exact Or.inr ⟨old, isChanged, fun value isOld =>
                List.mem_cons_of_mem _ (had value isOld)⟩

theorem key_of_mem_alter {before : κ → κ → Bool} {key : κ} {change : Option α → α}
    {entry : κ × α} {entries : List (κ × α)} (member : entry ∈ alter before key change entries) :
    entry.1 = key ∨ entry ∈ entries := by
  rcases mem_alter member with earlier | ⟨old, isChanged, -⟩
  · exact Or.inr earlier
  · exact Or.inl (by rw [isChanged])

omit [DecidableEq κ] in
theorem before_all {before : κ → κ → Bool} (strict : IsStrict before) {key first : κ} {value : α}
    {rest : List (κ × α)} (sorted : Sorted before ((first, value) :: rest))
    (earlier : before key first = true) :
    ∀ entry ∈ (first, value) :: rest, before key entry.1 = true := by
  intro entry member
  rcases List.mem_cons.1 member with equal | inside
  · rw [equal]
    exact earlier
  · exact strict.trans earlier ((List.pairwise_cons.1 sorted).1 entry inside)

theorem sorted_alter {before : κ → κ → Bool} (strict : IsStrict before) (key : κ)
    (change : Option α → α) {entries : List (κ × α)} (sorted : Sorted before entries) :
    Sorted before (alter before key change entries) := by
  induction entries with
  | nil => exact List.pairwise_singleton _ _
  | cons head rest ih =>
      obtain ⟨other, value⟩ := head
      obtain ⟨first, later⟩ := List.pairwise_cons.1 sorted
      rw [alter]
      split
      · rename_i earlier
        exact List.pairwise_cons.2 ⟨before_all strict sorted earlier, sorted⟩
      · rename_i notEarlier
        split
        · rename_i equal
          subst equal
          exact List.pairwise_cons.2 ⟨first, later⟩
        · rename_i different
          refine List.pairwise_cons.2 ⟨fun entry member => ?_, ih later⟩
          rcases key_of_mem_alter member with equal | inside
          · rw [equal]
            exact strict.total (Bool.eq_false_iff.2 notEarlier) different
          · exact first entry inside

theorem alter_of_before {before : κ → κ → Bool} {key : κ} {entries : List (κ × α)}
    (first : ∀ entry ∈ entries, before key entry.1 = true) (change : Option α → α) :
    alter before key change entries = (key, change none) :: entries := by
  cases entries with
  | nil => rfl
  | cons head rest => rw [alter, if_pos (first head List.mem_cons_self)]

theorem mem_of_lookup {key : κ} {value : α} {entries : List (κ × α)}
    (found : entries.lookup key = some value) : (key, value) ∈ entries := by
  obtain ⟨before, after, rfl, -⟩ := List.lookup_eq_some_iff.1 found
  exact List.mem_append_right before List.mem_cons_self

theorem isSome_lookup_iff {key : κ} {entries : List (κ × α)} :
    (entries.lookup key).isSome = true ↔ key ∈ entries.map Prod.fst := by
  rw [List.lookup_isSome_iff, List.mem_map]
  simp only [beq_iff_eq, @eq_comm κ key]

theorem lookup_alter_other {before : κ → κ → Bool} {key other : κ} {change : Option α → α}
    (different : other ≠ key) (entries : List (κ × α)) :
    (alter before key change entries).lookup other = entries.lookup other := by
  have notKey : (other == key) = false := beq_eq_false_iff_ne.2 different
  induction entries with
  | nil => simp only [alter, List.lookup_cons, notKey]
  | cons head rest ih =>
      obtain ⟨first, value⟩ := head
      rw [alter]
      split
      · simp only [List.lookup_cons, notKey]
      · split
        · rename_i same
          subst same
          simp only [List.lookup_cons, notKey]
        · simp only [List.lookup_cons, ih]

theorem lookup_eq_none_of_before {before : κ → κ → Bool} {key : κ} {entries : List (κ × α)}
    (irreflexive : before key key = false) (first : ∀ entry ∈ entries, before key entry.1 = true) :
    entries.lookup key = none := by
  rw [List.lookup_eq_none_iff]
  intro entry member
  rw [bne_iff_ne]
  intro same
  have selfBefore := first entry member
  rw [← same, irreflexive] at selfBefore
  cases selfBefore

theorem lookup_alter_self {before : κ → κ → Bool} (strict : IsStrict before) {key : κ}
    (irreflexive : before key key = false) (change : Option α → α) {entries : List (κ × α)}
    (sorted : Sorted before entries) :
    (alter before key change entries).lookup key = some (change (entries.lookup key)) := by
  induction entries with
  | nil => simp [alter]
  | cons head rest ih =>
      obtain ⟨other, value⟩ := head
      have later := (List.pairwise_cons.1 sorted).2
      rw [alter]
      split
      · rename_i earlier
        rw [lookup_eq_none_of_before irreflexive (before_all strict sorted earlier),
          List.lookup_cons_self]
      · split
        · rename_i same
          subst same
          rw [List.lookup_cons_self, List.lookup_cons_self]
        · rename_i different
          have notOther : (key == other) = false := beq_eq_false_iff_ne.2 different
          simp only [List.lookup_cons, notOther, ih later]

/-- Keys that ascend are different, so what a key leads to is its only entry. -/
theorem mem_iff_lookup {before : κ → κ → Bool} (irreflexive : ∀ key, before key key = false)
    {key : κ} {value : α} {entries : List (κ × α)} (sorted : Sorted before entries) :
    (key, value) ∈ entries ↔ entries.lookup key = some value := by
  refine ⟨fun member => ?_, mem_of_lookup⟩
  obtain ⟨earlier, later, rfl⟩ := List.append_of_mem member
  have inFront := (List.pairwise_append.1 sorted).2.2
  refine List.lookup_eq_some_iff.2 ⟨earlier, later, rfl, ?_⟩
  intro entry isEarlier
  have precedes := inFront entry isEarlier (key, value) List.mem_cons_self
  rw [bne_iff_ne]
  intro same
  rw [← same, irreflexive] at precedes
  cases precedes

omit [DecidableEq κ] in
theorem nodup_of_sorted {before : κ → κ → Bool} (irreflexive : ∀ key, before key key = false)
    {entries : List (κ × α)} (sorted : Sorted before entries) : entries.Nodup := by
  refine sorted.imp ?_
  intro first second precedes same
  rw [same, irreflexive] at precedes
  cases precedes

omit [DecidableEq κ] in
theorem eq_of_mem_iff {before : κ → κ → Bool} (strict : IsStrict before)
    (irreflexive : ∀ key, before key key = false) {left right : List (κ × α)}
    (leftSorted : Sorted before left) (rightSorted : Sorted before right)
    (same : ∀ entry, entry ∈ left ↔ entry ∈ right) : left = right := by
  have rearranged : left.Perm right := by
    rw [List.perm_ext_iff_of_nodup (nodup_of_sorted irreflexive leftSorted)
      (nodup_of_sorted irreflexive rightSorted)]
    exact same
  refine rearranged.eq_of_pairwise ?_ leftSorted rightSorted
  intro first second _ _ precedes follows
  have itself := strict.trans precedes follows
  rw [irreflexive] at itself
  cases itself

/-- Ascending lists are equal when they give every key the same value. -/
theorem eq_of_lookup {before : κ → κ → Bool} (strict : IsStrict before)
    (irreflexive : ∀ key, before key key = false) {left right : List (κ × α)}
    (leftSorted : Sorted before left) (rightSorted : Sorted before right)
    (same : ∀ key, left.lookup key = right.lookup key) : left = right := by
  apply eq_of_mem_iff strict irreflexive leftSorted rightSorted
  intro entry
  rw [mem_iff_lookup irreflexive leftSorted, mem_iff_lookup irreflexive rightSorted, same]

end SchemaHistory.Ascending
