import Reprint.Value.Members

set_option autoImplicit false

/-!
# Members as a finite map

A list of members is seen through `find?` only: what giving a key a value and taking a key out do to
each look-up, which keys are found, and that a list in key order is known by what is found in it.
-/

namespace Reprint.Members

variable {κ α : Type} [Ord κ]

theorem find?_cons (k k' : κ) (a : α) (ms : List (κ × α)) :
    find? k ((k', a) :: ms) = if compare k k' = .eq then some a else find? k ms := rfl

@[simp] theorem find?_self [Std.LawfulEqOrd κ] (k : κ) (a : α) (ms : List (κ × α)) :
    find? k ((k, a) :: ms) = some a := by
  rw [find?_cons, if_pos (Std.compare_eq_iff_eq.mpr rfl)]

theorem ne_of_lt [Std.LawfulEqOrd κ] {k k' : κ} (h : compare k k' = .lt) : k ≠ k' := by
  rintro rfl
  rw [Std.compare_eq_iff_eq.mpr rfl] at h
  cases h

/-- A member that is found is in the list. -/
theorem mem_of_find?_eq_some [Std.LawfulEqOrd κ] {k : κ} {a : α} {ms : List (κ × α)}
    (h : find? k ms = some a) : (k, a) ∈ ms := by
  induction ms with
  | nil => cases h
  | cons m ms ih =>
    obtain ⟨k', a'⟩ := m
    rw [find?_cons] at h
    split at h
    · next same =>
      cases Std.LawfulEqCmp.eq_of_compare same
      cases h
      exact List.mem_cons_self
    · exact List.mem_cons_of_mem _ (ih h)

/-- The keys that are found are those of the list. -/
theorem isSome_find?_iff [Std.LawfulEqOrd κ] {k : κ} {ms : List (κ × α)} :
    (find? k ms).isSome = true ↔ k ∈ names ms := by
  induction ms with
  | nil => simp [find?, names]
  | cons m ms ih =>
    obtain ⟨k', a⟩ := m
    rw [find?_cons, names, List.map_cons, List.mem_cons]
    split
    · next same => simp [Std.LawfulEqCmp.eq_of_compare same]
    · next differ =>
      have other : k ≠ k' := fun same => differ (Std.compare_eq_iff_eq.mpr same)
      rw [ih, names]
      simp [other]

theorem find?_eq_none_iff [Std.LawfulEqOrd κ] {k : κ} {ms : List (κ × α)} :
    find? k ms = none ↔ k ∉ names ms := by
  rw [← isSome_find?_iff, Bool.not_eq_true, Option.isSome_eq_false_iff, Option.isNone_iff_eq_none]

/-- Giving a key a value changes the look-up of that key alone. -/
theorem find?_insert [Std.LawfulEqOrd κ] (k k' : κ) (a : α) (ms : List (κ × α)) :
    find? k' (insert k a ms) = if compare k' k = .eq then some a else find? k' ms := by
  induction ms with
  | nil => rfl
  | cons m ms ih =>
    obtain ⟨k₀, a₀⟩ := m
    unfold insert
    split
    · rfl
    · next same =>
      cases Std.LawfulEqCmp.eq_of_compare same
      rw [find?_cons, find?_cons]
      split
      · rfl
      · rfl
    · next above =>
      rw [find?_cons, find?_cons, ih]
      split
      · next here =>
        -- The key that is found first is not the one that was given a value.
        cases Std.LawfulEqCmp.eq_of_compare here
        have other : compare k' k ≠ .eq := by
          intro same
          cases Std.LawfulEqCmp.eq_of_compare same
          rw [Std.compare_eq_iff_eq.mpr rfl] at above
          cases above
        rw [if_neg other]
      · rfl

/-- A member of the new list was there before or is the new one. -/
theorem mem_insert {m : κ × α} {k : κ} {a : α} {ms : List (κ × α)} (h : m ∈ insert k a ms) :
    m = (k, a) ∨ m ∈ ms := by
  induction ms with
  | nil => exact .inl (List.mem_singleton.mp h)
  | cons m' ms ih =>
    obtain ⟨k', a'⟩ := m'
    unfold insert at h
    split at h
    · exact List.mem_cons.mp h
    · rcases List.mem_cons.mp h with new | old
      · exact .inl new
      · exact .inr (List.mem_cons_of_mem _ old)
    · rcases List.mem_cons.mp h with first | later
      · exact .inr (first ▸ List.mem_cons_self)
      · rcases ih later with new | old
        · exact .inl new
        · exact .inr (List.mem_cons_of_mem _ old)

/-- A member of a map was given to it. -/
theorem mem_of_mem_ofList {m : κ × α} {ms : List (κ × α)} (h : m ∈ ofList ms) : m ∈ ms := by
  suffices ∀ acc : List (κ × α), m ∈ ms.foldl (fun acc m => insert m.1 m.2 acc) acc →
      m ∈ acc ∨ m ∈ ms from (this [] h).resolve_left List.not_mem_nil
  clear h
  induction ms with
  | nil => exact fun acc within => .inl within
  | cons m' ms ih =>
    intro acc within
    rcases ih _ within with given | later
    · rcases mem_insert given with new | old
      · exact .inr (new ▸ List.mem_cons_self)
      · exact .inl old
    · exact .inr (List.mem_cons_of_mem _ later)

theorem erase_sublist (k : κ) (ms : List (κ × α)) : (erase k ms).Sublist ms := by
  induction ms with
  | nil => exact .slnil
  | cons m ms ih =>
    obtain ⟨k', a⟩ := m
    unfold erase
    split
    · exact List.sublist_cons_self _ _
    · exact ih.cons_cons _

/-- Taking a key out keeps the order. -/
theorem increasing_erase (k : κ) {ms : List (κ × α)} (h : Increasing ms) :
    Increasing (erase k ms) :=
  List.Pairwise.sublist ((erase_sublist k ms).map Prod.fst) h

/-- A key below all keys of a list is not among them. -/
theorem find?_eq_none_of_below [Std.LawfulEqOrd κ] {k : κ} {ms : List (κ × α)}
    (h : ∀ k' ∈ names ms, compare k k' = .lt) : find? k ms = none :=
  find?_eq_none_iff.mpr fun within => ne_of_lt (h k within) rfl

/-- In a list in key order, the rest of the list has all its look-ups but that of the first key. -/
theorem find?_rest [Std.LawfulEqOrd κ] {k : κ} {a : α} {ms : List (κ × α)}
    (h : Increasing ((k, a) :: ms)) (k' : κ) :
    find? k' ms = if compare k' k = .eq then none else find? k' ((k, a) :: ms) := by
  obtain ⟨first, _⟩ := List.pairwise_cons.mp h
  split
  · next same =>
    cases Std.LawfulEqCmp.eq_of_compare same
    exact find?_eq_none_of_below first
  · next differ => rw [find?_cons, if_neg differ]

/-- In a list in key order every member is found. -/
theorem find?_eq_some_iff_mem [Std.LawfulEqOrd κ] {k : κ} {a : α} {ms : List (κ × α)}
    (h : Increasing ms) : find? k ms = some a ↔ (k, a) ∈ ms := by
  refine ⟨mem_of_find?_eq_some, fun within => ?_⟩
  induction ms with
  | nil => cases within
  | cons m ms ih =>
    obtain ⟨k', a'⟩ := m
    obtain ⟨first, rest⟩ := List.pairwise_cons.mp h
    rcases List.mem_cons.mp within with same | later
    · cases same
      exact find?_self k a ms
    · have above : compare k' k = .lt := first k (List.mem_map_of_mem later)
      have other : compare k k' ≠ .eq := by
        intro same
        exact ne_of_lt above (Std.LawfulEqCmp.eq_of_compare same).symm
      rw [find?_cons, if_neg other]
      exact ih rest later

/-- Taking a key out leaves the look-ups of all others. -/
theorem find?_erase [Std.LawfulEqOrd κ] (k k' : κ) {ms : List (κ × α)} (h : Increasing ms) :
    find? k' (erase k ms) = if compare k' k = .eq then none else find? k' ms := by
  induction ms with
  | nil => simp [erase, find?]
  | cons m ms ih =>
    obtain ⟨k₀, a₀⟩ := m
    unfold erase
    split
    · next same =>
      cases Std.LawfulEqCmp.eq_of_compare same
      exact find?_rest h k'
    · next differ =>
      rw [find?_cons, find?_cons, ih (List.pairwise_cons.mp h).2]
      split
      · next here =>
        cases Std.LawfulEqCmp.eq_of_compare here
        have other : compare k' k ≠ .eq := by
          intro same
          cases Std.LawfulEqCmp.eq_of_compare same
          exact differ (Std.compare_eq_iff_eq.mpr rfl)
        rw [if_neg other]
      · rfl

/-- In a list in key order the first key is the least. -/
theorem eq_or_lt_of_mem_names {k k' : κ} {a : α} {ms : List (κ × α)}
    (h : Increasing ((k, a) :: ms)) (within : k' ∈ names ((k, a) :: ms)) :
    k' = k ∨ compare k k' = .lt := by
  rcases List.mem_cons.mp within with same | later
  · exact .inl same
  · exact .inr ((List.pairwise_cons.mp h).1 k' later)

/-- A list in key order is known by what is found in it. -/
theorem eq_of_find?_eq [Std.OrientedOrd κ] [Std.LawfulEqOrd κ] {ms ms' : List (κ × α)}
    (h : Increasing ms) (h' : Increasing ms') (same : ∀ k, find? k ms = find? k ms') :
    ms = ms' := by
  induction ms generalizing ms' with
  | nil =>
    cases ms' with
    | nil => rfl
    | cons m' ms' =>
      have found := same m'.1
      rw [find?_self] at found
      cases found
  | cons m ms ih =>
    cases ms' with
    | nil =>
      have found := same m.1
      rw [find?_self] at found
      cases found
    | cons m' ms' =>
      obtain ⟨k, a⟩ := m
      obtain ⟨k', a'⟩ := m'
      have found : find? k ((k', a') :: ms') = some a := by rw [← same, find?_self]
      have found' : find? k' ((k, a) :: ms) = some a' := by rw [same, find?_self]
      -- Each of the two first keys is the least of its list and occurs in the other.
      obtain rfl : k = k' := by
        have within := isSome_find?_iff.mp (Option.isSome_of_eq_some found)
        have within' := isSome_find?_iff.mp (Option.isSome_of_eq_some found')
        have least := eq_or_lt_of_mem_names h' within
        have least' := eq_or_lt_of_mem_names h within'
        rcases least with here | below
        · exact here
        rcases least' with here | below'
        · exact here.symm
        · rw [Std.OrientedCmp.gt_of_lt below] at below'
          cases below'
      rw [find?_self] at found
      obtain rfl : a' = a := Option.some.inj found
      refine congrArg _ (ih (List.pairwise_cons.mp h).2 (List.pairwise_cons.mp h').2 fun k' => ?_)
      rw [find?_rest h, find?_rest h', same]

/-! ## Maps of lists in any order -/

section Order

variable [Std.LawfulEqOrd κ] {ms ms' : List (κ × α)}

/-- Giving a new key a value adds a member and changes no other. -/
theorem insert_perm {k : κ} (a : α) (new : k ∉ names ms) :
    (insert k a ms).Perm ((k, a) :: ms) := by
  induction ms with
  | nil => exact .refl _
  | cons m ms ih =>
    obtain ⟨k', a'⟩ := m
    unfold insert
    split
    · exact .refl _
    · next same => exact absurd (Std.LawfulEqCmp.eq_of_compare same ▸ List.mem_cons_self) new
    · have later : (insert k a ms).Perm ((k, a) :: ms) :=
        ih fun within => new (List.mem_cons_of_mem k' within)
      exact (later.cons _).trans (.swap _ _ _)

/-- The map of members with different keys has these members and no others. -/
theorem ofList_perm (distinct : (names ms).Nodup) : (ofList ms).Perm ms := by
  suffices ∀ acc : List (κ × α), (names (acc ++ ms)).Nodup →
      (ms.foldl (fun acc m => insert m.1 m.2 acc) acc).Perm (acc ++ ms) from this [] distinct
  clear distinct
  induction ms with
  | nil => exact fun acc _ => .of_eq (List.append_nil acc).symm
  | cons m ms ih =>
    intro acc distinct
    have moved : (acc ++ m :: ms).Perm (m :: acc ++ ms) := List.perm_middle
    have distinct' : (names (m :: acc ++ ms)).Nodup := (moved.map Prod.fst).nodup_iff.mp distinct
    have new : m.1 ∉ names acc := by
      intro within
      apply (List.nodup_cons.mp distinct').1
      exact List.map_subset Prod.fst (List.subset_append_left acc ms) within
    have inserted : (insert m.1 m.2 acc ++ ms).Perm (m :: acc ++ ms) :=
      (insert_perm m.2 new).append_right ms
    have rest := ih _ ((inserted.map Prod.fst).nodup_iff.mpr distinct')
    exact rest.trans (inserted.trans moved.symm)

theorem nodup_of_increasing (h : Increasing ms) : (names ms).Nodup :=
  List.Pairwise.imp ne_of_lt h

/-- The members of a list in key order, in any other order, have that list as their map. -/
theorem ofList_eq_of_perm [Std.TransOrd κ] (same : ms.Perm ms') (h : Increasing ms') :
    ofList ms = ms' := by
  have distinct : (names ms).Nodup := (same.map Prod.fst).nodup_iff.mpr (nodup_of_increasing h)
  have sorted {ms : List (κ × α)} (h : Increasing ms) :
      ms.Pairwise fun m n => compare m.1 n.1 = .lt := List.pairwise_map.mp h
  refine List.Perm.eq_of_pairwise ?_ (sorted (increasing_ofList ms)) (sorted h)
    ((ofList_perm distinct).trans same)
  intro m n _ _ below above
  rw [Std.OrientedCmp.gt_of_lt below] at above
  cases above

end Order

/-! ## One change after another -/

section Again

variable [Std.TransOrd κ] [Std.LawfulEqOrd κ] {k : κ} {ms : List (κ × α)}

/-- Giving a key the value that it has changes nothing. -/
theorem insert_eq_self {a : α} (h : Increasing ms) (found : find? k ms = some a) :
    insert k a ms = ms := by
  refine eq_of_find?_eq (increasing_insert k a h) h fun k' => ?_
  rw [find?_insert]
  split
  · next same =>
    cases Std.LawfulEqCmp.eq_of_compare same
    exact found.symm
  · rfl

/-- Taking out a key that is not there changes nothing. -/
theorem erase_eq_self (h : Increasing ms) (absent : find? k ms = none) : erase k ms = ms := by
  refine eq_of_find?_eq (increasing_erase k h) h fun k' => ?_
  rw [find?_erase k k' h]
  split
  · next same =>
    cases Std.LawfulEqCmp.eq_of_compare same
    exact absent.symm
  · rfl

/-- Of two values for a key the second one stays. -/
theorem insert_insert (a b : α) (h : Increasing ms) :
    insert k a (insert k b ms) = insert k a ms := by
  have first := increasing_insert k b h
  refine eq_of_find?_eq (increasing_insert k a first) (increasing_insert k a h) fun k' => ?_
  rw [find?_insert, find?_insert, find?_insert]
  split
  · rfl
  · rfl

/-- It makes no difference whether a key that is given a value was taken out before. -/
theorem insert_erase (a : α) (h : Increasing ms) : insert k a (erase k ms) = insert k a ms := by
  have first := increasing_erase k h
  refine eq_of_find?_eq (increasing_insert k a first) (increasing_insert k a h) fun k' => ?_
  rw [find?_insert, find?_insert, find?_erase k k' h]
  split
  · rfl
  · rfl

/-- It makes no difference whether a key that is taken out was given a value before. -/
theorem erase_insert (a : α) (h : Increasing ms) : erase k (insert k a ms) = erase k ms := by
  have first := increasing_insert k a h
  refine eq_of_find?_eq (increasing_erase k first) (increasing_erase k h) fun k' => ?_
  rw [find?_erase k k' first, find?_erase k k' h, find?_insert]
  split
  · rfl
  · rfl

end Again

end Reprint.Members
