set_option autoImplicit false

/-!
# Values: members in key order

A finite map kept as a list of key and value pairs, in strictly increasing key order.  So each key
occurs once, and a map has only one such list.  `insert` and `erase` keep the order.  A table is
such a list together with its order.
-/

namespace Reprint.Members

variable {κ α : Type} [Ord κ]

/-- The value of a key. -/
def find? (k : κ) : List (κ × α) → Option α
  | [] => none
  | (k', a) :: ms => if compare k k' = .eq then some a else find? k ms

/-- Gives a key a value: a value that it has is replaced. -/
def insert (k : κ) (a : α) : List (κ × α) → List (κ × α)
  | [] => [(k, a)]
  | (k', a') :: ms =>
    match compare k k' with
    | .lt => (k, a) :: (k', a') :: ms
    | .eq => (k, a) :: ms
    | .gt => (k', a') :: insert k a ms

/-- Takes a key out. -/
def erase (k : κ) : List (κ × α) → List (κ × α)
  | [] => []
  | (k', a) :: ms => if compare k k' = .eq then ms else (k', a) :: erase k ms

/-- The map that results from giving keys their values one after the other, so that of several
values for one key the last is kept. -/
def ofList (ms : List (κ × α)) : List (κ × α) :=
  ms.foldl (fun acc m => insert m.1 m.2 acc) []

/-- The keys, in order. -/
def names (ms : List (κ × α)) : List κ := ms.map Prod.fst

/-- The keys are in strictly increasing order. -/
def Increasing (ms : List (κ × α)) : Prop :=
  (names ms).Pairwise fun a b => compare a b = .lt

instance (ms : List (κ × α)) : Decidable (Increasing ms) :=
  inferInstanceAs (Decidable (List.Pairwise _ _))

theorem increasing_nil : Increasing ([] : List (κ × α)) := List.Pairwise.nil

/-- A key of the new list was there before or is the new one. -/
theorem mem_names_insert {k k' : κ} {a : α} {ms : List (κ × α)}
    (h : k' ∈ names (insert k a ms)) : k' = k ∨ k' ∈ names ms := by
  induction ms with
  | nil => simpa [insert, names] using h
  | cons m ms ih =>
    obtain ⟨k₀, a₀⟩ := m
    unfold insert at h
    split at h
    · simpa [names] using h
    · simp only [names, List.map_cons, List.mem_cons] at h ⊢
      rcases h with h | h
      · exact .inl h
      · exact .inr (.inr h)
    · simp only [names, List.map_cons, List.mem_cons] at h ⊢ ih
      rcases h with h | h
      · exact .inr (.inl h)
      · rcases ih h with h | h
        · exact .inl h
        · exact .inr (.inr h)

/-- Giving a key a value keeps the order. -/
theorem increasing_insert [Std.TransOrd κ] [Std.LawfulEqOrd κ] (k : κ) (a : α)
    {ms : List (κ × α)} (h : Increasing ms) : Increasing (insert k a ms) := by
  induction ms with
  | nil => exact List.pairwise_singleton _ _
  | cons m ms ih =>
    obtain ⟨k₀, a₀⟩ := m
    obtain ⟨first, rest⟩ := List.pairwise_cons.1 h
    unfold insert
    split
    · next hlt =>
      refine List.pairwise_cons.2 ⟨fun k' hk' => ?_, h⟩
      rcases List.mem_cons.1 hk' with rfl | hk'
      · exact hlt
      · exact Std.TransCmp.lt_trans hlt (first k' hk')
    · next heq =>
      cases Std.LawfulEqCmp.eq_of_compare heq
      exact List.pairwise_cons.2 ⟨first, rest⟩
    · next hgt =>
      refine List.pairwise_cons.2 ⟨fun k' hk' => ?_, ih rest⟩
      rcases mem_names_insert hk' with rfl | hk'
      · exact Std.OrientedCmp.lt_of_gt hgt
      · exact first k' hk'

/-- What is built by giving keys values is in order. -/
theorem increasing_ofList [Std.TransOrd κ] [Std.LawfulEqOrd κ] (ms : List (κ × α)) :
    Increasing (ofList ms) := by
  suffices ∀ acc : List (κ × α), Increasing acc →
      Increasing (ms.foldl (fun acc m => insert m.1 m.2 acc) acc) from this [] increasing_nil
  induction ms with
  | nil => exact fun _ h => h
  | cons m ms ih => exact fun acc h => ih _ (increasing_insert m.1 m.2 h)

/-- A key beyond all others goes to the end. -/
theorem insert_eq_append [Std.OrientedOrd κ] {k : κ} (a : α) {ms : List (κ × α)}
    (h : ∀ k' ∈ names ms, compare k' k = .lt) : insert k a ms = ms ++ [(k, a)] := by
  induction ms with
  | nil => rfl
  | cons m ms ih =>
    obtain ⟨k₀, a₀⟩ := m
    have beyond : compare k k₀ = .gt := Std.OrientedCmp.gt_of_lt (h k₀ List.mem_cons_self)
    rw [insert, beyond, List.cons_append, ih fun k' hk' => h k' (List.mem_cons_of_mem k₀ hk')]

/-- A list that is in order already is the map that it builds. -/
theorem ofList_eq_self [Std.OrientedOrd κ] {ms : List (κ × α)} (h : Increasing ms) :
    ofList ms = ms := by
  suffices ∀ acc : List (κ × α), Increasing (acc ++ ms) →
      ms.foldl (fun acc m => insert m.1 m.2 acc) acc = acc ++ ms from this [] h
  clear h
  induction ms with
  | nil => exact fun acc _ => (List.append_nil acc).symm
  | cons m ms ih =>
    intro acc h
    have below : ∀ k' ∈ names acc, compare k' m.1 = .lt := by
      intro k' hk'
      rw [Increasing, names, List.map_append] at h
      exact (List.pairwise_append.mp h).2.2 k' hk' m.1 List.mem_cons_self
    rw [List.append_cons acc m ms] at h ⊢
    rw [List.foldl_cons, insert_eq_append m.2 below]
    exact ih _ h

end Reprint.Members

/-! ## Tables -/

namespace Reprint

/-- A finite map with its keys in increasing order. -/
structure Table (κ α : Type) [Ord κ] where
  entries : List (κ × α)
  increasing : Members.Increasing entries

namespace Table

variable {κ α : Type} [Ord κ]

/-- The table of some entries; of several for one key the last is kept. -/
def ofList [Std.TransOrd κ] [Std.LawfulEqOrd κ] (entries : List (κ × α)) : Table κ α :=
  ⟨Members.ofList entries, Members.increasing_ofList entries⟩

end Table

end Reprint
