import Mathlib.Data.List.Sort

/-!
# Python dictionaries

A dictionary is the list of its items in insertion order. Assigning to a key
keeps the position of a key that is there, and a lookup does not depend on the
order of the items as long as the keys are distinct.
-/

namespace BatchIngestion.Python

/-- A Python `dict`: its items in insertion order. -/
abbrev Dict (κ α : Type*) := List (κ × α)

namespace Dict

variable {κ α β : Type*}

/-- `list(d)`: the keys. -/
def keys (d : Dict κ α) : List κ := d.map Prod.fst

section Lookup

variable [DecidableEq κ]

/-- `d.get(key)`. -/
def get? : Dict κ α → κ → Option α
  | [], _ => none
  | (k, v) :: d, key => if k = key then some v else get? d key

/-- `d[key] = value`. -/
def set : Dict κ α → κ → α → Dict κ α
  | [], key, value => [(key, value)]
  | (k, v) :: d, key, value => if k = key then (k, value) :: d else (k, v) :: set d key value

/-- `d.update(e)`. -/
def update (d : Dict κ α) (e : Dict κ α) : Dict κ α := e.foldl (fun d item => set d item.1 item.2) d

/-- An assignment is visible under its key and under no other. -/
theorem get?_set (d : Dict κ α) (key other : κ) (value : α) :
    get? (set d key value) other = if key = other then some value else get? d other := by
  induction d with
  | nil => simp [set, get?]
  | cons item d ih =>
    obtain ⟨k, v⟩ := item
    by_cases hk : k = key
    · subst hk
      by_cases ho : k = other <;> simp [set, get?, ho]
    · by_cases ho : k = other
      · subst ho
        simp [set, get?, hk, Ne.symm hk]
      · simp [set, get?, hk, ho, ih]

/-- A key that an update does not name keeps its value. -/
theorem get?_update_of_notMem {d e : Dict κ α} {key : κ} (h : key ∉ keys e) :
    get? (update d e) key = get? d key := by
  induction e generalizing d with
  | nil => rfl
  | cons item e ih =>
    simp only [keys, List.map_cons, List.mem_cons, not_or] at h
    rw [update, List.foldl_cons, ← update, ih h.2, get?_set, if_neg (Ne.symm h.1)]

/-- A lookup finds an item of the dictionary. -/
theorem mem_of_get? {d : Dict κ α} {key : κ} {value : α} (h : get? d key = some value) :
    (key, value) ∈ d := by
  induction d with
  | nil => simp [get?] at h
  | cons item d ih =>
    obtain ⟨k, v⟩ := item
    by_cases hk : k = key
    · obtain rfl : v = value := by simpa [get?, hk] using h
      simp [hk]
    · exact List.mem_cons_of_mem _ (ih (by simpa [get?, hk] using h))

/-- With distinct keys, a lookup finds every item of the dictionary. -/
theorem get?_eq_some_iff {d : Dict κ α} (hd : (keys d).Nodup) {key : κ} {value : α} :
    get? d key = some value ↔ (key, value) ∈ d := by
  refine ⟨mem_of_get?, fun h => ?_⟩
  induction d with
  | nil => simp at h
  | cons item d ih =>
    obtain ⟨k, v⟩ := item
    obtain ⟨hk, hd⟩ := List.nodup_cons.mp hd
    rcases List.mem_cons.mp h with h | h
    · simp_all [get?]
    · have hne : k ≠ key := by
        rintro rfl
        exact hk (List.mem_map.mpr ⟨_, h, rfl⟩)
      simpa [get?, hne] using ih hd h

/-- A lookup does not depend on the order of the items. -/
theorem get?_perm {d e : Dict κ α} (hd : (keys d).Nodup) (h : d.Perm e) (key : κ) :
    get? d key = get? e key := by
  have he : (keys e).Nodup := (h.map Prod.fst).nodup_iff.mp hd
  ext value
  rw [get?_eq_some_iff hd, get?_eq_some_iff he, h.mem_iff]

/-- The keys after an assignment. -/
theorem mem_keys_set {d : Dict κ α} {key other : κ} {value : α} :
    other ∈ keys (set d key value) ↔ other = key ∨ other ∈ keys d := by
  induction d with
  | nil => simp [set, keys]
  | cons item d ih =>
    obtain ⟨k, v⟩ := item
    by_cases hk : k = key
    · simp [set, keys, hk]
    · simp only [keys] at ih
      simp only [set, keys, hk, if_false, List.map_cons, List.mem_cons, ih]
      tauto

/-- Assignments keep the keys distinct. -/
theorem nodup_keys_set {d : Dict κ α} (hd : (keys d).Nodup) (key : κ) (value : α) :
    (keys (set d key value)).Nodup := by
  induction d with
  | nil => simp [set, keys]
  | cons item d ih =>
    obtain ⟨k, v⟩ := item
    obtain ⟨hk, hd⟩ := List.nodup_cons.mp hd
    by_cases hkey : k = key
    · simpa [set, keys, hkey] using List.nodup_cons.mpr ⟨hkey ▸ hk, hd⟩
    · have hnot : k ∉ keys (set d key value) := by
        rw [mem_keys_set, not_or]
        exact ⟨hkey, hk⟩
      simpa [set, keys, hkey] using List.nodup_cons.mpr ⟨hnot, ih hd⟩

/-- Updates keep the keys distinct. -/
theorem nodup_keys_update {d : Dict κ α} (hd : (keys d).Nodup) (e : Dict κ α) :
    (keys (update d e)).Nodup := by
  induction e generalizing d with
  | nil => exact hd
  | cons item e ih => exact ih (nodup_keys_set hd _ _)

/-- An item after an assignment is the assigned one or an old one. -/
theorem mem_set {d : Dict κ α} {key : κ} {value : α} {item : κ × α}
    (h : item ∈ set d key value) : item = (key, value) ∨ item ∈ d := by
  induction d with
  | nil => exact .inl (by simpa [set] using h)
  | cons head d ih =>
    obtain ⟨k, v⟩ := head
    by_cases hk : k = key
    · rw [set, if_pos hk, hk] at h
      exact (List.mem_cons.mp h).imp_right (List.mem_cons_of_mem _)
    · rw [set, if_neg hk] at h
      rcases List.mem_cons.mp h with h | h
      · exact .inr (h ▸ List.mem_cons_self)
      · exact (ih h).imp_right (List.mem_cons_of_mem _)

/-- An item after an update is a new one or an old one. -/
theorem mem_update {d e : Dict κ α} {item : κ × α} (h : item ∈ update d e) :
    item ∈ e ∨ item ∈ d := by
  induction e generalizing d with
  | nil => exact .inr h
  | cons head e ih =>
    rcases ih (d := set d head.1 head.2) h with h | h
    · exact .inl (List.mem_cons_of_mem _ h)
    · rcases mem_set h with rfl | h
      · exact .inl List.mem_cons_self
      · exact .inr h

/-- The first item with a key has the value of the key. -/
theorem find?_of_get? {d : Dict κ α} {key : κ} {value : α} (h : get? d key = some value) :
    d.find? (·.1 = key) = some (key, value) := by
  induction d with
  | nil => cases h
  | cons item d ih =>
    obtain ⟨k, v⟩ := item
    rw [get?] at h
    by_cases hk : k = key
    · rw [if_pos hk] at h
      rw [List.find?_cons_of_pos (by simpa using hk), hk, Option.some.inj h]
    · rw [if_neg hk] at h
      rw [List.find?_cons_of_neg (by simpa using hk), ih h]

/-- A new key is added at the end. -/
theorem set_of_notMem {d : Dict κ α} {key : κ} (h : key ∉ keys d) (value : α) :
    set d key value = d ++ [(key, value)] := by
  induction d with
  | nil => rfl
  | cons item d ih =>
    obtain ⟨k, v⟩ := item
    have hk : k ≠ key := fun heq => h (heq ▸ List.mem_cons_self)
    have hd : key ∉ keys d := fun hmem => h (List.mem_cons_of_mem _ hmem)
    rw [set, if_neg hk, ih hd, List.cons_append]

/-- An update with new keys adds them at the end. -/
theorem update_eq_append {d e : Dict κ α} (h : (keys (d ++ e)).Nodup) : update d e = d ++ e := by
  induction e generalizing d with
  | nil => exact (List.append_nil d).symm
  | cons item e ih =>
    have hd : item.1 ∉ keys d := by
      rw [keys, List.map_append, List.map_cons] at h
      exact fun hmem => (List.nodup_append.mp h).2.2 _ hmem _ List.mem_cons_self rfl
    have hsplit : d ++ item :: e = d ++ [item] ++ e := by
      rw [List.append_assoc, List.singleton_append]
    change update (set d item.1 item.2) e = _
    rw [set_of_notMem hd, hsplit]
    exact ih (hsplit ▸ h)

/-- Looking up after changing every value changes the value that is found. -/
theorem get?_map (f : α → β) (d : Dict κ α) (key : κ) :
    get? (d.map fun item => (item.1, f item.2)) key = (get? d key).map f := by
  induction d with
  | nil => rfl
  | cons item d ih =>
    obtain ⟨k, v⟩ := item
    by_cases hk : k = key <;> simp [get?, hk, ih]

end Lookup

section Related

variable [DecidableEq κ] {r : α → β → Prop} {d : Dict κ α} {e : Dict κ β}

/-- Two dictionaries have the same keys, in the same order, and related values. -/
def Related (r : α → β → Prop) (d : Dict κ α) (e : Dict κ β) : Prop :=
  List.Forall₂ (fun a b => a.1 = b.1 ∧ r a.2 b.2) d e

/-- Lookups in related dictionaries are related. -/
theorem Related.get? (h : Related r d e) (key : κ) : Option.Rel r (get? d key) (get? e key) := by
  induction h with
  | nil => exact .none
  | @cons a b d e hab h ih =>
    obtain ⟨k, v⟩ := a
    obtain ⟨k', w⟩ := b
    obtain ⟨rfl, hvw⟩ : k = k' ∧ r v w := hab
    by_cases hk : k = key
    · simp only [Dict.get?, hk, if_true]
      exact .some hvw
    · simpa only [Dict.get?, hk, if_false] using ih

/-- Related values may be assigned. -/
theorem Related.set (h : Related r d e) (key : κ) {v : α} {w : β} (hvw : r v w) :
    Related r (set d key v) (set e key w) := by
  induction h with
  | nil => exact .cons ⟨rfl, hvw⟩ .nil
  | @cons a b d e hab h ih =>
    obtain ⟨k, v'⟩ := a
    obtain ⟨k', w'⟩ := b
    obtain ⟨rfl, hvw'⟩ : k = k' ∧ r v' w' := hab
    by_cases hk : k = key
    · simp only [Dict.set, hk, if_true]
      exact .cons ⟨rfl, hvw⟩ h
    · simp only [Dict.set, hk, if_false]
      exact .cons ⟨rfl, hvw'⟩ ih

/-- An update by related dictionaries keeps dictionaries related. -/
theorem Related.update (h : Related r d e) {d' : Dict κ α} {e' : Dict κ β}
    (h' : Related r d' e') : Related r (update d d') (update e e') := by
  induction h' generalizing d e with
  | nil => exact h
  | cons hab h' ih =>
    obtain ⟨hkey, hvw⟩ := hab
    simp only [Dict.update, List.foldl_cons]
    rw [← hkey]
    exact ih (h.set _ hvw)

end Related

section Sorting

variable [LinearOrder κ]

/-- `sorted(d.items())` for distinct keys. -/
def sortKeys (d : Dict κ α) : Dict κ α := d.insertionSort fun a b => a.1 ≤ b.1

/-- Sorting keeps the items. -/
theorem perm_sortKeys (d : Dict κ α) : (sortKeys d).Perm d := List.perm_insertionSort _ d

/-- Sorting keeps every lookup. -/
theorem get?_sortKeys [DecidableEq κ] {d : Dict κ α} (hd : (keys d).Nodup) (key : κ) :
    get? (sortKeys d) key = get? d key :=
  (get?_perm hd (perm_sortKeys d).symm key).symm

end Sorting

end Dict

end BatchIngestion.Python
