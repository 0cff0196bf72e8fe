import Docstore.Entries
import Mathlib.Data.List.Nodup

/-!
# `Docstore.Proofs.Entries` — laws of ordered lists of named values

What reading, writing and erasing an entry have to do with one another and with the list of names. A list
may name something twice as far as the type is concerned; only where `erase` has to make a name disappear
does it matter that it does not. `assign` is a write or an erasure, for what may be there or not.

The last section is about names that are written one after the other: they come in the order in which they
were first listed.
-/

namespace Docstore.Entries

variable {α : Type} {name other : String} {value old : α} {entries : List (String × α)}

/-! ## Reading -/

theorem get?_eq_none_iff : get? name entries = none ↔ name ∉ names entries := by
  induction entries with
  | nil => simp [get?, names]
  | cons entry rest ih =>
      obtain ⟨key, old⟩ := entry
      by_cases hkey : key = name
      · simp [get?, names, hkey]
      · simpa [get?, names, hkey, Ne.symm hkey] using ih

theorem has_iff : has name entries = true ↔ name ∈ names entries := by
  unfold has
  rw [Option.isSome_iff_ne_none, Ne, get?_eq_none_iff, not_not]

/-- Other values under the same names. -/
theorem names_map {β : Type} (f : String × α → β) (entries : List (String × α)) :
    names (entries.map fun entry => (entry.1, f entry)) = names entries := by
  unfold names
  rw [List.map_map]
  rfl

/-- Under a name that stands only once is what stands beside it. -/
theorem get?_of_mem (h : (names entries).Nodup) (hm : (name, value) ∈ entries) :
    get? name entries = some value := by
  induction entries with
  | nil => exact nomatch hm
  | cons entry rest ih =>
      obtain ⟨key, old⟩ := entry
      obtain ⟨hkey, hrest⟩ := List.nodup_cons.mp h
      rcases List.mem_cons.mp hm with heq | hm
      · cases heq
        simp [get?]
      · have hlater : name ∈ names rest := List.mem_map.mpr ⟨(name, value), hm, rfl⟩
        have hne : key ≠ name := fun heq => hkey (heq ▸ hlater)
        simpa [get?, hne] using ih hrest hm

/-! ## Writing -/

/-- A write is read under its name, and changes no other. -/
theorem get?_insert (value : α) : get? other (insert name value entries) =
    if other = name then some value else get? other entries := by
  split
  · next h => rw [h, get?_insert_self]
  · next h => rw [get?_insert_of_ne h]

/-- A name that is there already keeps its place, a new one comes last. -/
theorem names_insert (value : α) : names (insert name value entries) =
    if name ∈ names entries then names entries else names entries ++ [name] := by
  induction entries with
  | nil => simp [insert, names]
  | cons entry rest ih =>
      obtain ⟨key, old⟩ := entry
      by_cases hkey : key = name
      · simp [insert, names, hkey]
      · have hstep : names (insert name value ((key, old) :: rest)) =
            key :: names (insert name value rest) := by
          simp [insert, names, hkey]
        have hmem : name ∈ names ((key, old) :: rest) ↔ name ∈ names rest := by
          simp [names, Ne.symm hkey]
        rw [hstep, ih]
        simp only [hmem]
        split <;> rfl

theorem nodup_names_insert (value : α) (h : (names entries).Nodup) :
    (names (insert name value entries)).Nodup := by
  rw [names_insert]
  split
  · exact h
  · next hnew =>
      rw [← List.concat_eq_append]
      exact h.concat hnew

/-- Of two values written under one name the later one stays. -/
theorem insert_insert (value old : α) (entries : List (String × α)) :
    insert name value (insert name old entries) = insert name value entries := by
  induction entries with
  | nil => simp [insert]
  | cons entry rest ih =>
      obtain ⟨key, first⟩ := entry
      by_cases hkey : key = name
      · simp [insert, hkey]
      · simp [insert, hkey, ih]

/-- Writing the value that is there changes nothing. -/
theorem insert_of_get? (h : get? name entries = some value) : insert name value entries = entries := by
  induction entries with
  | nil => exact nomatch h
  | cons entry rest ih =>
      obtain ⟨key, old⟩ := entry
      by_cases hkey : key = name
      · simp_all [insert, get?]
      · simp only [get?, hkey, if_false] at h
        simp [insert, hkey, ih h]

/-- A write of a new name comes last. -/
theorem insert_of_notMem (value : α) (h : name ∉ names entries) :
    insert name value entries = entries ++ [(name, value)] := by
  induction entries with
  | nil => rfl
  | cons entry rest ih =>
      obtain ⟨key, old⟩ := entry
      obtain ⟨hkey, hrest⟩ : name ≠ key ∧ name ∉ names rest := by simpa [names] using h
      simp [insert, hkey.symm, ih hrest]

/-- To write entries of new and distinct names, one after the other, is to append them. -/
theorem foldl_insert_of_nodup {more : List (String × α)} (h : (names (entries ++ more)).Nodup) :
    more.foldl (fun out entry => insert entry.1 entry.2 out) entries = entries ++ more := by
  induction more generalizing entries with
  | nil => exact (List.append_nil entries).symm
  | cons entry rest ih =>
      have hnew : entry.1 ∉ names entries := by
        intro hm
        unfold names at h hm
        rw [List.map_append, List.nodup_append] at h
        exact h.2.2 _ hm _ (List.mem_cons_self ..) rfl
      rw [List.append_cons] at h ⊢
      rw [List.foldl_cons, insert_of_notMem entry.2 hnew, ih h]

/-- An entry after a write is the one written or one that was there. -/
theorem mem_insert {entry : String × α} (h : entry ∈ insert name value entries) :
    entry.2 = value ∨ entry ∈ entries := by
  induction entries with
  | nil =>
      obtain rfl := List.mem_singleton.mp h
      exact .inl rfl
  | cons first rest ih =>
      obtain ⟨key, old⟩ := first
      unfold insert at h
      split_ifs at h
      · rcases List.mem_cons.mp h with rfl | hm
        · exact .inl rfl
        · exact .inr (List.mem_cons_of_mem _ hm)
      · rcases List.mem_cons.mp h with rfl | hm
        · exact .inr (List.mem_cons_self ..)
        · exact (ih hm).imp_right (List.mem_cons_of_mem _)

theorem mem_of_get? (h : get? name entries = some value) : (name, value) ∈ entries := by
  induction entries with
  | nil => exact nomatch h
  | cons entry rest ih =>
      obtain ⟨key, old⟩ := entry
      unfold get? at h
      split_ifs at h with hkey
      · obtain rfl := Option.some.inj h
        exact hkey ▸ List.mem_cons_self ..
      · exact List.mem_cons_of_mem _ (ih h)

/-! ## Erasing -/

theorem names_erase : names (erase name entries) = (names entries).erase name := by
  induction entries with
  | nil => rfl
  | cons entry rest ih =>
      obtain ⟨key, old⟩ := entry
      by_cases hkey : key = name
      · simp [erase, names, hkey]
      · simpa [erase, names, hkey, List.erase_cons_tail] using ih

theorem erase_of_notMem (h : name ∉ names entries) : erase name entries = entries := by
  induction entries with
  | nil => rfl
  | cons entry rest ih =>
      obtain ⟨key, old⟩ := entry
      obtain ⟨hkey, hrest⟩ : name ≠ key ∧ name ∉ names rest := by simpa [names] using h
      simp [erase, hkey.symm, ih hrest]

/-- Erasing takes entries out and adds none. -/
theorem erase_sublist (name : String) (entries : List (String × α)) :
    (erase name entries).Sublist entries := by
  induction entries with
  | nil => exact .slnil
  | cons entry rest ih =>
      obtain ⟨key, old⟩ := entry
      by_cases hkey : key = name
      · simp [erase, hkey]
      · simpa [erase, hkey] using ih

theorem get?_erase_of_ne (h : other ≠ name) : get? other (erase name entries) = get? other entries := by
  induction entries with
  | nil => rfl
  | cons entry rest ih =>
      obtain ⟨key, old⟩ := entry
      by_cases hkey : key = name
      · subst hkey
        simp [erase, get?, Ne.symm h]
      · simp only [erase, hkey, if_false, get?, ih]

/-- What is named only once is gone after it is erased. -/
theorem get?_erase_self (h : (names entries).Nodup) : get? name (erase name entries) = none := by
  rw [get?_eq_none_iff, names_erase]
  exact h.not_mem_erase

/-! ## Two names -/

/-- An erasure and a write of different names may change places. -/
theorem erase_insert_of_ne (h : name ≠ other) (value : α) (entries : List (String × α)) :
    erase name (insert other value entries) = insert other value (erase name entries) := by
  induction entries with
  | nil => simp [insert, erase, h.symm]
  | cons entry rest ih =>
      obtain ⟨key, first⟩ := entry
      by_cases hname : key = name
      · simp [insert, erase, hname, h]
      · by_cases hother : key = other
        · simp [insert, erase, hother, h.symm]
        · simp [insert, erase, hname, hother, ih]

theorem erase_erase (name other : String) (entries : List (String × α)) :
    erase name (erase other entries) = erase other (erase name entries) := by
  induction entries with
  | nil => rfl
  | cons entry rest ih =>
      obtain ⟨key, first⟩ := entry
      by_cases hname : key = name
      · subst hname
        by_cases hother : key = other
        · rw [hother]
        · simp [erase, hother]
      · by_cases hother : key = other
        · subst hother
          simp [erase, hname]
        · simp [erase, hname, hother, ih]

/-! ## Assigning -/

/-- Writes a value under a name, or takes out the entry of the name. -/
def assign (name : String) : Option α → List (String × α) → List (String × α)
  | some value, entries => insert name value entries
  | none, entries => erase name entries

variable {held change : Option α}

theorem get?_assign_of_ne (h : other ≠ name) (held : Option α) (entries : List (String × α)) :
    get? other (assign name held entries) = get? other entries := by
  cases held with
  | none => exact get?_erase_of_ne h
  | some value => exact get?_insert_of_ne h value entries

/-- What is assigned is there. Only to take a name out it must not be named twice. -/
theorem get?_assign_self (h : held = none → (names entries).Nodup) :
    get? name (assign name held entries) = held := by
  cases held with
  | none => exact get?_erase_self (h rfl)
  | some value => exact get?_insert_self name value entries

/-- Assigning what is there changes nothing. -/
theorem assign_of_get? (h : get? name entries = held) : assign name held entries = entries := by
  cases held with
  | none => exact erase_of_notMem (get?_eq_none_iff.mp h)
  | some value => exact insert_of_get? h

theorem nodup_names_assign (held : Option α) (h : (names entries).Nodup) :
    (names (assign name held entries)).Nodup := by
  cases held with
  | none =>
      show (names (erase name entries)).Nodup
      rw [names_erase]
      exact h.erase name
  | some value => exact nodup_names_insert value h

/-- Of two assignments under one name the later one counts, where neither takes out what was there. -/
theorem assign_assign (hheld : held = none → get? name entries = none)
    (hchange : change = none → held = none) :
    assign name change (assign name held entries) = assign name change entries := by
  cases held with
  | none => rw [assign_of_get? (hheld rfl)]
  | some value =>
      cases change with
      | none => exact nomatch hchange rfl
      | some later => exact insert_insert later value entries

theorem erase_assign_of_ne (h : name ≠ other) (change : Option α) (entries : List (String × α)) :
    erase name (assign other change entries) = assign other change (erase name entries) := by
  cases change with
  | none => exact erase_erase name other entries
  | some later => exact erase_insert_of_ne h later entries

/-- An assignment takes an entry out and puts one in, or none. -/
theorem assign_perm (name : String) (held : Option α) (entries : List (String × α)) :
    (assign name held entries).Perm ((held.map (name, ·)).toList ++ erase name entries) := by
  cases held with
  | none => exact .refl _
  | some value =>
      show (insert name value entries).Perm ((name, value) :: erase name entries)
      induction entries with
      | nil => exact .refl _
      | cons entry rest ih =>
          obtain ⟨key, first⟩ := entry
          by_cases hkey : key = name
          · simp [insert, erase, hkey]
          · simpa [insert, erase, hkey] using (ih.cons (key, first)).trans (.swap _ _ _)

/-- Assignments under two names come to the same entries, in one order or another. -/
theorem assign_assign_perm (h : name ≠ other) (held change : Option α) (entries : List (String × α)) :
    (assign name held (assign other change entries)).Perm
      (assign other change (assign name held entries)) := by
  -- either way two entries are taken out and two put in front of what is left
  have hleft := (assign_perm name held (assign other change entries)).trans
    (.append_left _ (.trans (.of_eq (erase_assign_of_ne h change entries)) (assign_perm other change _)))
  have hright := (assign_perm other change (assign name held entries)).trans
    (.append_left _ (.trans (.of_eq (erase_assign_of_ne h.symm held entries)) (assign_perm name held _)))
  refine hleft.trans (.trans ?_ hright.symm)
  rw [erase_erase other name, ← List.append_assoc, ← List.append_assoc]
  exact List.perm_append_comm.append_right _

/-! ## The order of first places -/

variable [DecidableEq α] {xs ys : List α} {y : α}

/-- Items in the order of their first places in a list stay so when the list grows. -/
theorem pairwise_idxOf_append (zs : List α) (hmem : ∀ x ∈ xs, x ∈ ys)
    (h : xs.Pairwise fun a b => ys.idxOf a < ys.idxOf b) :
    xs.Pairwise fun a b => (ys ++ zs).idxOf a < (ys ++ zs).idxOf b := by
  refine h.imp_of_mem fun {a b} ha hb hab => ?_
  rwa [List.idxOf_append_of_mem (hmem a ha), List.idxOf_append_of_mem (hmem b hb)]

/-- An item that is new to the list comes after all that were there. -/
theorem pairwise_idxOf_concat (hmem : ∀ x ∈ xs, x ∈ ys) (hnew : y ∉ ys)
    (h : xs.Pairwise fun a b => ys.idxOf a < ys.idxOf b) :
    (xs ++ [y]).Pairwise fun a b => (ys ++ [y]).idxOf a < (ys ++ [y]).idxOf b := by
  refine List.pairwise_append.mpr
    ⟨pairwise_idxOf_append [y] hmem h, List.pairwise_singleton _ _, fun x hx last hlast => ?_⟩
  obtain rfl := List.mem_singleton.mp hlast
  have hlt : ys.idxOf x < ys.length := List.idxOf_lt_length_of_mem (hmem x hx)
  rw [List.idxOf_append_of_mem (hmem x hx), List.idxOf_append_of_notMem hnew]
  omega

end Docstore.Entries
