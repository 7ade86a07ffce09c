/-! Entries under keys. The entry of a key is replaced where it stands; a new one goes to
the end. -/
namespace AdTemplates.Entries
variable {κ ν : Type}

theorem lookup_eq_none [BEq κ] [LawfulBEq κ] {key : κ} {entries : List (κ × ν)}
    (h : key ∉ entries.map Prod.fst) : entries.lookup key = none :=
  List.lookup_eq_none_iff.mpr fun e he =>
    bne_iff_ne.mpr fun heq => h (List.mem_map.mpr ⟨e, he, heq.symm⟩)

theorem mem_of_lookup [BEq κ] [LawfulBEq κ] {key : κ} {v : ν} {entries : List (κ × ν)}
    (h : entries.lookup key = some v) : (key, v) ∈ entries := by
  obtain ⟨before, after, rfl, -⟩ := List.lookup_eq_some_iff.mp h
  simp

theorem lookup_eq_some_of_mem [BEq κ] [LawfulBEq κ] {key : κ} {v : ν} {entries : List (κ × ν)}
    (hnodup : (entries.map Prod.fst).Nodup) (h : (key, v) ∈ entries) :
    entries.lookup key = some v := by
  obtain ⟨before, after, rfl⟩ := List.append_of_mem h
  refine List.lookup_eq_some_iff.mpr ⟨before, after, rfl, fun e he => bne_iff_ne.mpr ?_⟩
  rw [List.map_append, List.map_cons] at hnodup
  have hapart := (List.nodup_append.mp hnodup).2.2
  exact (hapart e.1 (List.mem_map_of_mem he) key List.mem_cons_self).symm

/-- Where no key occurs twice, the order of entries is of no account. -/
theorem lookup_perm [BEq κ] [LawfulBEq κ] {entries others : List (κ × ν)}
    (hperm : entries.Perm others) (hnodup : (others.map Prod.fst).Nodup) (key : κ) :
    entries.lookup key = others.lookup key := by
  have hnodup' : (entries.map Prod.fst).Nodup := (hperm.map _).nodup_iff.mpr hnodup
  refine Option.ext fun v => ⟨fun h => ?_, fun h => ?_⟩
  · exact lookup_eq_some_of_mem hnodup (hperm.mem_iff.mp (mem_of_lookup h))
  · exact lookup_eq_some_of_mem hnodup' (hperm.mem_iff.mpr (mem_of_lookup h))

/-- Where no key occurs twice, the last entry of a key is its only one. -/
theorem getLast?_filterMap [BEq κ] [LawfulBEq κ] [DecidableEq κ] {entries : List (κ × ν)}
    (h : (entries.map Prod.fst).Nodup) {μ : Type} (f : ν → μ) (key : κ) :
    (entries.filterMap fun e => if e.1 = key then some (f e.2) else none).getLast? =
      (entries.lookup key).map f := by
  induction entries with
  | nil => rfl
  | cons e more ih =>
    obtain ⟨other, v⟩ := e
    obtain ⟨hnew, hmore⟩ := List.nodup_cons.mp h
    by_cases hkey : other = key
    · subst hkey
      have hnone : more.lookup other = none := lookup_eq_none hnew
      have hlast := ih hmore
      rw [hnone, Option.map_none, List.getLast?_eq_none_iff] at hlast
      simp [hlast]
    · have hne : (key == other) = false := beq_eq_false_iff_ne.mpr (Ne.symm hkey)
      simp only [List.filterMap_cons, if_neg hkey, List.lookup_cons, hne]
      exact ih hmore

variable [DecidableEq κ]

/-- Replaces the entry of a key, or adds one. -/
def set (key : κ) (v : ν) : List (κ × ν) → List (κ × ν)
  | [] => [(key, v)]
  | (other, old) :: more => if other = key then (key, v) :: more else (other, old) :: set key v more

/-- A key that has been set holds the new entry, and every other key what it held. -/
theorem lookup_set [BEq κ] [LawfulBEq κ] (key other : κ) (v : ν) (entries : List (κ × ν)) :
    (set key v entries).lookup other = if other = key then some v else entries.lookup other := by
  induction entries with
  | nil =>
    by_cases h : other = key
    · simp [set, h]
    · have : (other == key) = false := by simp [h]
      simp [set, List.lookup_cons, h, this]
  | cons head more ih =>
    obtain ⟨k, old⟩ := head
    by_cases hk : k = key
    · subst hk
      by_cases h : other = k
      · simp [set, h]
      · have : (other == k) = false := by simp [h]
        simp [set, List.lookup_cons, h, this]
    · by_cases h : other = k
      · subst h
        simp [set, hk]
      · have : (other == k) = false := by simp [h]
        simp [set, hk, List.lookup_cons, this, ih]

@[simp] theorem set_set (key : κ) (first second : ν) (entries : List (κ × ν)) :
    set key second (set key first entries) = set key second entries := by
  induction entries with
  | nil => simp [set]
  | cons head more ih =>
    obtain ⟨other, old⟩ := head
    by_cases ho : other = key
    · simp [set, ho]
    · simp [set, ho, ih]

/-- A new entry stands where it stands, whatever it is. -/
theorem exists_set_eq (key : κ) (entries : List (κ × ν)) :
    ∃ before after, ∀ v, set key v entries = before ++ (key, v) :: after := by
  induction entries with
  | nil => exact ⟨[], [], fun v => rfl⟩
  | cons head more ih =>
    obtain ⟨other, old⟩ := head
    by_cases ho : other = key
    · exact ⟨[], more, fun v => by simp [set, ho]⟩
    · obtain ⟨before, after, hset⟩ := ih
      exact ⟨(other, old) :: before, after, fun v => by simp [set, ho, hset]⟩

theorem set_append (key : κ) (v : ν) (before after : List (κ × ν)) :
    set key v (before ++ after) =
      if key ∈ before.map Prod.fst then set key v before ++ after
      else before ++ set key v after := by
  induction before with
  | nil => simp
  | cons head more ih =>
    obtain ⟨other, old⟩ := head
    by_cases ho : other = key
    · simp [set, ho]
    · simp only [List.cons_append, set, if_neg ho, ih, List.map_cons, List.mem_cons, Ne.symm ho,
        false_or]
      split <;> rfl

/-- The keys stay in their order, and a new one comes last. -/
theorem keys_set (key : κ) (v : ν) (entries : List (κ × ν)) :
    (set key v entries).map Prod.fst =
      if key ∈ entries.map Prod.fst then entries.map Prod.fst
      else entries.map Prod.fst ++ [key] := by
  induction entries with
  | nil => simp [set]
  | cons head more ih =>
    obtain ⟨other, old⟩ := head
    by_cases ho : other = key
    · simp [set, ho]
    · simp only [set, if_neg ho, List.map_cons, ih, List.mem_cons, Ne.symm ho, false_or]
      split <;> rfl

theorem nodup_keys_set (key : κ) (v : ν) {entries : List (κ × ν)}
    (h : (entries.map Prod.fst).Nodup) : ((set key v entries).map Prod.fst).Nodup := by
  rw [keys_set]
  split
  · exact h
  · rename_i hnew
    have hapart : ∀ other ∈ entries.map Prod.fst, ∀ k ∈ [key], other ≠ k := by
      intro other ho k hk heq
      exact hnew (List.mem_singleton.mp hk ▸ heq ▸ ho)
    exact List.nodup_append.mpr ⟨h, by simp, hapart⟩

theorem forall_mem_set {p : κ × ν → Prop} {key : κ} {v : ν} {entries : List (κ × ν)}
    (h : ∀ e ∈ entries, p e) (hnew : p (key, v)) : ∀ e ∈ set key v entries, p e := by
  induction entries with
  | nil => simpa [set] using hnew
  | cons head more ih =>
    obtain ⟨other, old⟩ := head
    rw [List.forall_mem_cons] at h
    unfold set
    split
    · exact List.forall_mem_cons.mpr ⟨hnew, h.2⟩
    · exact List.forall_mem_cons.mpr ⟨h.1, ih h.2⟩

end AdTemplates.Entries
