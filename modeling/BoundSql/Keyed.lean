/-! Entries kept in the order in which their keys were first written. Writing a key again replaces
its value in place. -/
namespace BoundSql.Keyed

variable {α : Type}

def keys (entries : List (String × α)) : List String := entries.map Prod.fst

def get? (key : String) : List (String × α) → Option α
  | [] => none
  | (k, v) :: rest => if k = key then some v else get? key rest

def put (key : String) (value : α) : List (String × α) → List (String × α)
  | [] => [(key, value)]
  | (k, v) :: rest => if k = key then (k, value) :: rest else (k, v) :: put key value rest

/-- All writes of a list, from the first to the last. -/
def ofWrites (writes : List (String × α)) : List (String × α) :=
  writes.foldl (fun entries (key, value) => put key value entries) []

theorem keys_put (key : String) (value : α) (entries : List (String × α)) :
    keys (put key value entries) =
      if key ∈ keys entries then keys entries else keys entries ++ [key] := by
  induction entries with
  | nil => simp [put, keys]
  | cons e rest ih =>
    obtain ⟨k, v⟩ := e
    by_cases same : k = key
    · simp [put, keys, same]
    · have other : key ≠ k := fun h => same h.symm
      simp only [put, same, if_false]
      simp only [keys, List.map_cons, List.mem_cons, other, false_or] at ih ⊢
      rw [ih]
      split <;> simp_all

theorem nodup_keys_put {key : String} {value : α} {entries : List (String × α)}
    (distinct : (keys entries).Nodup) : (keys (put key value entries)).Nodup := by
  rw [keys_put]
  split
  · exact distinct
  · next new =>
    rw [List.nodup_append]
    refine ⟨distinct, by simp, ?_⟩
    intro a old b here same
    rw [List.mem_singleton.mp here] at same
    exact new (same ▸ old)

theorem nodup_keys_ofWrites (writes : List (String × α)) : (keys (ofWrites writes)).Nodup := by
  suffices h : ∀ (writes entries : List (String × α)), (keys entries).Nodup →
      (keys (writes.foldl (fun entries (key, value) => put key value entries) entries)).Nodup from
    h writes [] List.nodup_nil
  intro writes
  induction writes with
  | nil => exact fun _ distinct => distinct
  | cons w rest ih => exact fun entries distinct => ih _ (nodup_keys_put distinct)

@[simp] theorem get?_put_same (key : String) (value : α) (entries : List (String × α)) :
    get? key (put key value entries) = some value := by
  induction entries with
  | nil => simp [put, get?]
  | cons e rest ih =>
    obtain ⟨k, v⟩ := e
    by_cases same : k = key <;> simp [put, get?, same, ih]

theorem get?_put_other {key other : String} (value : α) (entries : List (String × α))
    (h : other ≠ key) : get? other (put key value entries) = get? other entries := by
  have h' : key ≠ other := fun e => h e.symm
  induction entries with
  | nil => simp [put, get?, h']
  | cons e rest ih =>
    obtain ⟨k, v⟩ := e
    by_cases same : k = key
    · subst same; simp [put, get?, h']
    · simp [put, get?, same, ih]

/-- The last write of a key decides. -/
theorem get?_ofWrites_last (before : List (String × α)) {key : String} (value : α)
    {after : List (String × α)} (last : key ∉ keys after) :
    get? key (ofWrites (before ++ (key, value) :: after)) = some value := by
  suffices h : ∀ entries : List (String × α), get? key
      (after.foldl (fun entries (key, value) => put key value entries) entries) =
        get? key entries by
    rw [ofWrites, List.foldl_append, List.foldl_cons, h, get?_put_same]
  induction after with
  | nil => exact fun _ => rfl
  | cons w rest ih =>
    simp only [keys, List.map_cons, List.mem_cons, not_or] at last
    exact fun entries => (ih last.2 _).trans (get?_put_other w.2 entries last.1)

theorem put_of_new {key : String} (value : α) {entries : List (String × α)}
    (new : key ∉ keys entries) : put key value entries = entries ++ [(key, value)] := by
  induction entries with
  | nil => rfl
  | cons e rest ih =>
    simp only [keys, List.map_cons, List.mem_cons, not_or] at new
    rw [put, if_neg (Ne.symm new.1), ih new.2, List.cons_append]

theorem ofWrites_of_distinct {writes : List (String × α)} (distinct : (keys writes).Nodup) :
    ofWrites writes = writes := by
  suffices h : ∀ writes entries : List (String × α), (keys (entries ++ writes)).Nodup →
      writes.foldl (fun entries (key, value) => put key value entries) entries =
        entries ++ writes from h writes [] distinct
  intro writes
  induction writes with
  | nil => exact fun entries _ => (List.append_nil entries).symm
  | cons w rest ih =>
    obtain ⟨key, value⟩ := w
    intro entries distinct
    have new : key ∉ keys entries := by
      rw [keys, List.map_append, List.nodup_append] at distinct
      exact fun old => distinct.2.2 _ old key (by simp) rfl
    have moved : entries ++ (key, value) :: rest = entries ++ [(key, value)] ++ rest := by simp
    rw [moved] at distinct ⊢
    simp only [List.foldl_cons, put_of_new value new]
    exact ih _ distinct

section Map

variable {β : Type} (f : α → β)

theorem keys_map (entries : List (String × α)) :
    keys (entries.map fun (key, value) => (key, f value)) = keys entries := by
  simp [keys, Function.comp_def]

theorem get?_map (key : String) (entries : List (String × α)) :
    get? key (entries.map fun (key, value) => (key, f value)) = (get? key entries).map f := by
  induction entries with
  | nil => rfl
  | cons e rest ih =>
    obtain ⟨k, v⟩ := e
    simp only [List.map_cons, get?, ih]
    split <;> rfl

end Map

end BoundSql.Keyed
