/-!
Tables: values by name, every name at most once. An entry list in which names may occur again is read
with `List.lookup`.
-/
namespace ShapeFlow.Entries

def put {α : Type} (name : String) (a : α) : List (String × α) → List (String × α)
  | [] => [(name, a)]
  | (n, b) :: rest => if n = name then (name, a) :: rest else (n, b) :: put name a rest

theorem lookup_put_self {α : Type} (name : String) (a : α) (t : List (String × α)) :
    (put name a t).lookup name = some a := by
  induction t with
  | nil => simp [put]
  | cons p rest ih =>
    obtain ⟨n, b⟩ := p
    by_cases h : n = name
    · simp [put, h]
    · have h' : (name == n) = false := by simpa using fun e => h e.symm
      simp [put, h, List.lookup_cons, h', ih]

theorem lookup_put_of_ne {α : Type} {name other : String} (a : α) (t : List (String × α))
    (ne : other ≠ name) : (put name a t).lookup other = t.lookup other := by
  induction t with
  | nil =>
    have h : (other == name) = false := by simpa using ne
    simp [put, List.lookup_cons, h]
  | cons p rest ih =>
    obtain ⟨n, b⟩ := p
    by_cases h : n = name
    · have h' : (other == name) = false := by simpa using ne
      simp [put, h, List.lookup_cons, h']
    · by_cases k : other = n
      · simp [put, h, k]
      · have k' : (other == n) = false := by simpa using k
        simp [put, h, List.lookup_cons, k', ih]

theorem put_of_absent {α : Type} {name : String} (a : α) (t : List (String × α))
    (absent : name ∉ t.map Prod.fst) : put name a t = t ++ [(name, a)] := by
  induction t with
  | nil => rfl
  | cons p rest ih =>
    obtain ⟨n, b⟩ := p
    rw [List.map_cons, List.mem_cons, not_or] at absent
    have ne : n ≠ name := fun e => absent.1 e.symm
    rw [put, if_neg ne, ih absent.2, List.cons_append]

theorem put_names {α : Type} {name : String} (a : α) {t : List (String × α)}
    (present : name ∈ t.map Prod.fst) : (put name a t).map Prod.fst = t.map Prod.fst := by
  induction t with
  | nil => simp at present
  | cons p rest ih =>
    obtain ⟨n, b⟩ := p
    by_cases h : n = name
    · simp [put, h]
    · have later : name ∈ rest.map Prod.fst := by simpa [Ne.symm h] using present
      rw [put, if_neg h, List.map_cons, ih later, List.map_cons]

theorem put_nodup {α : Type} (name : String) (a : α) {t : List (String × α)}
    (distinct : (t.map Prod.fst).Nodup) : ((put name a t).map Prod.fst).Nodup := by
  by_cases present : name ∈ t.map Prod.fst
  · rwa [put_names a present]
  · rw [put_of_absent a t present, List.map_append, List.nodup_append]
    refine ⟨distinct, by simp, ?_⟩
    intro n old m new same
    simp only [List.map_cons, List.map_nil, List.mem_singleton] at new
    exact present (new ▸ same ▸ old)

theorem lookup_middle_self {α : Type} (name : String) (a : α) (before after : List (String × α)) :
    (before ++ (name, a) :: after).lookup name = (before.lookup name).or (some a) := by
  rw [List.lookup_append, List.lookup_cons_self]

theorem lookup_middle_of_ne {α : Type} {name other : String} (a : α)
    (before after : List (String × α)) (ne : other ≠ name) :
    (before ++ (name, a) :: after).lookup other = (before ++ after).lookup other := by
  have h : (other == name) = false := by simpa using ne
  rw [List.lookup_append, List.lookup_append, List.lookup_cons, h]

theorem isSome_lookup {κ α : Type} [BEq κ] [LawfulBEq κ] {name : κ} {t : List (κ × α)} :
    (t.lookup name).isSome ↔ name ∈ t.map Prod.fst := by
  rw [List.lookup_isSome_iff, List.mem_map]
  constructor
  · intro ⟨p, mem, same⟩
    exact ⟨p, mem, (beq_iff_eq.mp same).symm⟩
  · intro ⟨p, mem, same⟩
    exact ⟨p, mem, beq_iff_eq.mpr same.symm⟩

theorem lookup_eq_some_iff {α : Type} {name : String} {a : α} {t : List (String × α)}
    (distinct : (t.map Prod.fst).Nodup) : t.lookup name = some a ↔ (name, a) ∈ t := by
  induction t with
  | nil => simp
  | cons p rest ih =>
    obtain ⟨n, b⟩ := p
    rw [List.map_cons, List.nodup_cons] at distinct
    by_cases h : name = n
    · subst h
      have absent : (name, a) ∉ rest := by
        intro mem
        exact distinct.1 (List.mem_map.mpr ⟨(name, a), mem, rfl⟩)
      simp [absent, eq_comm]
    · have h' : (name == n) = false := by simpa using h
      simp [List.lookup_cons, h, h', ih distinct.2]

end ShapeFlow.Entries

namespace ShapeFlow

/-- Values by name, in the order in which the names were first given. -/
structure Table (α : Type) where
  entries : List (String × α)
  distinct : (entries.map Prod.fst).Nodup
  deriving DecidableEq

namespace Table
variable {α β : Type} {name other : String} {a : α} {t : Table α}

def empty : Table α := ⟨[], List.nodup_nil⟩

def names (t : Table α) : List String := t.entries.map Prod.fst

def lookup (t : Table α) (name : String) : Option α := t.entries.lookup name

def put (t : Table α) (name : String) (a : α) : Table α :=
  ⟨Entries.put name a t.entries, Entries.put_nodup name a t.distinct⟩

theorem lookup_put_self : (t.put name a).lookup name = some a :=
  Entries.lookup_put_self name a t.entries

theorem lookup_put_of_ne (ne : other ≠ name) : (t.put name a).lookup other = t.lookup other :=
  Entries.lookup_put_of_ne a t.entries ne

theorem lookup_eq_some_iff : t.lookup name = some a ↔ (name, a) ∈ t.entries :=
  Entries.lookup_eq_some_iff t.distinct

end Table
end ShapeFlow
