import Mathlib.Data.String.Basic
import SqlLineage.Catalog

/-! A catalog is a finite map whose names stand in ascending order, each once; it is known by what
is found under each name. -/

namespace SqlLineage.Catalog

variable {α β : Type}

theorem find?_cons (name key : String) (value : α) (rest : Catalog α) :
    find? ((name, value) :: rest) key = if key = name then some value else rest.find? key := by
  rw [find?, List.lookup_cons]
  cases hk : key == name with
  | true => rw [if_pos (beq_iff_eq.1 hk)]
  | false => rw [if_neg (beq_eq_false_iff_ne.1 hk), find?]

theorem find?_insert (catalog : Catalog α) (name key : String) (value : α) :
    (catalog.insert name value).find? key =
      if key = name then some value else catalog.find? key := by
  induction catalog with
  | nil => exact find?_cons name key value []
  | cons entry rest ih =>
    obtain ⟨n, v⟩ := entry
    by_cases hlt : name < n
    · rw [insert, if_pos hlt, find?_cons]
    · by_cases heq : name = n
      · subst heq
        rw [insert, if_neg hlt, if_pos rfl, find?_cons, find?_cons]
        split_ifs <;> rfl
      · rw [insert, if_neg hlt, if_neg heq, find?_cons, find?_cons, ih]
        by_cases hk : key = name
        · subst hk
          rw [if_neg heq]
          simp
        · simp only [if_neg hk]

theorem mem_names_insert (catalog : Catalog α) (name key : String) (value : α) :
    key ∈ (catalog.insert name value).names ↔ key = name ∨ key ∈ catalog.names := by
  induction catalog with
  | nil => simp [insert, names]
  | cons entry rest ih =>
    obtain ⟨n, v⟩ := entry
    simp only [names] at ih
    rw [insert]
    split_ifs with hlt heq
    · simp [names]
    · simp [names, heq]
    · simp only [names, List.map_cons, List.mem_cons, ih]
      exact or_left_comm

theorem mem_names_iff_find? (catalog : Catalog α) (name : String) :
    name ∈ catalog.names ↔ ∃ value, catalog.find? name = some value := by
  induction catalog with
  | nil => simp [names, find?]
  | cons entry rest ih =>
    obtain ⟨n, v⟩ := entry
    rw [names] at ih
    rw [find?_cons, names, List.map_cons, List.mem_cons]
    by_cases hn : name = n
    · simp [hn]
    · simpa only [hn, false_or, if_false] using ih

theorem filter_insert (catalog : Catalog α) (name : String) (value : α) :
    (catalog.insert name value).filter (fun e => e.1 != name) =
      catalog.filter fun e => e.1 != name := by
  have hdrop : ∀ (v : α) (rest : Catalog α),
      List.filter (fun e => e.1 != name) ((name, v) :: rest) =
        rest.filter fun e => e.1 != name := by simp
  induction catalog with
  | nil => exact hdrop value []
  | cons entry rest ih =>
    obtain ⟨n, v⟩ := entry
    rw [insert]
    split_ifs with hlt heq
    · exact hdrop value _
    · subst heq
      rw [hdrop, hdrop]
    · rw [List.filter_cons, List.filter_cons, ih]

/-- The names are in order, each once. -/
def Sorted (catalog : Catalog α) : Prop := catalog.names.Pairwise (· < ·)

theorem sorted_nil : Sorted ([] : Catalog α) := List.Pairwise.nil

theorem Sorted.insert {catalog : Catalog α} (h : catalog.Sorted) (name : String) (value : α) :
    Sorted (catalog.insert name value) := by
  induction catalog with
  | nil => exact List.pairwise_singleton _ _
  | cons entry rest ih =>
    obtain ⟨n, v⟩ := entry
    obtain ⟨hfirst, hrest⟩ := List.pairwise_cons.1 h
    rw [Catalog.insert]
    split_ifs with hlt heq
    · refine List.pairwise_cons.2 ⟨fun m hm => ?_, h⟩
      rcases List.mem_cons.1 hm with rfl | hm
      · exact hlt
      · exact hlt.trans (hfirst m hm)
    · subst heq
      exact h
    · refine List.pairwise_cons.2 ⟨fun m hm => ?_, ih hrest⟩
      rcases (mem_names_insert rest name m value).1 hm with rfl | hm
      · exact lt_of_le_of_ne (not_lt.1 hlt) (Ne.symm heq)
      · exact hfirst m hm

theorem find?_foldl_insert (entries : List (String × α)) (catalog : Catalog α) (name : String) :
    find? (entries.foldl (fun catalog e => catalog.insert e.1 e.2) catalog) name =
      (List.lookup name entries.reverse).or (catalog.find? name) := by
  induction entries generalizing catalog with
  | nil => rfl
  | cons e entries ih =>
    rw [List.foldl_cons, ih, find?_insert, List.reverse_cons, List.lookup_append, List.lookup_cons]
    cases List.lookup name entries.reverse with
    | some value => rfl
    | none =>
      by_cases hname : name = e.1
      · simp [hname]
      · simp [hname, beq_eq_false_iff_ne.2 hname]

theorem find?_ofList (entries : List (String × α)) (name : String) :
    (ofList entries).find? name = List.lookup name entries.reverse := by
  rw [ofList, find?_foldl_insert]
  exact Option.or_none

theorem mem_of_mem_insert {catalog : Catalog α} {name : String} {value : α} {e : String × α}
    (h : e ∈ catalog.insert name value) : e = (name, value) ∨ e ∈ catalog := by
  induction catalog with
  | nil => exact .inl (List.mem_singleton.1 h)
  | cons entry rest ih =>
    rw [insert] at h
    split_ifs at h with hlt heq
    · exact List.mem_cons.1 h
    · exact (List.mem_cons.1 h).imp_right (List.mem_cons_of_mem _)
    · rcases List.mem_cons.1 h with rfl | h
      · exact .inr List.mem_cons_self
      · exact (ih h).imp_right (List.mem_cons_of_mem _)

theorem mem_of_mem_ofList {entries : List (String × α)} {e : String × α}
    (h : e ∈ ofList entries) : e ∈ entries := by
  have key : ∀ (entries : List (String × α)) (catalog : Catalog α),
      e ∈ entries.foldl (fun catalog e => catalog.insert e.1 e.2) catalog →
        e ∈ catalog ∨ e ∈ entries := by
    intro entries
    induction entries with
    | nil => exact fun catalog h => .inl h
    | cons e' entries ih =>
      intro catalog h
      rcases ih _ h with h | h
      · rcases mem_of_mem_insert h with rfl | h
        · exact .inr List.mem_cons_self
        · exact .inl h
      · exact .inr (List.mem_cons_of_mem _ h)
  exact (key entries [] h).resolve_left List.not_mem_nil

theorem insert_of_last {catalog : Catalog α} {name : String} (value : α)
    (h : ∀ n ∈ catalog.names, n < name) :
    catalog.insert name value = catalog ++ [(name, value)] := by
  induction catalog with
  | nil => rfl
  | cons entry rest ih =>
    obtain ⟨hfirst, hrest⟩ := List.forall_mem_cons.1 h
    rw [insert, if_neg hfirst.asymm, if_neg hfirst.ne', ih hrest, List.cons_append]

theorem Sorted.ofList_eq {entries : Catalog α} (h : entries.Sorted) : ofList entries = entries := by
  have key : ∀ (entries catalog : Catalog α), Sorted (catalog ++ entries) →
      entries.foldl (fun catalog e => catalog.insert e.1 e.2) catalog = catalog ++ entries := by
    intro entries
    induction entries with
    | nil => exact fun catalog _ => (List.append_nil catalog).symm
    | cons e entries ih =>
      intro catalog h
      have hlast : ∀ n ∈ catalog.names, n < e.1 := by
        intro n hn
        rw [Sorted, names, List.map_append, List.pairwise_append] at h
        exact h.2.2 n hn e.1 (by simp)
      rw [List.foldl_cons, insert_of_last e.2 hlast, ih, List.append_assoc]
      · rfl
      · rwa [List.append_assoc]
  exact key entries [] h

theorem Sorted.mem_iff_find? {catalog : Catalog α} (h : catalog.Sorted) (name : String)
    (value : α) : (name, value) ∈ catalog ↔ catalog.find? name = some value := by
  induction catalog with
  | nil => simp [find?]
  | cons entry rest ih =>
    obtain ⟨n, v⟩ := entry
    obtain ⟨hfirst, hrest⟩ := List.pairwise_cons.1 h
    rw [find?_cons, List.mem_cons, Prod.mk.injEq]
    by_cases hn : name = n
    · subst hn
      have hnot : (name, value) ∉ rest := fun hmem =>
        lt_irrefl name (hfirst name (List.mem_map_of_mem (f := Prod.fst) hmem))
      simp [hnot, eq_comm]
    · simpa only [hn, false_and, false_or, if_false] using ih hrest

theorem Sorted.ext {catalog catalog' : Catalog α} (h : catalog.Sorted) (h' : catalog'.Sorted)
    (hfind : ∀ name, catalog.find? name = catalog'.find? name) : catalog = catalog' := by
  have hlt : ∀ {c : Catalog α}, c.Sorted → c.Pairwise fun e e' => e.1 < e'.1 :=
    fun hc => List.pairwise_map.1 hc
  have hnodup : ∀ {c : Catalog α}, c.Sorted → c.Nodup := fun hc =>
    (hlt hc).imp fun {e e'} hab (he : e = e') => lt_irrefl e'.1 (he ▸ hab)
  refine List.Perm.eq_of_pairwise ?_ (hlt h) (hlt h') ?_
  · intro e e' _ _ hab hba
    exact absurd hab hba.asymm
  · refine (List.perm_ext_iff_of_nodup (hnodup h) (hnodup h')).2 ?_
    rintro ⟨name, value⟩
    rw [h.mem_iff_find?, h'.mem_iff_find?, hfind]

/-- What `f` says of each value. -/
def summary (f : α → β) (catalog : Catalog α) : Catalog β := catalog.map fun e => (e.1, f e.2)

theorem names_summary (f : α → β) (catalog : Catalog α) :
    (summary f catalog).names = catalog.names := by
  simp only [summary, names, List.map_map, Function.comp_def]

theorem values_summary (f : α → β) (catalog : Catalog α) :
    (summary f catalog).values = catalog.values.map f := by
  simp only [summary, values, List.map_map, Function.comp_def]

theorem find?_summary (f : α → β) (catalog : Catalog α) (name : String) :
    (summary f catalog).find? name = (catalog.find? name).map f := by
  induction catalog with
  | nil => rfl
  | cons entry rest ih =>
    obtain ⟨n, v⟩ := entry
    rw [summary] at ih
    rw [summary, List.map_cons, find?_cons, find?_cons, ih]
    split_ifs <;> rfl

theorem Sorted.summary {catalog : Catalog α} (h : catalog.Sorted) (f : α → β) :
    Sorted (summary f catalog) := by
  rw [Sorted, names_summary]
  exact h

end SqlLineage.Catalog
