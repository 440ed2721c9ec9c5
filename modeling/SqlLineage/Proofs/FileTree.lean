import SqlLineage.Files.Tree
import SqlLineage.Proofs.TextParts

/-! What writing does to the files of a tree. A path names one place, whether something is there or
not; directories are only added where nothing was; and writing files at a place changes the entries
of just these files. -/

namespace SqlLineage

namespace Path

/-- A name as a directory can have it. -/
def IsName (name : String) : Prop := name ≠ "" ∧ '/' ∉ name.toList

theorem components_append (path name : String) :
    components (path ++ "/" ++ name) = components path ++ components name := by
  have htext : (path ++ "/" ++ name).toList = path.toList ++ '/' :: name.toList := by
    rw [String.toList_append, String.toList_append, List.append_assoc]
    rfl
  rw [components, htext, Text.splitAtChar_append, List.map_append, List.filter_append]
  rfl

theorem components_slash (path : String) : components (path ++ "/") = components path := by
  have h := components_append path ""
  rw [String.append_empty, show components "" = [] from rfl, List.append_nil] at h
  exact h

theorem components_of_isName {name : String} (h : IsName name) :
    components name = if name = "." then [] else [name] := by
  rw [components, Text.splitAtChar_of_not_mem h.2, List.map_singleton, String.ofList_toList]
  by_cases hdot : name = "."
  · simp [hdot]
  · simp [hdot, h.1]

theorem components_join (path name : String) :
    components (join path name) = components path ++ components name := by
  unfold join
  split
  · rename_i hend
    rw [Bool.or_eq_true] at hend
    by_cases hempty : path = ""
    · rw [hempty, String.empty_append]
      rfl
    · have hslash : path.toList.getLast? = some '/' := by simpa [hempty] using hend
      obtain ⟨front, hfront⟩ := List.getLast?_eq_some_iff.1 hslash
      have hpath : path = String.ofList front ++ "/" := by
        rw [← String.toList_inj, String.toList_append, String.toList_ofList, hfront]
        rfl
      rw [hpath, components_append, components_slash]
  · exact components_append path name

theorem isName_of_mem_components {path name : String} (h : name ∈ components path) :
    IsName name := by
  obtain ⟨hmem, hkept⟩ := List.mem_filter.1 h
  obtain ⟨part, hpart, rfl⟩ := List.mem_map.1 hmem
  rw [Bool.and_eq_true] at hkept
  refine ⟨by simpa using hkept.1, ?_⟩
  rw [String.toList_ofList]
  exact Text.not_mem_of_mem_splitAtChar hpart

theorem isName_splitName {name : String} (h : IsName name) : IsName (splitName name).1 := by
  simp only [splitName]
  split
  · exact h
  · exact h
  · rename_i dot before hnot hdrop
    refine ⟨fun hempty => ?_, ?_⟩
    · have hbefore : before = [] := by simpa using congrArg String.toList hempty
      exact hnot hbefore
    · rw [String.toList_ofList, List.mem_reverse]
      intro hslash
      refine h.2 (List.mem_reverse.1 ((List.dropWhile_sublist (· != '.')).subset ?_))
      rw [hdrop]
      exact List.mem_cons_of_mem dot hslash

theorem mem_components_of_fileName? {path name : String} (h : fileName? path = some name) :
    name ∈ components path := by
  unfold fileName? at h
  split at h
  · cases h
  · exact List.mem_of_getLast? h

theorem isName_of_stem? {path stem : String} (h : stem? path = some stem) : IsName stem := by
  obtain ⟨name, hname, rfl⟩ := Option.map_eq_some_iff.1 h
  exact isName_splitName (isName_of_mem_components (mem_components_of_fileName? hname))

theorem exists_stem?_of_extension? {path extension : String}
    (h : extension? path = some extension) : ∃ stem, stem? path = some stem := by
  obtain ⟨name, hname, -⟩ := Option.bind_eq_some_iff.1 h
  exact ⟨(splitName name).1, by rw [stem?, hname, Option.map_some]⟩

end Path

namespace FileTree

variable {tree tree' : FileTree}

theorem origin_join {name : String} (h : Path.IsName name) (tree : FileTree) (dir : String) :
    tree.origin (Path.join dir name) = tree.origin dir := by
  have hhead : (Path.join dir name).toList.head? = some '/' ↔ dir.toList.head? = some '/' := by
    by_cases hempty : dir = ""
    · have hname : name.toList.head? ≠ some '/' := fun hslash => h.2 (List.mem_of_mem_head? hslash)
      simp [Path.join, hempty, hname]
    · have hne : dir.toList ≠ [] := by simpa using hempty
      obtain ⟨c, cs, hdir⟩ := List.exists_cons_of_ne_nil hne
      unfold Path.join
      split <;> simp [hdir]
  simp only [origin, isAbsolute, beq_iff_eq, hhead]

theorem place_join {name : String} (h : Path.IsName name) (tree : FileTree) (dir : String) :
    tree.place (Path.join dir name) =
      if name = "." then tree.place dir else Path.step (tree.place dir) name := by
  rw [place, place, origin_join h, Path.components_join, List.foldl_append,
    Path.components_of_isName h]
  by_cases hdot : name = "."
  · rw [if_pos hdot, if_pos hdot]
    rfl
  · rw [if_neg hdot, if_neg hdot]
    rfl

/-! ### Entries -/

theorem lookup_filter_ne {place other : List String} (h : other ≠ place)
    (entries : List (List String × Entry)) :
    (entries.filter fun entry => entry.1 != place).lookup other = entries.lookup other := by
  induction entries with
  | nil => rfl
  | cons entry entries ih =>
    by_cases hplace : entry.1 = place
    · rw [List.filter_cons_of_neg (by simpa using hplace), ih, List.lookup_cons,
        show (other == entry.1) = false by simpa [hplace] using h]
    · rw [List.filter_cons_of_pos (by simpa using hplace), List.lookup_cons, List.lookup_cons, ih]

theorem get?_of_ne_nil {place : List String} (h : place ≠ []) (tree : FileTree) :
    tree.get? place = tree.entries.lookup place := by
  rw [get?, if_neg (by simpa using h)]

theorem get?_put {place : List String} (hplace : place ≠ []) (tree : FileTree) (e : Entry)
    (other : List String) :
    (tree.put place e).get? other = if other = place then some e else tree.get? other := by
  by_cases hother : other = place
  · subst hother
    rw [if_pos rfl, get?_of_ne_nil hplace, put, List.lookup_cons, beq_self_eq_true]
  · rw [if_neg hother]
    by_cases hroot : other = []
    · rw [hroot]
      rfl
    · rw [get?_of_ne_nil hroot, get?_of_ne_nil hroot, put, List.lookup_cons,
        show (other == place) = false by simpa using hother]
      exact lookup_filter_ne hother tree.entries

structure Extends (tree tree' : FileTree) : Prop where
  cwd : tree'.cwd = tree.cwd
  entry : ∀ {place : List String} {e : Entry},
    tree.get? place = some e → tree'.get? place = some e

namespace Extends

theorem refl (tree : FileTree) : Extends tree tree := ⟨rfl, id⟩

theorem trans {tree'' : FileTree} (h : Extends tree tree') (h' : Extends tree' tree'') :
    Extends tree tree'' :=
  ⟨h'.cwd.trans h.cwd, fun hentry => h'.entry (h.entry hentry)⟩

theorem put {place : List String} (hplace : place ≠ []) (h : tree.get? place = none)
    (e : Entry) : Extends tree (tree.put place e) := by
  refine ⟨rfl, fun {other e'} hother => ?_⟩
  rw [get?_put hplace, if_neg]
  · exact hother
  · rintro rfl
    rw [h] at hother
    cases hother

end Extends

theorem place_congr (h : tree'.cwd = tree.cwd) (path : String) :
    tree'.place path = tree.place path := by
  rw [place, place, origin, origin, h]

/-! ### Making directories -/

theorem follow_ok {place place' : List String} {names : List String}
    (h : tree.follow place names = .ok place') : place' = names.foldl Path.step place := by
  induction names generalizing place with
  | nil => exact (Except.ok.inj h).symm
  | cons name names ih =>
    rw [follow] at h
    rw [List.foldl_cons, Path.step]
    split at h
    · cases h
    · split at h
      · rename_i hup
        rw [if_pos hup]
        exact ih h
      · rename_i hdown
        rw [if_neg hdown]
        split at h
        · cases h
        · exact ih h

theorem look_ok {path : String} {place : List String} {e : Entry}
    (h : tree.look path = .ok (place, e)) : place = tree.place path := by
  simp only [look] at h
  split at h
  · cases h
  · cases hfollow : tree.follow (tree.origin path) (Path.components path) with
    | error err =>
      rw [hfollow] at h
      cases h
    | ok place' =>
      rw [hfollow] at h
      have hplace : place = place' := by
        simp only [bind, Except.bind] at h
        split at h
        · cases h
        · split at h
          · cases h
          · exact (Prod.mk.inj (Except.ok.inj h)).1.symm
      rw [hplace]
      exact follow_ok hfollow

theorem makeAlong_ok {place place' : List String} {names : List String}
    (h : tree.makeAlong place names = .ok (tree', place')) :
    Extends tree tree' ∧ place' = names.foldl Path.step place := by
  induction names generalizing tree place with
  | nil =>
    obtain ⟨rfl, rfl⟩ := Prod.mk.inj (Except.ok.inj h)
    exact ⟨.refl tree, rfl⟩
  | cons name names ih =>
    rw [makeAlong] at h
    rw [List.foldl_cons, Path.step]
    split at h
    · rename_i hup
      rw [if_pos hup]
      exact ih h
    · rename_i hdown
      rw [if_neg hdown]
      simp only at h
      split at h
      · rename_i hnone
        obtain ⟨hextends, hplace⟩ := ih h
        exact ⟨(Extends.put (by simp) hnone .directory).trans hextends, hplace⟩
      · exact ih h
      · cases h

theorem makeDirectory_ok {path : String} {place : List String}
    (h : tree.makeDirectory path = .ok (tree', place)) :
    Extends tree tree' ∧ place = tree.place path := by
  simp only [makeDirectory] at h
  split at h
  · exact makeAlong_ok h
  · split at h
    · rename_i hlook
      obtain ⟨rfl, rfl⟩ := Prod.mk.inj (Except.ok.inj h)
      exact ⟨.refl tree, look_ok hlook⟩
    -- the directories on the way are made, and the path is followed again
    · cases hmake : tree.makeAlong (tree.origin path) (Path.components path).dropLast with
      | error err =>
        rw [hmake] at h
        cases h
      | ok made =>
        obtain ⟨made, on⟩ := made
        obtain ⟨hextends, -⟩ := makeAlong_ok hmake
        rw [hmake] at h
        cases hlook : made.look path with
        | error err =>
          simp only [bind, Except.bind, hlook] at h
          cases h
        | ok found =>
          simp only [bind, Except.bind, hlook] at h
          obtain ⟨rfl, rfl⟩ := Prod.mk.inj (Except.ok.inj h)
          exact ⟨hextends, (look_ok hlook).trans (place_congr hextends.cwd path)⟩
    · cases h

/-! ### Writing files -/

theorem writeAt_ok {place : List String} {files : List (String × String)}
    (h : tree.writeAt place files = (tree', .ok ())) :
    tree'.cwd = tree.cwd ∧
      (∀ other, (∀ file ∈ files, other ≠ place ++ [file.1]) →
        tree'.get? other = tree.get? other) ∧
      ((files.map Prod.fst).Nodup → ∀ file ∈ files,
        tree'.get? (place ++ [file.1]) = some (.text file.2)) := by
  induction files generalizing tree with
  | nil =>
    obtain ⟨rfl, -⟩ := Prod.mk.inj h
    exact ⟨rfl, fun _ _ => rfl, fun _ file hfile => absurd hfile List.not_mem_nil⟩
  | cons file files ih =>
    obtain ⟨name, content⟩ := file
    simp only [writeAt] at h
    split at h
    · cases (Prod.mk.inj h).2
    · obtain ⟨hcwd, hother, hfiles⟩ := ih h
      have htarget : place ++ [name] ≠ [] :=
        List.append_ne_nil_of_right_ne_nil _ (List.cons_ne_nil _ _)
      have hput := get?_put htarget tree (.text content)
      refine ⟨hcwd, fun other hne => ?_, fun hnodup file hfile => ?_⟩
      · rw [hother other fun file hfile => hne file (List.mem_cons_of_mem _ hfile), hput,
          if_neg (hne (name, content) List.mem_cons_self)]
      · rw [List.map_cons, List.nodup_cons] at hnodup
        rcases List.mem_cons.1 hfile with rfl | hfile
        · rw [hother, hput, if_pos rfl]
          intro file hfile heq
          have hname : name = file.1 := by simpa using heq
          exact hnodup.1 (List.mem_map.2 ⟨file, hfile, hname.symm⟩)
        · exact hfiles hnodup.2 file hfile

/-- Files that are written are there, and all else that was there stays, but for files of these
names at this place. -/
theorem writeAll_ok {path : String} {files : List (String × String)}
    (h : tree.writeAll path files = (tree', .ok ())) :
    tree'.cwd = tree.cwd ∧
      (∀ other e, tree.get? other = some e →
        (∀ file ∈ files, other ≠ tree.place path ++ [file.1]) → tree'.get? other = some e) ∧
      ((files.map Prod.fst).Nodup → ∀ file ∈ files,
        tree'.get? (tree.place path ++ [file.1]) = some (.text file.2)) := by
  rw [writeAll] at h
  split at h
  · cases (Prod.mk.inj h).2
  · rename_i made place hmake
    obtain ⟨hextends, rfl⟩ := makeDirectory_ok hmake
    obtain ⟨hcwd, hother, hfiles⟩ := writeAt_ok h
    refine ⟨hcwd.trans hextends.cwd, fun other e hentry hne => ?_, hfiles⟩
    rw [hother other hne]
    exact hextends.entry hentry

end FileTree
end SqlLineage
