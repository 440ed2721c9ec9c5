import SqlLineage.Proofs.FileTree
import SqlLineage.Proofs.RunFiles

/-! Where a run on several files puts what it exports. Each file has a directory that is named for
the file without its extension, so files whose names differ in nothing else share a directory, and
the last of them is what is left there. -/

namespace SqlLineage.Command

variable {tree tree' : FileTree}

/-! ### What is left of the exports -/

theorem writeExports_cons_ok {e : Export} {rest : List Export}
    (h : writeExports (e :: rest) tree = (.ok (), tree')) :
    ∃ mid, tree.writeAll e.target e.graph.exportFiles = (mid, .ok ()) ∧
      writeExports rest mid = (.ok (), tree') := by
  rw [writeExports] at h
  split at h
  · rename_i mid hwrite
    exact ⟨mid, hwrite, h⟩
  · cases h

theorem writeExports_keeps {written : List Export} {place : List String} {name : String}
    {entry : Entry} (h : writeExports written tree = (.ok (), tree'))
    (hentry : tree.get? (place ++ [name]) = some entry)
    (hother : ∀ e ∈ written, tree.place e.target ≠ place) :
    tree'.get? (place ++ [name]) = some entry := by
  induction written generalizing tree with
  | nil =>
    obtain ⟨-, rfl⟩ := Prod.mk.inj h
    exact hentry
  | cons e rest ih =>
    obtain ⟨mid, hwrite, hrest⟩ := writeExports_cons_ok h
    obtain ⟨hcwd, hkeeps, -⟩ := FileTree.writeAll_ok hwrite
    refine ih hrest (hkeeps _ _ hentry fun file _ heq => ?_) fun e' he' => ?_
    · exact hother e List.mem_cons_self (List.append_inj_left' heq rfl).symm
    · rw [FileTree.place_congr hcwd]
      exact hother e' (List.mem_cons_of_mem e he')

theorem writeExports_last {before after : List Export} {e : Export}
    (h : writeExports (before ++ e :: after) tree = (.ok (), tree'))
    (hlast : ∀ e' ∈ after, tree.place e'.target ≠ tree.place e.target) :
    ∀ file ∈ e.graph.exportFiles,
      tree'.get? (tree.place e.target ++ [file.1]) = some (.text file.2) := by
  intro file hfile
  -- no write changes where the run is, so all paths keep their places
  induction before generalizing tree with
  | nil =>
    obtain ⟨mid, hwrite, hrest⟩ := writeExports_cons_ok h
    obtain ⟨hcwd, -, hfiles⟩ := FileTree.writeAll_ok hwrite
    have hnames : (e.graph.exportFiles.map Prod.fst).Nodup := by
      change ["edges.json", "node_types.json", "stats.json"].Nodup
      decide
    refine writeExports_keeps hrest (hfiles hnames file hfile) fun e' he' => ?_
    rw [FileTree.place_congr hcwd]
    exact hlast e' he'
  | cons first before ih =>
    obtain ⟨mid, hwrite, hrest⟩ := writeExports_cons_ok h
    obtain ⟨hcwd, -, -⟩ := FileTree.writeAll_ok hwrite
    have hplace : ∀ path, mid.place path = tree.place path := FileTree.place_congr hcwd
    rw [← hplace]
    refine ih hrest fun e' he' => ?_
    rw [hplace, hplace]
    exact hlast e' he'

/-! ### Where the exports go -/

def Below (dir place : List String) : Prop := dir <+: place ∧ dir ≠ place

instance (dir place : List String) : Decidable (Below dir place) :=
  inferInstanceAs (Decidable (dir <+: place ∧ dir ≠ place))

theorem below_place_join_iff {name : String} (hname : Path.IsName name) (tree : FileTree)
    (dir : String) :
    Below (tree.place dir) (tree.place (Path.join dir name)) ↔ name ≠ "." ∧ name ≠ ".." := by
  rw [FileTree.place_join hname]
  by_cases hdot : name = "."
  · rw [if_pos hdot]
    exact ⟨fun h => absurd rfl h.2, fun h => absurd hdot h.1⟩
  · rw [if_neg hdot, Path.step]
    by_cases hup : name = ".."
    · rw [if_pos hup]
      refine ⟨fun h => ?_, fun h => absurd hup h.2⟩
      exact absurd (h.1.eq_of_length_le (List.dropLast_sublist _).length_le) h.2
    · rw [if_neg hup]
      refine ⟨fun _ => ⟨hdot, hup⟩, fun _ => ⟨List.prefix_append _ _, fun heq => ?_⟩⟩
      simp at heq

theorem place_join_inj {dir name name' : String} (hname : Path.IsName name)
    (hname' : Path.IsName name') (hdown : name ≠ "." ∧ name ≠ "..")
    (hdown' : name' ≠ "." ∧ name' ≠ "..")
    (h : tree.place (Path.join dir name) = tree.place (Path.join dir name')) : name = name' := by
  rw [FileTree.place_join hname, FileTree.place_join hname', if_neg hdown.1, if_neg hdown'.1,
    Path.step, Path.step, if_neg hdown.2, if_neg hdown'.2] at h
  simpa using h

theorem exists_stem?_of_mem_graphs {dialect : Dialect} {config : Config} {path file : String}
    {g : Graph} {outcomes : List FileLineage}
    (h : pathLineage tree dialect config path = .ok outcomes)
    (htwo : 2 ≤ (graphs outcomes).length) (hmem : (file, g) ∈ graphs outcomes) :
    ∃ stem, Path.stem? file = some stem := by
  obtain ⟨files, hfiles, rfl, -⟩ := pathLineage_ok h
  have hlength : (graphs (files.map fun file =>
      ⟨file, fileLineage tree dialect config file⟩)).length ≤ files.length := by
    rw [graphs_map]
    exact List.length_filterMap_le _ _
  rw [graphs_map] at hmem
  obtain ⟨file', hfile', hgraph⟩ := List.mem_filterMap.1 hmem
  obtain ⟨_, -, hpair⟩ := Option.map_eq_some_iff.1 hgraph
  obtain rfl : file' = file := (Prod.mk.inj hpair).1
  -- a path that names a file stands for that file alone, and is out of the question
  unfold inputFiles at hfiles
  split at hfiles
  · obtain rfl := Except.ok.inj hfiles
    rw [List.length_singleton] at hlength
    omega
  · split at hfiles
    · cases hfiles
    · split at hfiles
      · cases hfiles
      · obtain rfl := Except.ok.inj hfiles
        have haccepts : config.accepts file' = true :=
          (List.mem_filter.1 (List.mem_mergeSort.1 hfile')).2
        obtain ⟨extension, hextension, -⟩ := (Option.any_eq_true _ _).1 haccepts
        exact Path.exists_stem?_of_extension? hextension

theorem length_exports_le (options : ParseOptions) (dir : String)
    (results : List (String × Graph)) : (exports options dir results).length ≤ results.length := by
  have hle : (exports options dir results).length ≤ results.zipIdx.length :=
    List.length_filterMap_le _ _
  rwa [List.length_zipIdx] at hle

theorem exportDir_of_stem? {path stem : String} (h : Path.stem? path = some stem) (dir : String)
    (index : Nat) {total : Nat} (htotal : 2 ≤ total) :
    exportDir dir path index total = Path.join dir stem := by
  rw [exportDir, if_neg (by omega), h, Option.getD_some]

/-- The exports lie apart, each in a directory of its own below `dir`. -/
def Apart (tree : FileTree) (dir : String) (written : List Export) : Prop :=
  (∀ e ∈ written, Below (tree.place dir) (tree.place e.target)) ∧
    written.Pairwise fun e e' => tree.place e.target ≠ tree.place e'.target

instance (tree : FileTree) (dir : String) (written : List Export) :
    Decidable (Apart tree dir written) := inferInstanceAs (Decidable (_ ∧ _))

theorem Apart.ne_of_append {dir : String} {written before after : List Export} {e : Export}
    (h : Apart tree dir written) (hwritten : written = before ++ e :: after) :
    ∀ e' ∈ after, tree.place e'.target ≠ tree.place e.target := by
  intro e' he' heq
  have hpairs := h.2
  rw [hwritten] at hpairs
  exact List.rel_of_pairwise_cons (List.pairwise_append.1 hpairs).2.1 he' heq.symm

/-- The stems of the files differ, and each of them leads down. -/
def StemsDiffer (written : List Export) : Prop :=
  (∀ e ∈ written, Path.stem? e.path ≠ some "." ∧ Path.stem? e.path ≠ some "..") ∧
    written.Pairwise fun e e' => Path.stem? e.path ≠ Path.stem? e'.path

instance (written : List Export) : Decidable (StemsDiffer written) :=
  inferInstanceAs (Decidable (_ ∧ _))

section Several

variable {options : ParseOptions} {dialect : Dialect} {config : Config} {dir : String}
  {outcomes : List FileLineage} {e e' : Export}
  (h : pathLineage tree dialect config options.path = .ok outcomes)
  (htwo : 2 ≤ (exports options dir (graphs outcomes)).length)
include h htwo

theorem target_of_mem_exports (he : e ∈ exports options dir (graphs outcomes)) :
    ∃ stem, Path.stem? e.path = some stem ∧ e.target = Path.join dir stem := by
  have hresults : 2 ≤ (graphs outcomes).length := Nat.le_trans htwo (length_exports_le _ _ _)
  obtain ⟨⟨⟨path, g⟩, index⟩, hmem, hexport⟩ := List.mem_filterMap.1 he
  obtain ⟨shown, -, rfl⟩ := Option.map_eq_some_iff.1 hexport
  have hgraph : (path, g) ∈ graphs outcomes :=
    List.mem_of_getElem? (List.mk_mem_zipIdx_iff_getElem?.1 hmem)
  obtain ⟨stem, hstem⟩ := exists_stem?_of_mem_graphs h hresults hgraph
  exact ⟨stem, hstem, exportDir_of_stem? hstem dir index hresults⟩

theorem below_iff_of_mem_exports (he : e ∈ exports options dir (graphs outcomes)) :
    Below (tree.place dir) (tree.place e.target) ↔
      Path.stem? e.path ≠ some "." ∧ Path.stem? e.path ≠ some ".." := by
  obtain ⟨stem, hstem, htarget⟩ := target_of_mem_exports h htwo he
  rw [htarget, below_place_join_iff (Path.isName_of_stem? hstem), hstem]
  simp

theorem place_target_eq_iff (he : e ∈ exports options dir (graphs outcomes))
    (he' : e' ∈ exports options dir (graphs outcomes))
    (hdown : Path.stem? e.path ≠ some "." ∧ Path.stem? e.path ≠ some "..")
    (hdown' : Path.stem? e'.path ≠ some "." ∧ Path.stem? e'.path ≠ some "..") :
    tree.place e.target = tree.place e'.target ↔ Path.stem? e.path = Path.stem? e'.path := by
  obtain ⟨stem, hstem, htarget⟩ := target_of_mem_exports h htwo he
  obtain ⟨stem', hstem', htarget'⟩ := target_of_mem_exports h htwo he'
  rw [hstem] at hdown
  rw [hstem'] at hdown'
  rw [hstem, hstem', htarget, htarget', Option.some.injEq]
  constructor
  · exact place_join_inj (Path.isName_of_stem? hstem) (Path.isName_of_stem? hstem')
      (by simpa using hdown) (by simpa using hdown')
  · rintro rfl
    rfl

theorem apart_iff_stemsDiffer :
    Apart tree dir (exports options dir (graphs outcomes)) ↔
      StemsDiffer (exports options dir (graphs outcomes)) := by
  constructor
  · rintro ⟨hbelow, hplaces⟩
    have hdown := fun e he => (below_iff_of_mem_exports h htwo he).1 (hbelow e he)
    refine ⟨hdown, hplaces.imp_of_mem fun {e e'} he he' hne hstems => hne ?_⟩
    exact (place_target_eq_iff h htwo he he' (hdown e he) (hdown e' he')).2 hstems
  · rintro ⟨hdown, hstems⟩
    refine ⟨fun e he => (below_iff_of_mem_exports h htwo he).2 (hdown e he), ?_⟩
    refine hstems.imp_of_mem fun {e e'} he he' hne hplaces => hne ?_
    exact (place_target_eq_iff h htwo he he' (hdown e he) (hdown e' he')).1 hplaces

end Several

/-! ### Runs on several files -/

theorem Comes.exists_ok {x : Run Unit} {outcome : Except String Unit}
    (h : Comes x tree outcome tree') (hok : outcome.isOk = true) (c : Console)
    (hc : c.tree = tree) : ∃ c', x.run.run c = (.ok (), c') := by
  obtain ⟨c', hrun, -⟩ := h c hc
  cases outcome with
  | error message => cases hok
  | ok u => exact ⟨c', hrun⟩

def twoScripts (first second : String) : FileTree where
  entries := [(["m"], .directory), (["m", first], .text "CREATE VIEW a AS SELECT * FROM t"),
    (["m", second], .text "CREATE VIEW b AS SELECT * FROM u")]

def twoLineages (first second : String) : List FileLineage :=
  [first, second].map fun name =>
    ⟨Path.join "m" name, fileLineage (twoScripts first second) .generic {} (Path.join "m" name)⟩

def intoOut : ParseOptions := { path := "m", outputDir := some "out" }

def silent : Setting := ⟨false, false, { directives := [] }⟩

-- The kernel cannot evaluate a sort, but needs none where the files are in order.
theorem pathLineage_twoScripts {first second : String}
    (hfile : (twoScripts first second).isFile "m" = false)
    (hdirectory : (twoScripts first second).isDirectory "m" = true)
    (hfiles : ((twoScripts first second).filesUnder "m").filter (Config.accepts {}) =
      [Path.join "m" first, Path.join "m" second])
    (hle : Path.le (Path.join "m" first) (Path.join "m" second) = true) :
    pathLineage (twoScripts first second) .generic {} "m" = .ok (twoLineages first second) := by
  have hscripts : scriptFiles (twoScripts first second) {} "m" =
      [Path.join "m" first, Path.join "m" second] := by
    rw [scriptFiles, hfiles]
    exact List.mergeSort_of_pairwise (by simpa using hle)
  have hinput : inputFiles (twoScripts first second) {} "m" =
      .ok [Path.join "m" first, Path.join "m" second] := by
    rw [inputFiles, hfile, hdirectory, hscripts]
    rfl
  rw [pathLineage, hinput, hfile]
  rfl

/-- Several exports of one run lie apart, each in a directory of its own below the one that is
asked for, just if the stems of the file names differ and none of them is a dot or two dots. And a
run that succeeds leaves in each directory the last export that goes there; so nothing is
overwritten if the exports lie apart. -/
theorem exports_apart_iff (s : Setting) (env : Environment) (c : Console) {options : ParseOptions}
    {config : Config} {dir : String} {outcomes : List FileLineage}
    (hdir : options.outputDir = some dir)
    (hconfig : Config.read c.tree env.here options.config = .ok config)
    (hlineage : pathLineage c.tree (Dialect.ofLabelOrGeneric (config.dialectLabel options.dialect))
      config options.path = .ok outcomes)
    (htwo : 2 ≤ (exports options dir (graphs outcomes)).length) :
    (Apart c.tree dir (exports options dir (graphs outcomes)) ↔
      StemsDiffer (exports options dir (graphs outcomes))) ∧
    ∀ c', (parseCommand s env options).run.run c = (.ok (), c') →
      ∀ before e after, exports options dir (graphs outcomes) = before ++ e :: after →
        (∀ e' ∈ after, c.tree.place e'.target ≠ c.tree.place e.target) →
        ∀ file ∈ e.graph.exportFiles,
          c'.tree.get? (c.tree.place e.target ++ [file.1]) = some (.text file.2) := by
  refine ⟨apart_iff_stemsDiffer hlineage htwo, fun c' hrun before e after hwritten hlast => ?_⟩
  obtain ⟨houtcome, htree⟩ := (parseCommand_comes s env hdir hconfig hlineage).eq rfl hrun
  have hwrite : writeExports (before ++ e :: after) c.tree = (.ok (), c'.tree) := by
    rw [← hwritten]
    exact Prod.ext houtcome.symm htree.symm
  exact writeExports_last hwrite hlast

theorem exports_apart_iff_two_stems :
    let tree := twoScripts "a.sql" "b.vql"
    let written := exports intoOut "out" (graphs (twoLineages "a.sql" "b.vql"))
    StemsDiffer written ∧ Apart tree "out" written ∧
      ∃ c', (parseCommand silent {} intoOut).run.run { tree := tree } = (.ok (), c') ∧
        ∀ e ∈ written, ∀ file ∈ e.graph.exportFiles,
          c'.tree.get? (tree.place e.target ++ [file.1]) = some (.text file.2) := by
  intro tree written
  have hdir : intoOut.outputDir = some "out" := rfl
  have hconfig : Config.read tree "." none = .ok {} := rfl
  have hlineage : pathLineage tree .generic {} "m" = .ok (twoLineages "a.sql" "b.vql") :=
    pathLineage_twoScripts (by decide +kernel) (by decide +kernel) (by decide +kernel)
      (by decide +kernel)
  have hstems : StemsDiffer written := by decide +kernel
  obtain ⟨hiff, hleft⟩ := exports_apart_iff silent {} { tree := tree } hdir hconfig hlineage
    (by decide +kernel)
  have hapart : Apart tree "out" written := hiff.2 hstems
  refine ⟨hstems, hapart, ?_⟩
  have hcomes := parseCommand_comes silent {} hdir hconfig hlineage
  have hok : (writeExports written tree).1.isOk = true := by decide +kernel
  obtain ⟨c', hrun⟩ := hcomes.exists_ok hok { tree := tree } rfl
  refine ⟨c', hrun, fun e he => ?_⟩
  obtain ⟨before, after, hwritten⟩ := List.append_of_mem he
  exact hleft c' hrun before e after hwritten (hapart.ne_of_append hwritten)

/-- Scripts `a.sql` and `a.vql` share a directory, so exports are not always apart. -/
theorem exports_collide :
    ¬ ∀ (tree : FileTree) (dialect : Dialect) (config : Config) (options : ParseOptions)
      (dir : String) (outcomes : List FileLineage), options.outputDir = some dir →
      pathLineage tree dialect config options.path = .ok outcomes →
      2 ≤ (exports options dir (graphs outcomes)).length →
      Apart tree dir (exports options dir (graphs outcomes)) := by
  intro hapart
  have hlineage : pathLineage (twoScripts "a.sql" "a.vql") .generic {} "m" =
      .ok (twoLineages "a.sql" "a.vql") :=
    pathLineage_twoScripts (by decide +kernel) (by decide +kernel) (by decide +kernel)
      (by decide +kernel)
  exact absurd (hapart _ _ _ intoOut "out" _ rfl hlineage (by decide +kernel)) (by decide +kernel)

-- the stem of `...sql` is two dots, which lead out of the directory that is asked for
example : (twoScripts "...sql" "a.sql").place (exportDir "out" "m/...sql" 0 2) = [] := by
  decide +kernel

end SqlLineage.Command
