import SqlLineage.Command.Run

/-! What a run reads and writes. Whether a part of a run fails, what it gives and what files it
leaves hang on the files alone, not on what was printed before; so a run of the command on scripts
comes to writing, one after the other, what it exports. -/

namespace SqlLineage.Command

variable {α β : Type} {tree tree' tree'' : FileTree}

/-- From any console over `tree`, the part of a run ends with `outcome` and leaves `tree'`. -/
def Comes (x : Run α) (tree : FileTree) (outcome : Except String α) (tree' : FileTree) : Prop :=
  ∀ c : Console, c.tree = tree → ∃ c', x.run.run c = (outcome, c') ∧ c'.tree = tree'

namespace Comes

theorem eq {x : Run α} {outcome outcome' : Except String α} (h : Comes x tree outcome tree')
    {c c' : Console} (hc : c.tree = tree) (hrun : x.run.run c = (outcome', c')) :
    outcome' = outcome ∧ c'.tree = tree' := by
  obtain ⟨c'', hcomes, htree⟩ := h c hc
  obtain ⟨rfl, rfl⟩ := Prod.mk.inj (hrun.symm.trans hcomes)
  exact ⟨rfl, htree⟩

theorem pure (a : α) (tree : FileTree) : Comes (Pure.pure a) tree (.ok a) tree :=
  fun c hc => ⟨c, rfl, hc⟩

theorem throw (message : String) (tree : FileTree) :
    Comes (MonadExcept.throw message : Run α) tree (.error message) tree :=
  fun c hc => ⟨c, rfl, hc⟩

theorem bind {x : Run α} {f : α → Run β} {a : α} {outcome : Except String β}
    (hx : Comes x tree (.ok a) tree') (hf : Comes (f a) tree' outcome tree'') :
    Comes (x >>= f) tree outcome tree'' := by
  intro c hc
  obtain ⟨c', hx, hc'⟩ := hx c hc
  obtain ⟨c'', hf, hc''⟩ := hf c' hc'
  refine ⟨c'', ?_, hc''⟩
  rw [ExceptT.run_bind, StateT.run_bind, hx]
  exact hf

theorem bind_error {x : Run α} {f : α → Run β} {message : String}
    (hx : Comes x tree (.error message) tree') :
    Comes (x >>= f) tree (.error message) tree' := by
  intro c hc
  obtain ⟨c', hx, hc'⟩ := hx c hc
  refine ⟨c', ?_, hc'⟩
  rw [ExceptT.run_bind, StateT.run_bind, hx]
  rfl

theorem bind_pure {x : Run α} {outcome : Except String α} (hx : Comes x tree outcome tree')
    (b : β) : Comes (x >>= fun _ => Pure.pure b) tree (outcome.map fun _ => b) tree' := by
  cases outcome with
  | error message => exact bind_error hx
  | ok a => exact bind hx (pure b tree')

theorem bind_unit {x : Run Unit} {outcome : Except String Unit}
    (hx : Comes x tree outcome tree') : Comes (x >>= fun _ => Pure.pure ()) tree outcome tree' := by
  cases outcome with
  | error message => exact bind_error hx
  | ok u => exact bind hx (pure () tree')

theorem get {f : Console → Run β} {outcome : Except String β}
    (h : ∀ c, c.tree = tree → Comes (f c) tree outcome tree') :
    Comes (MonadState.get >>= f) tree outcome tree' := by
  intro c hc
  exact h c hc c hc

theorem modify {f : Console → Console} (h : ∀ c, c.tree = tree → (f c).tree = tree') :
    Comes (modify f : Run Unit) tree (.ok ()) tree' :=
  fun c hc => ⟨f c, rfl, h c hc⟩

theorem ite {p : Prop} [Decidable p] {x y : Run α} {outcome : Except String α}
    (hx : Comes x tree outcome tree') (hy : Comes y tree outcome tree') :
    Comes (if p then x else y) tree outcome tree' := by
  split
  · exact hx
  · exact hy

theorem forIn_collect {γ : Type} {body : γ → List β → Run (ForInStep (List β))}
    {found? : γ → Option β} {xs : List γ}
    (h : ∀ x ∈ xs, ∀ found, Comes (body x found) tree
      (.ok (.yield (found ++ (found? x).toList))) tree) (found : List β) :
    Comes (forIn xs found body) tree (.ok (found ++ xs.filterMap found?)) tree := by
  induction xs generalizing found with
  | nil =>
    rw [List.forIn_nil, List.filterMap_nil, List.append_nil]
    exact pure found tree
  | cons x xs ih =>
    have hrest := ih (fun y hy => h y (List.mem_cons_of_mem x hy)) (found ++ (found? x).toList)
    have hfound : found ++ (x :: xs).filterMap found? =
        found ++ (found? x).toList ++ xs.filterMap found? := by
      rw [List.filterMap_cons]
      cases found? x <;> simp
    rw [List.forIn_cons, hfound]
    exact bind (h x List.mem_cons_self found) hrest

theorem print (text : String) (tree : FileTree) :
    Comes (Command.print text) tree (.ok ()) tree := modify fun _ hc => hc

theorem complain (text : String) (tree : FileTree) :
    Comes (Command.complain text) tree (.ok ()) tree := modify fun _ hc => hc

theorem log (s : Setting) (records : List Log.Record) (tree : FileTree) :
    Comes (Command.log s records) tree (.ok ()) tree := complain _ tree

end Comes

section

variable (s : Setting)

theorem readConfig_comes {env : Environment} {asked : Option String} {config : Config}
    (h : Config.read tree env.here asked = .ok config) :
    Comes (readConfig s env asked) tree (.ok config) tree := by
  refine .get fun c hc => ?_
  simp only [hc, h]
  exact .ite (.bind (.log s _ tree) (.pure config tree)) (.pure config tree)

theorem pathLineage_ok {dialect : Dialect} {config : Config} {path : String}
    {outcomes : List FileLineage} (h : pathLineage tree dialect config path = .ok outcomes) :
    ∃ files, inputFiles tree config path = .ok files ∧
      outcomes = files.map (fun file => ⟨file, fileLineage tree dialect config file⟩) ∧
      (tree.isFile path = true →
        ∀ file ∈ files, ∃ g, fileLineage tree dialect config file = .ok g) := by
  unfold pathLineage at h
  cases hfile : tree.isFile path with
  | true =>
    have hfiles : inputFiles tree config path = .ok [path] := by rw [inputFiles, if_pos hfile]
    rw [hfiles, hfile] at h
    refine ⟨[path], hfiles, ?_⟩
    cases hlineage : fileLineage tree dialect config path with
    | error failure =>
      simp only [bind, Except.bind, List.map_singleton, hlineage] at h
      cases h
    | ok g =>
      simp only [bind, Except.bind, List.map_singleton, hlineage] at h
      refine ⟨?_, fun _ file hmem => ?_⟩
      · rw [List.map_singleton, hlineage]
        exact (Except.ok.inj h).symm
      exact ⟨g, List.mem_singleton.1 hmem ▸ hlineage⟩
  | false =>
    cases hfiles : inputFiles tree config path with
    | error e =>
      rw [hfiles] at h
      cases h
    | ok files =>
      rw [hfiles, hfile] at h
      exact ⟨files, rfl, (Except.ok.inj h).symm, fun htrue => absurd htrue Bool.false_ne_true⟩

theorem graphs_map (dialect : Dialect) (config : Config) (files : List String) :
    graphs (files.map fun file => ⟨file, fileLineage tree dialect config file⟩) =
      files.filterMap fun file =>
        (fileLineage tree dialect config file).toOption.map fun g => (file, g) := by
  rw [graphs, List.filterMap_map]
  rfl

theorem readScripts_comes {dialect : Dialect} {config : Config} {path : String}
    {outcomes : List FileLineage} (h : pathLineage tree dialect config path = .ok outcomes) :
    Comes (readScripts s dialect config path) tree (.ok (graphs outcomes)) tree := by
  obtain ⟨files, hfiles, rfl, halone⟩ := pathLineage_ok h
  refine .get fun c hc => ?_
  simp only [hc, hfiles, graphs_map]
  refine .bind (.forIn_collect (fun file hfile found => ?_) []) (.pure _ tree)
  refine .bind (.log s _ tree) ?_
  cases hlineage : fileLineage tree dialect config file with
  | ok g => exact .pure _ tree
  | error failure =>
    have hnot : ¬ tree.isFile path = true := by
      intro hisFile
      obtain ⟨g, hg⟩ := halone hisFile file hfile
      rw [hlineage] at hg
      cases hg
    simp only [if_neg hnot, Except.toOption, Option.map_none, Option.toList_none, List.append_nil]
    exact .bind (.complain _ tree) (.pure _ tree)

theorem render_comes (format : Format) (path : String) (g : Graph) (tree : FileTree) :
    Comes (render s format path g) tree (.ok ()) tree := by
  cases format with
  | text => exact .bind (.print _ tree) (.print _ tree)
  | json => exact .print _ tree
  | dot => exact .print _ tree

/-! ### Exports -/

/-- What a run writes for one file: the graph, or the part of it that is asked for, at `target`. -/
structure Export where
  path : String
  target : String
  graph : Graph

def shown? (options : ParseOptions) (g : Graph) : Option Graph :=
  if options.focus.isEmpty then some g else g.focus options.focus

def exports (options : ParseOptions) (dir : String) (results : List (String × Graph)) :
    List Export :=
  results.zipIdx.filterMap fun ((path, g), index) =>
    (shown? options g).map fun shown => ⟨path, exportDir dir path index results.length, shown⟩

def writeExports : List Export → FileTree → Except String Unit × FileTree
  | [], tree => (.ok (), tree)
  | e :: rest, tree =>
    match tree.writeAll e.target e.graph.exportFiles with
    | (tree, .ok ()) => writeExports rest tree
    | (tree, .error failure) =>
      (.error ("Failed to write JSON files to " ++ e.target ++ ": " ++
        (FileFailure.unreadable failure).chain), tree)

theorem writeGraph_comes (format : Format) (e : Export) (tree : FileTree) :
    Comes (writeGraph s format e.target e.graph) tree (writeExports [e] tree).1
      (writeExports [e] tree).2 := by
  refine .get fun c hc => ?_
  simp only [hc, writeExports]
  cases hwrite : tree.writeAll e.target e.graph.exportFiles with
  | mk tree' outcome =>
    have hset : Comes (modify fun c => { c with tree := tree' }) tree (.ok ()) tree' :=
      .modify fun _ _ => rfl
    refine .bind hset ?_
    cases outcome with
    | error failure => exact .throw _ tree'
    | ok u => exact .bind (.log s _ tree') (.ite (.print _ tree') (.pure () tree'))

theorem showFile_comes {options : ParseOptions} {dir : String}
    (hdir : options.outputDir = some dir) (format : Format) (index total : Nat) (path : String)
    (g : Graph) (tree : FileTree) :
    let written := ((shown? options g).map fun shown =>
      Export.mk path (exportDir dir path index total) shown).toList
    Comes (showFile s options format index total path g) tree (writeExports written tree).1
      (writeExports written tree).2 := by
  refine .bind (.log s _ tree) ?_
  unfold shown?
  generalize (if options.focus.isEmpty then some g else g.focus options.focus) = focused
  cases focused with
  | none => exact .complain _ tree
  | some shown =>
    refine .bind (render_comes s format path shown tree) ?_
    rw [hdir]
    exact writeGraph_comes s format ⟨path, exportDir dir path index total, shown⟩ tree

theorem writeExports_append (first rest : List Export) (tree : FileTree) :
    writeExports (first ++ rest) tree =
      match writeExports first tree with
      | (.ok (), tree) => writeExports rest tree
      | (.error message, tree) => (.error message, tree) := by
  induction first generalizing tree with
  | nil => rfl
  | cons e first ih =>
    rw [List.cons_append, writeExports, writeExports]
    cases tree.writeAll e.target e.graph.exportFiles with
    | mk tree' outcome =>
      cases outcome with
      | error failure => rfl
      | ok u => exact ih tree'

theorem Comes.forIn_write {γ : Type} {body : γ → Unit → Run (ForInStep Unit)}
    {export? : γ → Option Export} {xs : List γ}
    (h : ∀ x ∈ xs, ∀ tree, Comes (body x ()) tree
      ((writeExports (export? x).toList tree).1.map fun _ => .yield ())
      (writeExports (export? x).toList tree).2) (tree : FileTree) :
    Comes (forIn xs () body) tree (writeExports (xs.filterMap export?) tree).1
      (writeExports (xs.filterMap export?) tree).2 := by
  induction xs generalizing tree with
  | nil => exact .pure () tree
  | cons x xs ih =>
    have hfilter : (x :: xs).filterMap export? = (export? x).toList ++ xs.filterMap export? := by
      rw [List.filterMap_cons]
      cases export? x <;> rfl
    have hturn := h x List.mem_cons_self tree
    rw [List.forIn_cons, hfilter, writeExports_append]
    cases hwrite : writeExports (export? x).toList tree with
    | mk outcome tree' =>
      rw [hwrite] at hturn
      cases outcome with
      | error message => exact hturn.bind_error
      | ok u => exact hturn.bind (ih (fun y hy => h y (List.mem_cons_of_mem x hy)) tree')

/-- A run on scripts writes what it exports, and changes nothing else. -/
theorem parseCommand_comes (env : Environment) {options : ParseOptions} {dir : String}
    (hdir : options.outputDir = some dir) {config : Config}
    (hconfig : Config.read tree env.here options.config = .ok config)
    {outcomes : List FileLineage}
    (hlineage : pathLineage tree (Dialect.ofLabelOrGeneric (config.dialectLabel options.dialect))
      config options.path = .ok outcomes) :
    Comes (parseCommand s env options) tree
      (writeExports (exports options dir (graphs outcomes)) tree).1
      (writeExports (exports options dir (graphs outcomes)) tree).2 := by
  refine .bind (readConfig_comes s hconfig) (.bind (.log s _ tree) ?_)
  have hexports : ∀ format, Comes (do
      for ((path, g), index) in (graphs outcomes).zipIdx do
        showFile s options format index (graphs outcomes).length path g) tree
      (writeExports (exports options dir (graphs outcomes)) tree).1
      (writeExports (exports options dir (graphs outcomes)) tree).2 := by
    intro format
    have hloop : Comes (forIn (graphs outcomes).zipIdx () fun ((path, g), index) _ => do
        showFile s options format index (graphs outcomes).length path g
        pure (ForInStep.yield ())) tree
        (writeExports (exports options dir (graphs outcomes)) tree).1
        (writeExports (exports options dir (graphs outcomes)) tree).2 := by
      unfold exports
      refine .forIn_write ?_ tree
      rintro ⟨⟨path, g⟩, index⟩ - tree
      exact (showFile_comes s hdir format index _ path g tree).bind_pure _
    exact hloop.bind_unit
  have hrest : ∀ format, Comes (do
      let results ← readScripts s (Dialect.ofLabelOrGeneric (config.dialectLabel options.dialect))
        config options.path
      if format == .text then
        print ("Parsed " ++ toString results.length ++ " file(s) in ")
        modify fun c => { c with out := c.out ++ [.elapsed] }
        print "\n"
      for ((path, g), index) in results.zipIdx do
        showFile s options format index results.length path g) tree
      (writeExports (exports options dir (graphs outcomes)) tree).1
      (writeExports (exports options dir (graphs outcomes)) tree).2 := by
    intro format
    -- what is printed before the exports makes no difference, so both branches come to them
    refine .bind (readScripts_comes s hlineage) (.ite ?_ (hexports format))
    exact .bind (.print _ tree)
      (.bind (.modify fun _ hc => hc) (.bind (.print _ tree) (hexports format)))
  exact .ite (.bind (.print _ tree) (.bind (.print _ tree) (hrest _))) (hrest _)

end
end SqlLineage.Command
