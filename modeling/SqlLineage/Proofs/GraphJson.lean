import SqlLineage.Graph.Json
import SqlLineage.Proofs.Catalog
import SqlLineage.Proofs.JsonText

/-! A graph comes back from its JSON text. What is written for a record is an object with all its
fields, so decoding it finds and accepts each of them. -/

namespace SqlLineage

namespace Json

variable {α : Type}

theorem checked_ok {decode : Decoder α} {j : Json} {a : α} (h : decode j = .ok a) :
    checked decode j = .ok () := by
  rw [checked, h]
  rfl

def Passes (fields : List (String × Decoder Unit)) (m : String × Json) : Prop :=
  ∀ check, fields.lookup m.1 = some check → check m.2 = .ok ()

theorem passes_of_field {fields : List (String × Decoder Unit)} {m : String × Json}
    {decode : Decoder α} {a : α} (hfield : fields.lookup m.1 = some (checked decode))
    (h : decode m.2 = .ok a) : Passes fields m := by
  intro check hcheck
  rw [← Option.some.inj (hfield.symm.trans hcheck)]
  exact checked_ok h

theorem checkMembers_ok {fields : List (String × Decoder Unit)} {given : List (String × Json)}
    (h : ∀ m ∈ given, Passes fields m) :
    checkMembers fields given = .ok () := by
  induction given with
  | nil => rfl
  | cons m given ih =>
    obtain ⟨hfirst, hrest⟩ := List.forall_mem_cons.1 h
    rw [checkMembers]
    cases hcheck : fields.lookup m.1 with
    | none => exact ih hrest
    | some check =>
      simp only [hfirst check hcheck]
      exact ih hrest

theorem membersOf_object {shape : Shape} {members : List (String × Json)}
    (h : ∀ m ∈ members, Passes shape.fields m) :
    membersOf shape (.object members) = .ok (Catalog.ofList members) := by
  rw [membersOf, checkMembers_ok fun m hm => h m (Catalog.mem_of_mem_ofList hm)]
  rfl

theorem lookup_ofList (members : List (String × Json)) (name : String) :
    List.lookup name (Catalog.ofList members) = List.lookup name members.reverse :=
  Catalog.find?_ofList members name

theorem asOption_ofString? (s : Option String) : asOption asString (ofString? s) = .ok s := by
  cases s <;> rfl

theorem asCount_natural {n : Nat} (h : n < 2 ^ 64) : asCount (n : Json) = .ok n := by
  have hlimit : (0 ≤ (n : Int) && (n : Int) ≤ countLimit) = true := by
    rw [Bool.and_eq_true, decide_eq_true_eq, decide_eq_true_eq, countLimit]
    omega
  rw [asCount, if_pos hlimit]
  rfl

theorem mapM_ok {β : Type} {f : α → Except DecodeError β} {g : α → β} {l : List α}
    (h : ∀ a ∈ l, f a = .ok (g a)) : l.mapM f = .ok (l.map g) := by
  induction l with
  | nil => rfl
  | cons a l ih =>
    obtain ⟨hfirst, hrest⟩ := List.forall_mem_cons.1 h
    rw [List.mapM_cons, hfirst, ih hrest]
    rfl

theorem asList_map {decode : Decoder α} {json : α → Json} {l : List α}
    (h : ∀ a ∈ l, decode (json a) = .ok a) : asList decode (.array (l.map json)) = .ok l := by
  rw [asList, List.mapM_map, mapM_ok (f := decode ∘ json) (g := id) h, List.map_id]

theorem asCatalog_json {decode : Decoder α} {json : α → Json} {catalog : Catalog α}
    (hsorted : catalog.Sorted) (h : ∀ e ∈ catalog, decode (json e.2) = .ok e.2) :
    asCatalog decode (Catalog.json json catalog) = .ok catalog := by
  have hnames : Catalog.Sorted (catalog.map fun e => (e.1, json e.2)) := hsorted.summary json
  rw [Catalog.json, asCatalog, hnames.ofList_eq, List.mapM_map, mapM_ok (g := id), List.map_id]
  intro e he
  simp only [Function.comp_apply, h e he]
  rfl

end Json

theorem Kind.ofJson_json (k : Kind) : Kind.ofJson k.json = .ok k := by
  cases k <;> rfl

theorem Node.ofJson_json (n : Node) : Node.ofJson n.json = .ok n := by
  have hkind := Kind.ofJson_json n.kind
  have hschema := Json.asOption_ofString? n.schema
  have hdefinition := Json.asOption_ofString? n.definition
  rw [Node.ofJson, Node.json, Json.membersOf_object]
  · simp [bind, Except.bind, pure, Except.pure, Json.required, Json.defaulted, Json.lookup_ofList,
      List.lookup_cons, hkind, hschema, hdefinition, Json.asString, Json.asBool]
  · simp only [List.forall_mem_cons]
    exact ⟨Json.passes_of_field rfl hkind, Json.passes_of_field rfl hschema,
      Json.passes_of_field rfl (rfl : Json.asString n.fullName = .ok n.fullName),
      Json.passes_of_field rfl hdefinition,
      Json.passes_of_field rfl (rfl : Json.asBool n.inferred = .ok n.inferred),
      List.forall_mem_nil _⟩

theorem Edge.ofJson_json (e : Edge) : Edge.ofJson e.json = .ok e := rfl

theorem Skipped.ofJson_json {s : Skipped} (h : s.index < 2 ^ 64) :
    Skipped.ofJson s.json = .ok s := by
  have hindex := Json.asCount_natural h
  rw [Skipped.ofJson, Skipped.json, Json.membersOf_object]
  · simp [bind, Except.bind, pure, Except.pure, Json.required, Json.lookup_ofList, List.lookup_cons,
      hindex, Json.asString]
  · simp only [List.forall_mem_cons]
    exact ⟨Json.passes_of_field rfl hindex,
      Json.passes_of_field rfl (rfl : Json.asString s.sql = .ok s.sql),
      Json.passes_of_field rfl (rfl : Json.asString s.error = .ok s.error),
      List.forall_mem_nil _⟩

namespace Graph

/-- The names of nodes and of schemas are in order, each once, and every number has at most 64
bits. -/
structure WellFormed (g : Graph) : Prop where
  nodes_sorted : g.nodes.Sorted
  stats_sorted : g.stats.Sorted
  counts_lt : ∀ e ∈ g.stats, e.2 < 2 ^ 64
  indices_lt : ∀ s ∈ g.skipped, s.index < 2 ^ 64

theorem edges_ofJson (g : Graph) : Json.asList Edge.ofJson g.edgesJson = .ok g.edges :=
  Json.asList_map fun e _ => e.ofJson_json

variable {g : Graph}

theorem WellFormed.nodes_ofJson (h : g.WellFormed) :
    Json.asCatalog Node.ofJson g.nodesJson = .ok g.nodes :=
  Json.asCatalog_json h.nodes_sorted fun e _ => e.2.ofJson_json

theorem WellFormed.stats_ofJson (h : g.WellFormed) :
    Json.asCatalog Json.asCount g.statsJson = .ok g.stats :=
  Json.asCatalog_json h.stats_sorted fun e he => Json.asCount_natural (h.counts_lt e he)

theorem WellFormed.skipped_ofJson (h : g.WellFormed) :
    Json.asList Skipped.ofJson (.array (g.skipped.map Skipped.json)) = .ok g.skipped :=
  Json.asList_map fun s hs => Skipped.ofJson_json (h.indices_lt s hs)

theorem WellFormed.ofJson_json (h : g.WellFormed) : Graph.ofJson g.json = .ok g := by
  have hedges := g.edges_ofJson
  have hnodes := h.nodes_ofJson
  have hstats := h.stats_ofJson
  have hskipped := h.skipped_ofJson
  rw [Graph.ofJson, Graph.json, Json.membersOf_object]
  · cases hempty : g.skipped.isEmpty with
    | true =>
      have hnone : g.skipped = [] := List.isEmpty_iff.1 hempty
      simp [bind, Except.bind, pure, Except.pure, Json.required, Json.defaulted,
        Json.lookup_ofList, List.lookup_cons, List.lookup_nil, hedges, hnodes, hstats, ← hnone]
    | false =>
      simp [bind, Except.bind, pure, Except.pure, Json.required, Json.defaulted,
        Json.lookup_ofList, List.lookup_cons, hedges, hnodes, hstats, hskipped]
  · have hpasses : ∀ m ∈ [("edges", g.edgesJson), ("nodes", g.nodesJson), ("stats", g.statsJson),
        ("skipped", Json.array (g.skipped.map Skipped.json))], Json.Passes shape.fields m := by
      simp only [List.forall_mem_cons]
      exact ⟨Json.passes_of_field rfl hedges, Json.passes_of_field rfl hnodes,
        Json.passes_of_field rfl hstats, Json.passes_of_field rfl hskipped, List.forall_mem_nil _⟩
    intro m hm
    apply hpasses
    split at hm
    · rw [List.append_nil] at hm
      exact List.mem_append_left [_] hm
    · exact hm

end Graph

/-! ### The texts -/

theorem Json.readable_ofString? (s : Option String) : Json.Readable (.ofString? s) := by
  cases s with
  | none => exact .null
  | some s => exact .string s

theorem Json.readable_natural {n : Nat} (h : n < 2 ^ 64) : Json.Readable (n : Json) := by
  refine .integer ⟨?_, ?_⟩
  · omega
  · rw [wholeLimit]
    omega

theorem Json.readable_map {α : Type} {json : α → Json} {l : List α}
    (h : ∀ a ∈ l, Json.Readable (json a)) : Json.Readable (.array (l.map json)) := by
  refine .array fun j hj => ?_
  obtain ⟨a, ha, rfl⟩ := List.mem_map.1 hj
  exact h a ha

theorem Json.readable_catalog {α : Type} {json : α → Json} {catalog : Catalog α}
    (h : ∀ e ∈ catalog, Json.Readable (json e.2)) : Json.Readable (Catalog.json json catalog) := by
  refine .object fun m hm => ?_
  obtain ⟨e, he, rfl⟩ := List.mem_map.1 hm
  exact h e he

theorem Node.json_readable (n : Node) : n.json.Readable := by
  refine .object ?_
  simp only [List.forall_mem_cons]
  exact ⟨.string _, Json.readable_ofString? _, .string _, Json.readable_ofString? _, .bool _,
    List.forall_mem_nil _⟩

theorem Edge.json_readable (e : Edge) : e.json.Readable := by
  refine .array ?_
  simp only [List.forall_mem_cons]
  exact ⟨.string _, .string _, List.forall_mem_nil _⟩

theorem Skipped.json_readable {s : Skipped} (h : s.index < 2 ^ 64) : s.json.Readable := by
  refine .object ?_
  simp only [List.forall_mem_cons]
  exact ⟨Json.readable_natural h, .string _, .string _, List.forall_mem_nil _⟩

namespace Graph

variable {g : Graph}

theorem edgesJson_readable (g : Graph) : g.edgesJson.Readable :=
  Json.readable_map fun e _ => e.json_readable

theorem nodesJson_readable (g : Graph) : g.nodesJson.Readable :=
  Json.readable_catalog fun e _ => e.2.json_readable

theorem WellFormed.statsJson_readable (h : g.WellFormed) : g.statsJson.Readable :=
  Json.readable_catalog fun e he => Json.readable_natural (h.counts_lt e he)

theorem WellFormed.json_readable (h : g.WellFormed) : g.json.Readable := by
  have hskipped : Json.Readable (.array (g.skipped.map Skipped.json)) :=
    Json.readable_map fun s hs => Skipped.json_readable (h.indices_lt s hs)
  have hothers : ∀ m ∈ [("edges", g.edgesJson), ("nodes", g.nodesJson), ("stats", g.statsJson)],
      m.2.Readable := by
    simp only [List.forall_mem_cons]
    exact ⟨g.edgesJson_readable, g.nodesJson_readable, h.statsJson_readable, List.forall_mem_nil _⟩
  refine .object fun m hm => ?_
  rcases List.mem_append.1 hm with hm | hm
  · exact hothers m hm
  · split at hm
    · cases hm
    · rw [List.mem_singleton.1 hm]
      exact hskipped

end Graph

def Json.readAs {α : Type} (decode : Json.Decoder α) (text : String) :
    Option (Except Json.DecodeError α) :=
  (Json.parse? text).map decode

theorem Json.readAs_pretty {α : Type} {decode : Json.Decoder α} {j : Json} {a : α}
    (hj : j.Readable) (h : decode j = .ok a) : Json.readAs decode j.pretty = some (.ok a) := by
  rw [readAs, parse?_pretty hj, Option.map_some, h]

/-- A graph comes back from its text, and its edges, nodes and counts from the files that hold
them. -/
theorem Graph.json_round_trip {g : Graph} (h : g.WellFormed) :
    Json.readAs Graph.ofJson g.json.pretty = some (.ok g) ∧
      ∃ edges nodes stats, g.exportFiles =
          [("edges.json", edges), ("node_types.json", nodes), ("stats.json", stats)] ∧
        Json.readAs (Json.asList Edge.ofJson) edges = some (.ok g.edges) ∧
        Json.readAs (Json.asCatalog Node.ofJson) nodes = some (.ok g.nodes) ∧
        Json.readAs (Json.asCatalog Json.asCount) stats = some (.ok g.stats) :=
  ⟨Json.readAs_pretty h.json_readable h.ofJson_json, _, _, _, rfl,
    Json.readAs_pretty g.edgesJson_readable g.edges_ofJson,
    Json.readAs_pretty g.nodesJson_readable h.nodes_ofJson,
    Json.readAs_pretty h.statsJson_readable h.stats_ofJson⟩

def Graph.awkward : Graph :=
  { edges := [⟨"a\"\\\n\x00", "𝒳"⟩, ⟨"𝒳", "𝒳"⟩]
    nodes := [("a\"\\\n\x00", ⟨.table, some "", "\t[\x7d]", none, true⟩),
      ("𝒳", ⟨.cteView, none, "null", some "\x1f\x7f", false⟩)]
    stats := [("", 0), ("s", 18446744073709551615)]
    skipped := [⟨18446744073709551615, "SELEC", "\u2028"⟩] }

theorem Graph.json_round_trip_awkward :
    Graph.awkward.WellFormed ∧
      Json.readAs Graph.ofJson Graph.awkward.json.pretty = some (.ok Graph.awkward) := by
  have h : Graph.awkward.WellFormed := by
    refine ⟨?_, ?_, ?_, ?_⟩
    · rw [Catalog.Sorted]
      decide
    · rw [Catalog.Sorted]
      decide
    · decide
    · decide
  exact ⟨h, (Graph.json_round_trip h).1⟩

end SqlLineage
