import SqlLineage.Sql.Name

/-! What the parser keeps of a script. A phrase is a stretch of SQL in its canonical spelling
together with the tables and queries it mentions, in the order in which lineage looks at them. -/

namespace SqlLineage.Sql

/-- The tables and queries inside a stretch of SQL. -/
inductive Mention
  /-- A table of a FROM clause; `called` if it takes arguments as a table function does. -/
  | table (name : ObjectName) (called : Bool)
  /-- A query with the names its own WITH clause binds, and all that it mentions. -/
  | query (ctes : List Ident) (inside : List Mention)

structure Phrase where
  text : String
  mentions : List Mention := []

namespace Phrase

def empty : Phrase := ⟨"", []⟩

def word (text : String) : Phrase := ⟨text, []⟩

instance : Coe String Phrase := ⟨word⟩

def append (a b : Phrase) : Phrase := ⟨a.text ++ b.text, a.mentions ++ b.mentions⟩

instance : Append Phrase := ⟨append⟩

/-- Two phrases with a blank between. -/
def beside (a b : Phrase) : Phrase := a ++ word " " ++ b

def isEmpty (p : Phrase) : Bool := p.text.isEmpty && p.mentions.isEmpty

/-- Phrases one after the other with `separator` between. -/
def joined (separator : String) : List Phrase → Phrase
  | [] => empty
  | [p] => p
  | p :: q :: rest => p ++ word separator ++ joined separator (q :: rest)

/-- A list as SQL writes it. -/
def list (ps : List Phrase) : Phrase := joined ", " ps

/-- The phrases that are there, with a blank between. -/
def words (ps : List Phrase) : Phrase := joined " " (ps.filter fun p => !p.isEmpty)

/-- The phrases that are there, each with a blank before it. -/
def spaced (ps : List Phrase) : Phrase :=
  joined "" ((ps.filter fun p => !p.isEmpty).map fun p => word " " ++ p)

def parens (p : Phrase) : Phrase := word "(" ++ p ++ word ")"

/-- The same text, mentioning its parts in another order. -/
def mentioning (p : Phrase) (parts : List Phrase) : Phrase :=
  ⟨p.text, parts.flatMap Phrase.mentions⟩

end Phrase

/-- One common table expression: its name, its definition and the query that defines it. -/
structure Cte where
  name : Ident
  text : String
  body : Mention

/-- A lock on the rows that a query returns, those of `table` only if there is one. -/
structure Lock where
  sort : String
  table : Option ObjectName
  waiting : String

def Lock.phrase (l : Lock) : Phrase :=
  let table : String := match l.table with
    | some name => "OF " ++ name.render
    | none => ""
  Phrase.words ["FOR", l.sort, table, l.waiting]

structure Setting where
  key : Ident
  value : String

def Setting.phrase (s : Setting) : Phrase := Phrase.words [s.key.render, "=", s.value]

/-- Settings with the keyword before them; nothing if there are none. -/
def Setting.clause : List Setting → Phrase
  | [] => Phrase.empty
  | settings => Phrase.word "SETTINGS " ++ Phrase.list (settings.map Setting.phrase)

/-- A query: its own WITH clause, the body and the clauses after it. Each clause has its keyword. -/
structure Query where
  recursive : Bool := false
  ctes : List Cte := []
  body : Phrase
  orderBy : Phrase := Phrase.empty
  limit : Phrase := Phrase.empty
  limitBy : Phrase := Phrase.empty
  offset : Phrase := Phrase.empty
  fetch : Phrase := Phrase.empty
  locks : List Lock := []
  /-- The form of the rows' text. -/
  form : String := ""
  settings : List Setting := []
  format : String := ""

namespace Query

def opening (q : Query) : Phrase :=
  if q.ctes.isEmpty then Phrase.empty
  else Phrase.words ["WITH", if q.recursive then "RECURSIVE" else "",
    Phrase.list (q.ctes.map fun c => c.text)]

/-- The query as it is written back, where the clauses are not in the order of the walk. -/
def text (q : Query) : String :=
  (Phrase.words ([q.opening, q.body, q.orderBy, q.limit, q.offset, q.limitBy,
    Setting.clause q.settings, q.fetch] ++ q.locks.map Lock.phrase ++
    [Phrase.word q.form, Phrase.word q.format])).text

/-- All that follows the WITH clause, in the order of the walk through the query. -/
def clauses (q : Query) : List Phrase :=
  [q.body, q.orderBy, q.limit, q.limitBy, q.offset, q.fetch] ++ q.locks.map Lock.phrase ++
    [Phrase.word q.form, Setting.clause q.settings, Phrase.word q.format]

def mention (q : Query) : Mention :=
  .query (q.ctes.map Cte.name) (q.ctes.map Cte.body ++ q.clauses.flatMap Phrase.mentions)

def phrase (q : Query) : Phrase := ⟨q.text, [q.mention]⟩

end Query

/-- What a statement means for lineage. -/
inductive Effect
  | query (query : Query)
  | insert (source : Option Query)
  | createTable (name : ObjectName) (query : Option Query)
  | createView (name : ObjectName) (materialized : Bool) (query : Query)
  | other

structure Statement where
  phrase : Phrase
  effect : Effect := .other

def Statement.text (s : Statement) : String := s.phrase.text

end SqlLineage.Sql
