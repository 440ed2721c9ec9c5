import SqlLineage.Sql.Parser.Function

/-! What reaches into a value: fields after a period, subscripts in brackets, paths into
documents. -/

namespace SqlLineage.Sql.Parser

variable [Nesting]

/-- A subscript after its opening bracket: an index, or a slice with up to three parts. -/
def subscript : Parser Phrase := do
  let bracket (p : Phrase) : Phrase := Phrase.word "[" ++ p ++ Phrase.word "]"
  let lower ← if ← symbol ":" then pure none else some <$> expr
  if ← symbol "]" then
    return bracket (lower.getD ":")
  if lower.isSome then expectSymbol ":"
  let lower := lower.getD Phrase.empty ++ Phrase.word ":"
  if ← symbol "]" then return bracket lower
  let upper ← expr
  if ← symbol "]" then return bracket (lower ++ upper)
  expectSymbol ":"
  if ← symbol "]" then return bracket (lower ++ upper)
  let stride ← expr
  expectSymbol "]"
  return bracket (lower ++ upper ++ Phrase.word ":" ++ stride)

/-- As many subscripts as follow each other. -/
def subscripts : Parser Phrase := do
  let found ← many do
    if ← symbol "[" then return some (← subscript) else return none
  return Phrase.joined "" found

def documentKey : Parser String := do
  let found ← next
  match tokenOf found with
  | some (.word value _ none) => return value
  | some (.word value _ (some '"')) | some (.text .double value) => return quoted '"' value
  | _ => expected "variant object key name" found

/-- A path into a document: a colon and a key, then keys after periods and keys in brackets. -/
def documentPath : Parser Phrase := do
  let path ← loop [] fun path => do
    if ← given path.isEmpty (symbol ":") then
      return some [Phrase.word (":" ++ (← documentKey))]
    if ← given (!path.isEmpty) (symbol ".") then
      return some (Phrase.word ("." ++ (← documentKey)) :: path)
    if ← symbol "[" then
      let key ← expr
      expectSymbol "]"
      return some ((Phrase.word "[" ++ key ++ Phrase.word "]") :: path)
    return none
  return Phrase.joined "" path.reverse

/-- Calls of methods, each after a period. -/
def methodChain (interval : Parser Phrase) : Parser Phrase := do
  let calls ← many do
    if !(← symbol ".") then return none
    let found ← next
    match tokenOf found with
    | some (.word value _ quote) =>
      return some (Phrase.word "." ++ (← call interval (Ident.render ⟨value, quote⟩)))
    | _ => expected "identifier" found
  if calls.isEmpty then expectedNext "function"
  return Phrase.joined "" calls

def withMethods (interval : Parser Phrase) (e : Expr) : Parser Expr := do
  if !(← dialect).methods then return e
  match ← attempt (methodChain interval) with
  | some chain => return (e.phrase ++ chain : Phrase)
  | none => return e

/-- The mark of an optional side in a join condition. -/
def outerJoinMark : Parser Bool := do
  if (← dialect).outerJoinMark then symbols ["(", "+", ")"] else return false

/-- The fields after `root`, which may end in a call or in a star. -/
def fieldsOf (interval : Parser Phrase) (root : Expr) : Parser Expr := do
  let d ← dialect
  let (e, star, _) ← loop (root, false, false) fun (e, star, ended) => do
    if !(← given (!(star || ended)) (symbol ".")) then return none
    let field (i : Ident) : Expr :=
      if e.path.isEmpty then (e.phrase ++ Phrase.word ("." ++ i.render) : Phrase)
      else Expr.column (e.path ++ [i])
    let found ← next
    match tokenOf found with
    | some (.word value _ quote) =>
      let e := field ⟨value, quote⟩
      if !(← peekSymbol "[") then return some (e, false, false)
      if d.documentPaths then return some (e, false, true)
      return some ((e.phrase ++ (← subscripts) : Phrase), false, false)
    | some (.symbol "*") =>
      if d == .postgres then return some (e, true, false)
      expected "an identifier after '.'" found
    | some (.text .single value) => return some (field ⟨value, some '\''⟩, false, false)
    | _ => expected "an identifier or a '*' after '.'" found
  if star then
    if e.path.isEmpty then expectedNext "an identifier or a '*' after '.'"
    return (e.phrase ++ Phrase.word ".*" : Phrase)
  if ← peekSymbol "(" then
    if e.path.isEmpty then
      let _ ← next
      expectedNext "an identifier or a '*' after '.'"
    if ← outerJoinMark then return (e.phrase ++ Phrase.word " (+)" : Phrase)
    return ← call interval e.phrase.text
  return e

end SqlLineage.Sql.Parser
