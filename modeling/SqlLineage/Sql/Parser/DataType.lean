import SqlLineage.Sql.Parser.ColumnOption

/-! Data types. A type the grammar knows is written in capitals; any other name is kept. -/

namespace SqlLineage.Sql

/-- What a type name may introduce: a literal of that type, an interval, or nothing. -/
inductive TypeForm
  | known
  | interval
  | custom
  deriving DecidableEq

structure DataType where
  text : String
  form : TypeForm := .known

namespace Parser

variable [Nesting]

/-- A length in parentheses, or nothing. -/
def optionalLength : Parser String := do
  if !(← symbol "(") then return ""
  let n ← literalCount
  expectSymbol ")"
  return "(" ++ toString n ++ ")"

/-- A length in parentheses that may be MAX or have a unit. -/
def optionalCharacterLength : Parser String := do
  if !(← symbol "(") then return ""
  let length ←
    if ← keyword "MAX" then pure "MAX"
    else do
      let n ← literalCount
      match ← oneOf ["CHARACTERS", "OCTETS"] with
      | some unit => pure (toString n ++ " " ++ unit)
      | none => pure (toString n)
  expectSymbol ")"
  return "(" ++ length ++ ")"

/-- Precision and scale in parentheses. -/
def optionalPrecisionScale : Parser String := do
  if !(← symbol "(") then return ""
  let precision ← literalCount
  let scale ← if ← symbol "," then pure ("," ++ toString (← literalCount)) else pure ""
  expectSymbol ")"
  return "(" ++ toString precision ++ scale ++ ")"

/-- A time type with its precision and time zone. -/
def timeType (name : String) : Parser String := do
  let precision ← optionalLength
  match ← oneOf ["WITH", "WITHOUT"] with
  | some k =>
    expectKeywords ["TIME", "ZONE"]
    return name ++ precision ++ " " ++ k ++ " TIME ZONE"
  | none => return name ++ precision

/-- An integer type, which may be unsigned. -/
def integerType (name : String) : Parser String := do
  let width ← optionalLength
  if ← keyword "UNSIGNED" then return name ++ width ++ " UNSIGNED"
  return name ++ width

/-- The types written as one word and nothing else. -/
def plainTypes : List String :=
  ["BOOLEAN", "BOOL", "REAL", "FLOAT4", "FLOAT32", "FLOAT64", "FLOAT8", "INT16", "INT32", "INT64",
    "INT128", "INT256", "UINT8", "UINT16", "UINT32", "UINT64", "UINT128", "UINT256", "TINYBLOB",
    "MEDIUMBLOB", "LONGBLOB", "UUID", "DATE", "DATE32", "JSON", "JSONB", "REGCLASS", "TEXT",
    "TINYTEXT", "MEDIUMTEXT", "LONGTEXT", "BYTEA", "TRIGGER"]

/-- The spelling of a one-word type. -/
def plainTypeText : String → String
  | "FLOAT32" => "Float32"
  | "INT16" => "Int16"
  | "INT32" => "Int32"
  | "INT128" => "Int128"
  | "INT256" => "Int256"
  | "UINT8" => "UInt8"
  | "UINT16" => "UInt16"
  | "UINT32" => "UInt32"
  | "UINT64" => "UInt64"
  | "UINT128" => "UInt128"
  | "UINT256" => "UInt256"
  | "DATE32" => "Date32"
  | k => k

def lengthTypes : List String :=
  ["FLOAT", "CLOB", "BINARY", "VARBINARY", "BLOB", "BYTES", "DATETIME", "STRING"]

def integerTypes : List String :=
  ["TINYINT", "INT2", "SMALLINT", "MEDIUMINT", "INT", "INT4", "INT8", "INTEGER", "BIGINT"]

def numberTypes : List String := ["NUMERIC", "DECIMAL", "DEC", "BIGNUMERIC", "BIGDECIMAL"]

/-- The modifiers of a type the grammar does not know. -/
def typeModifiers : Parser (List String) := do
  if !(← symbol "(") then return []
  let found ← loop ([], false) fun (found, ended) => do
    if ended then return none
    let l ← next
    match tokenOf l with
    | some t@(.word ..) => return some (t.render :: found, false)
    | some (.number digits _) => return some (digits :: found, false)
    | some (.text .single value) => return some (value :: found, false)
    | some (.symbol ",") => return some (found, false)
    | some (.symbol ")") => return some (found, true)
    | _ => expected "type modifiers" l
  return found.1.reverse

/-- One label of an enumeration, which may be given a number. -/
def enumLabel : Parser String := do
  let label ← literalString
  if ← symbol "=" then return singleQuoted label ++ " = " ++ (← signedNumber).text
  return singleQuoted label

/-- The labels of a set after its opening parenthesis, up to the closing one. -/
def setLabels : Parser (List String) := do
  let (labels, _) ← loop ([], false) fun (labels, ended) => do
    if ended then return none
    let label ← quotedString "a string"
    let found ← next
    match tokenOf found with
    | some (.symbol ",") => return some (singleQuoted label :: labels, false)
    | some (.symbol ")") => return some (singleQuoted label :: labels, true)
    | _ => expected ", or \x7d" found
  return labels.reverse

def commaList (items : List String) : String := ", ".intercalate items

/-- Closes an angle bracket; true if the token closed one more that is open outside. -/
def closeAngle (alreadyClosed : Bool) : Parser Bool := do
  if alreadyClosed then return false
  if ← symbol ">" then return false
  if ← symbol ">>" then return true
  expectedNext ">"

/-- A type whose last token closes no angle bracket outside it. -/
def balancedType (p : Parser (DataType × Bool)) : Parser DataType := do
  let (type, closed) ← p
  if closed then
    let text := match ← peekToken with
      | some t => t.render
      | none => "EOF"
    fail (.unexpected ("unmatched > after parsing data type " ++ type.text ++ text))
  return type

/-- Fields in parentheses. Where a field is wrong, what follows it has to close the list all the
same before the error is told. -/
def fieldsInParens (field : Parser String) : Parser (List String) := do
  expectSymbol "("
  let fields ← survive (commaSeparated field)
  expectSymbol ")"
  match fields with
  | .ok fields => return fields
  | .error error => fail error

/-- A field of a structure: a name and a type, or a type alone. -/
def structField (type : Parser (DataType × Bool)) : Parser (String × Bool) := do
  let named := match ← peekNth 0, ← peekNth 1 with
    | some (.word ..), some (.word ..) => true
    | _, _ => false
  let name ← if named then pure ((← identifier).render ++ " ") else pure ""
  let (type, closed) ← type
  return (name ++ type.text, closed)

/-- The type of a structure with its fields in angle brackets, if it has any. -/
def structType (type : Parser (DataType × Bool)) : Parser (String × Bool) := do
  let opening ← peek
  expectKeyword "STRUCT"
  if !(← symbol "<") then return ("STRUCT", false)
  let first ← structField type
  let (fields, closed) ← loop ([first.1], first.2) fun (fields, closed) => do
    if !(← symbol ",") then return none
    if closed then fail (.unexpected ("unmatched > in STRUCT definition" ++ placeText opening))
    let (field, closed) ← structField type
    return some (field :: fields, closed)
  return ("STRUCT<" ++ commaList fields.reverse ++ ">", ← closeAngle closed)

/-- A type, and whether its last token closed an angle bracket outside it. -/
def dataTypeWithin : Stream → Parser (DataType × Bool)
  | [] => expectedNext "a data type name"
  | _ :: bound => do
    let d ← dialect
    let start ← rest
    let found ← next
    let inner := dataTypeWithin bound
    let whole : Parser String := return (← balancedType inner).text
    let namedField : Parser String := do
      let name ← identifier
      return name.render ++ " " ++ (← whole)
    let (type, closed) ← (show Parser (DataType × Bool) from do
      match tokenOf found with
      | some (.word _ k _) =>
        let plain (text : String) : Parser (DataType × Bool) := return (⟨text, .known⟩, false)
        if plainTypes.contains k then plain (plainTypeText k)
        else if lengthTypes.contains k then plain (k ++ (← optionalLength))
        else if integerTypes.contains k then plain (← integerType k)
        else if numberTypes.contains k then plain (k ++ (← optionalPrecisionScale))
        else match k with
          | "DOUBLE" =>
            if ← keyword "PRECISION" then plain "DOUBLE PRECISION"
            else plain ("DOUBLE" ++ (← optionalPrecisionScale))
          | "VARCHAR" | "NVARCHAR" => plain (k ++ (← optionalCharacterLength))
          | "CHARACTER" | "CHAR" =>
            if ← keyword "VARYING" then plain (k ++ " VARYING" ++ (← optionalCharacterLength))
            else if ← keywordRun ["LARGE", "OBJECT"] then
              plain (k ++ " LARGE OBJECT" ++ (← optionalLength))
            else plain (k ++ (← optionalCharacterLength))
          | "BIT" =>
            if ← keyword "VARYING" then plain ("BIT VARYING" ++ (← optionalLength))
            else plain ("BIT" ++ (← optionalLength))
          | "TIMESTAMP" | "TIME" => plain (← timeType k)
          | "TIMESTAMPTZ" | "TIMETZ" => plain (k ++ (← optionalLength))
          | "INTERVAL" => return (⟨"INTERVAL", .interval⟩, false)
          | "DATETIME64" =>
            expectSymbol "("
            let precision ← literalCount
            let zone ← if ← symbol "," then pure (", " ++ (← rawLiteral).text) else pure ""
            expectSymbol ")"
            plain ("DateTime64(" ++ toString precision ++ zone ++ ")")
          | "FIXEDSTRING" =>
            let n ← parens literalCount
            plain ("FixedString(" ++ toString n ++ ")")
          | "ENUM" | "ENUM8" | "ENUM16" =>
            plain (k ++ "(" ++ commaList (← parens (commaSeparated enumLabel)) ++ ")")
          | "SET" =>
            expectSymbol "("
            plain ("SET(" ++ commaList (← setLabels) ++ ")")
          | "ARRAY" =>
            if d == .snowflake then plain "ARRAY"
            else
              expectSymbol "<"
              let (type, closed) ← inner
              return (⟨"ARRAY<" ++ type.text ++ ">", .known⟩, ← closeAngle closed)
          | _ =>
            if k == "STRUCT" && d == .duckdb then
              plain ("STRUCT(" ++ commaList (← fieldsInParens namedField) ++ ")")
            else if k == "STRUCT" && (d == .bigquery || d == .generic) then
              resume start
              let (text, closed) ← structType inner
              return (⟨text, .known⟩, closed)
            else if k == "UNION" && (d == .duckdb || d == .generic) then
              plain ("UNION(" ++ commaList (← parens (commaSeparated namedField)) ++ ")")
            else if k == "NULLABLE" && d == .generic then
              plain ("Nullable(" ++ (← parens whole) ++ ")")
            else if k == "LOWCARDINALITY" && d == .generic then
              plain ("LowCardinality(" ++ (← parens whole) ++ ")")
            else if k == "MAP" && d == .generic then
              expectSymbol "("
              let key ← whole
              expectSymbol ","
              let item ← whole
              expectSymbol ")"
              plain ("Map(" ++ key ++ ", " ++ item ++ ")")
            else if k == "NESTED" && d == .generic then
              let column := columnWith (return Phrase.word (← whole))
              plain ("Nested(" ++ (← parens (listOf column)).text ++ ")")
            else if k == "TUPLE" && d == .generic then
              let fields ← parens (commaSeparated (structField inner))
              plain ("Tuple(" ++ commaList (fields.map (·.1)) ++ ")")
            else if ← given (k == "ANY") (keyword "TYPE") then plain "ANY TYPE"
            else
              resume start
              let name ← objectName
              let modifiers ← typeModifiers
              let text := if modifiers.isEmpty then name.render
                else name.render ++ "(" ++ commaList modifiers ++ ")"
              return (⟨text, .custom⟩, false)
      | _ => expected "a data type name" found)
    let sized := d == .generic || d == .duckdb || d == .postgres
    let type ← loop type fun type => do
      if !(← symbol "[") then return none
      let size ← if sized then attempt literalCount else pure none
      expectSymbol "]"
      let size := match size with
        | some n => toString n
        | none => ""
      return some ⟨type.text ++ "[" ++ size ++ "]", .known⟩
    return (type, closed)

def dataType : Parser DataType := do balancedType (dataTypeWithin (← rest))

def typePhrase : Parser Phrase := return (← dataType).text

end Parser
end SqlLineage.Sql
