/-! Writing a text between quotes: a quote inside is doubled, unless it already stands doubled or
after a backslash. -/

namespace SqlLineage.Sql

/-- `previous` is the last character that was not a quote kept by its backslash. -/
def doubleQuotesFrom (quote previous : Char) : List Char → List Char
  | [] => []
  | c :: rest =>
    if c = quote then
      if previous = '\\' then c :: doubleQuotesFrom quote previous rest
      else match rest with
        | [] => [c, c]
        | next :: rest' =>
          if next = quote then c :: c :: doubleQuotesFrom quote c rest'
          else c :: c :: next :: doubleQuotesFrom quote next rest'
    else c :: doubleQuotesFrom quote c rest

def doubleQuotes (quote : Char) (s : String) : String :=
  String.ofList (doubleQuotesFrom quote (Char.ofNat 0) s.toList)

/-- A text between two copies of a quote. -/
def quoted (quote : Char) (s : String) : String :=
  quote.toString ++ doubleQuotes quote s ++ quote.toString

end SqlLineage.Sql
