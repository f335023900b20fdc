import RetrySafe.Sql.Token

/-!
# SQL commands

A small part of SQL: rows with one number are inserted, a column is set to a sum, a table is emptied
or dropped, and a column is read. A text holds commands between semicolons. Reading one ends at the
first token that does not fit, or at the end of the text if it is open.

## Main definitions

* `Sql.Command` — a command; `Sql.Sum` — a value.
* `Sql.Fault` — why a text is no command.
* `Sql.commands` — the commands of a text.
-/

namespace RetrySafe.Sql

/-- A name in a command, and the number of bytes before it. -/
structure Name where
  text : String
  start : Nat

/-- A value: a number, a column, or a sum. -/
inductive Sum
  | number (n : Int)
  | column (name : Name)
  | negated (value : Sum)
  | plus (left right : Sum)

namespace Sum

/-- The columns of a value. -/
def columns : Sum → List Name
  | number _ => []
  | column name => [name]
  | negated value => value.columns
  | plus left right => left.columns ++ right.columns

/-- The value where every column holds the same number. -/
def eval (n : Int) : Sum → Int
  | number m => m
  | column _ => n
  | negated value => -value.eval n
  | plus left right => left.eval n + right.eval n

end Sum

/-- A command. -/
inductive Command
  | insert (table column : Name) (value : Sum)
  | update (table column : Name) (value : Sum)
  | delete (table : Name)
  | drop (table : Name)
  | select (column table : Name)

/-- Why a text is no command. -/
inductive Fault
  | unexpected (token : Token)
  | unrecognized (token : Token)
  | incomplete

/-- The sentence for a fault in a text. -/
def Fault.message (sql : String) : Fault → String
  | unexpected token =>
    "near \"" ++ token.text ++ "\": syntax error in " ++ sql ++ " at offset " ++
      toString token.start
  | unrecognized token =>
    "unrecognized token: \"" ++ token.text ++ "\" in " ++ sql ++ " at offset " ++
      toString token.start
  | incomplete => "incomplete input"

/-- What reads a part of a text, from a place on. -/
abbrev Reader := StateT (Nat × List Char) (Except Fault)

namespace Reader

/-- The next token, which is not taken. -/
def peek : Reader (Option Token) := do
  let (place, cs) ← get
  match next? place cs with
  | some token => if token.kind = .illegal then throw (.unrecognized token) else return some token
  | none => return none

/-- Go on behind a token. -/
def take (token : Token) : Reader Unit := set (token.finish, token.rest)

/-- Refuse the next token. -/
def refuse {α : Type} (token? : Option Token) : Reader α :=
  throw (match token? with
    | some token => .unexpected token
    | none => .incomplete)

/-- Whether a token is a keyword; its case does not count. -/
def isKeyword (token : Token) (word : String) : Bool :=
  token.kind = .word && token.text.map Char.toLower = word

/-- Whether a token is a mark. -/
def isMark (token : Token) (mark : String) : Bool := token.kind = .mark && token.text = mark

/-- A token that has to be of a kind. -/
def require (fits : Token → Bool) : Reader Token := do
  match ← peek with
  | some token =>
    if fits token then
      take token
      return token
    else refuse (some token)
  | none => refuse none

/-- Keywords. -/
def keywords (words : List String) : Reader Unit :=
  words.forM fun word => discard (require (isKeyword · word))

/-- A mark. -/
def mark (m : String) : Reader Unit := discard (require (isMark · m))

/-- The keywords that are no names. -/
def reserved : List String :=
  ["add", "all", "alter", "and", "as", "autoincrement", "between", "case", "check", "collate",
    "commit", "constraint", "create", "default", "deferrable", "delete", "distinct", "drop", "else",
    "escape", "except", "exists", "foreign", "from", "group", "having", "in", "index", "insert",
    "intersect", "into", "is", "isnull", "join", "limit", "not", "nothing", "notnull", "null", "on",
    "or", "order", "primary", "references", "returning", "select", "set", "table", "then", "to",
    "transaction", "union", "unique", "update", "using", "values", "when", "where"]

/-- The name that a token is. -/
def name? (token : Token) : Option Name :=
  match token.kind with
  | .word =>
    if reserved.contains (token.text.map Char.toLower) then none
    else some ⟨token.text, token.start⟩
  | .name text => some ⟨text, token.start⟩
  | _ => none

/-- A name. -/
def name : Reader Name := do
  let token ← require fun token => (name? token).isSome
  return (name? token).getD ⟨token.text, token.start⟩

/-- A number or a column, with signs before it, at most so many. -/
def operand : Nat → Reader Sum
  | 0 => do refuse (← peek)
  | fuel + 1 => do
    match ← peek with
    | none => refuse none
    | some token =>
      if isMark token "-" then
        take token
        return .negated (← operand fuel)
      else if isMark token "+" then
        take token
        operand fuel
      else
        match token.kind, name? token with
        | .integer n, _ =>
          take token
          return .number n
        | _, some name =>
          take token
          return .column name
        | _, none => refuse (some token)

/-- A sum that goes on from its first part, with at most so many more. -/
def sumFrom : Nat → Sum → Reader Sum
  | 0, left => return left
  | fuel + 1, left => do
    match ← peek with
    | none => return left
    | some token =>
      if isMark token "+" then
        take token
        sumFrom fuel (.plus left (← operand (fuel + 1)))
      else if isMark token "-" then
        take token
        sumFrom fuel (.plus left (.negated (← operand (fuel + 1))))
      else return left

/-- A value. -/
def sum : Reader Sum := do
  let length := (← get).2.length
  sumFrom length (← operand length)

/-- What follows the keyword that a command starts with. -/
def commandAfter (first : Token) : Reader Command := do
  if isKeyword first "insert" then
    keywords ["into"]
    let table ← name
    mark "("
    let column ← name
    mark ")"
    keywords ["values"]
    mark "("
    let value ← sum
    mark ")"
    return .insert table column value
  else if isKeyword first "update" then
    let table ← name
    keywords ["set"]
    let column ← name
    mark "="
    return .update table column (← sum)
  else if isKeyword first "delete" then
    keywords ["from"]
    return .delete (← name)
  else if isKeyword first "drop" then
    keywords ["table"]
    return .drop (← name)
  else
    let column ← name
    keywords ["from"]
    return .select column (← name)

/-- The keywords that commands start with. -/
def starts : List String := ["insert", "update", "delete", "drop", "select"]

/-- The end of a command: a semicolon or the end of the text. -/
def finish : Reader Unit := do
  match ← peek with
  | none => return
  | some token => if isMark token ";" then take token else refuse (some token)

/-- The first command, after at most so many semicolons, unless there is none. -/
def command? : Nat → Reader (Option Command)
  | 0 => return none
  | fuel + 1 => do
    match ← peek with
    | none => return none
    | some token =>
      if isMark token ";" then
        take token
        command? fuel
      else if starts.any (isKeyword token ·) then
        take token
        let command ← commandAfter token
        finish
        return some command
      else refuse (some token)

end Reader

/-- The commands of a text, at most so many, each with the text from its start on. After one that
cannot be read there are no others. -/
def commandsFrom : Nat → List Char → List (String × Except Fault Command)
  | 0, _ => []
  | fuel + 1, cs =>
    match (Reader.command? (cs.length + 1)).run (0, cs) with
    | .error fault => [(String.ofList cs, .error fault)]
    | .ok (none, _) => []
    | .ok (some command, _, rest) => (String.ofList cs, .ok command) :: commandsFrom fuel rest

/-- The commands of a text. -/
def commands (text : String) : List (String × Except Fault Command) :=
  commandsFrom (text.length + 1) text.toList

end RetrySafe.Sql
