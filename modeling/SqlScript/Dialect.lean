import SqlScript.Blank
import SqlScript.Failure

namespace SqlScript

/-- The kinds of SQL that a script can be said to be written in. All are split by the same rules. -/
inductive Dialect
  | default
  | mySql
  | postgreSql
  | sqlite
  | msSql
  | oracle
  deriving DecidableEq, Repr

instance : Inhabited Dialect := ⟨.default⟩

/-- All dialects, in the order in which a name is looked for. -/
def Dialect.all : List Dialect := [.default, .mySql, .postgreSql, .sqlite, .msSql, .oracle]

def Dialect.name : Dialect → String
  | .default => "Default"
  | .mySql => "MySQL"
  | .postgreSql => "PostgreSQL"
  | .sqlite => "SQLite"
  | .msSql => "MSSQL"
  | .oracle => "Oracle"

instance : ToString Dialect := ⟨Dialect.name⟩

/-- The same characters up to the case of ASCII letters. -/
def sameLetters (a b : List Char) : Bool := a.map Char.toLower == b.map Char.toLower

/-- The dialect with this name, in any case and with any white space around it. -/
def Dialect.ofName (name : String) : Except Failure Dialect :=
  match Dialect.all.find? fun d => sameLetters d.name.toList (trimmed name.toList) with
  | some dialect => .ok dialect
  | none => .error (.unknownDialect name)

end SqlScript
