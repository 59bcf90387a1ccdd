import Passage.SslMode

namespace Passage

inductive Dialect where
  | postgres
  | mysql
  | mariadb
  | mssql
  | db2
  deriving DecidableEq

namespace Dialect

def all : List Dialect := [.postgres, .mysql, .mariadb, .mssql, .db2]

def name : Dialect → String
  | .postgres => "postgres"
  | .mysql => "mysql"
  | .mariadb => "mariadb"
  | .mssql => "mssql"
  | .db2 => "db2"

def debug : Dialect → String
  | .postgres => "Postgres"
  | .mysql => "Mysql"
  | .mariadb => "Mariadb"
  | .mssql => "Mssql"
  | .db2 => "Db2"

def ofLowerName? : String → Option Dialect
  | "postgres" | "postgresql" => some .postgres
  | "mysql" => some .mysql
  | "mariadb" => some .mariadb
  | "mssql" | "sqlserver" => some .mssql
  | "db2" => some .db2
  | _ => none

def ofName? (text : String) : Option Dialect :=
  all.find? fun d => d.name = text

def defaultPort : Dialect → Option UInt16
  | .postgres => some 5432
  | .mysql | .mariadb => some 3306
  | .mssql => some 1433
  | .db2 => none

/-- How a dialect's drivers want TLS to be asked for. -/
inductive TlsStyle where
  | sslObject
  | encryptFlags
  deriving DecidableEq

def tlsStyle : Dialect → Option TlsStyle
  | .postgres | .mysql | .mariadb => some .sslObject
  | .mssql => some .encryptFlags
  | .db2 => none

def supportsTls (d : Dialect) : Bool := d.tlsStyle.isSome

end Dialect
end Passage
