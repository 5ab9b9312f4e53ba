/-
  The words that each dialect reserves, in lower case and
  alphabetical order.  A name that is such a word in any case
  of its letters has to be quoted.

  Key definitions include:
    * `Reserved.mysql`
    * `Reserved.postgresql`
    * `Reserved.sqlite`
    * `Reserved.duckdb`
-/

------------------------------------------------------------
-- Reserved Words
------------------------------------------------------------

namespace SqlTemplate

namespace Reserved

/- The words reserved by MySQL. -/
def mysql : List String := [
  "accessible", "add", "all", "alter", "analyze", "and", "as", "asc",
  "asensitive", "before", "between", "bigint", "binary", "blob",
  "both", "by", "call", "cascade", "case", "change", "char",
  "character", "check", "collate", "column", "condition", "constraint",
  "continue", "convert", "create", "cross", "cube", "cume_dist",
  "current_date", "current_time", "current_timestamp", "current_user",
  "cursor", "database", "databases", "day_hour", "day_microsecond",
  "day_minute", "day_second", "dec", "decimal", "declare", "default",
  "delayed", "delete", "dense_rank", "desc", "describe",
  "deterministic", "distinct", "distinctrow", "div", "double", "drop",
  "dual", "each", "else", "elseif", "empty", "enclosed", "escaped",
  "except", "exists", "exit", "explain", "false", "fetch", "float",
  "float4", "float8", "for", "force", "foreign", "from", "fulltext",
  "function", "generated", "get", "grant", "group", "grouping",
  "groups", "having", "high_priority", "hour_microsecond",
  "hour_minute", "hour_second", "if", "ignore", "in", "index",
  "infile", "inner", "inout", "insensitive", "insert", "int", "int1",
  "int2", "int3", "int4", "int8", "integer", "interval", "into",
  "io_after_gtids", "io_before_gtids", "is", "iterate", "join",
  "json_table", "key", "keys", "kill", "lag", "last_value", "lateral",
  "lead", "leading", "leave", "left", "like", "limit", "linear",
  "lines", "load", "localtime", "localtimestamp", "lock", "long",
  "longblob", "longtext", "loop", "low_priority", "master_bind",
  "master_ssl_verify_server_cert", "match", "maxvalue", "mediumblob",
  "mediumint", "mediumtext", "member", "merge", "middleint",
  "minute_microsecond", "minute_second", "mod", "modifies", "natural",
  "no_write_to_binlog", "not", "null", "numeric", "of", "on",
  "optimize", "optimizer_costs", "option", "optionally", "or", "order",
  "out", "outer", "outfile", "over", "partition", "percent_rank",
  "primary", "procedure", "purge", "range", "rank", "read",
  "read_write", "reads", "real", "recursive", "references", "regexp",
  "release", "rename", "repeat", "replace", "require", "resignal",
  "restrict", "return", "revoke", "right", "rlike", "row",
  "row_number", "rows", "schema", "schemas", "second_microsecond",
  "select", "sensitive", "separator", "set", "show", "signal",
  "smallint", "spatial", "specific", "sql", "sql_big_result",
  "sql_calc_found_rows", "sql_small_result", "sqlexception",
  "sqlstate", "sqlwarning", "ssl", "starting", "stored",
  "straight_join", "system", "table", "terminated", "then", "tinyblob",
  "tinyint", "tinytext", "to", "trailing", "trigger", "true", "undo",
  "union", "unique", "unlock", "unsigned", "update", "usage", "use",
  "using", "utc_date", "utc_time", "utc_timestamp", "values",
  "varbinary", "varchar", "varcharacter", "varying", "virtual", "when",
  "where", "while", "window", "with", "write", "xor", "year_month",
  "zerofill"]

/- The words reserved by PostgreSQL. -/
def postgresql : List String := [
  "all", "alter", "analyse", "analyze", "and", "any", "array", "as",
  "asc", "asymmetric", "between", "both", "by", "case", "cast",
  "check", "collate", "column", "constraint", "create", "cross",
  "current_catalog", "current_date", "current_role", "current_time",
  "current_timestamp", "current_user", "default", "deferrable",
  "delete", "desc", "distinct", "do", "drop", "else", "end", "except",
  "exists", "false", "fetch", "for", "foreign", "from", "grant",
  "group", "having", "in", "index", "initially", "inner", "insert",
  "intersect", "into", "is", "join", "lateral", "leading", "left",
  "like", "limit", "localtime", "localtimestamp", "not", "null",
  "offset", "on", "only", "or", "order", "outer", "placing", "primary",
  "references", "returning", "right", "select", "session_user", "set",
  "some", "symmetric", "table", "then", "to", "trailing", "true",
  "union", "unique", "update", "user", "using", "values", "variadic",
  "when", "where", "window", "with"]

/- The words reserved by SQLite. -/
def sqlite : List String := [
  "abort", "action", "add", "after", "all", "alter", "always",
  "analyze", "and", "as", "asc", "attach", "autoincrement", "before",
  "begin", "between", "by", "cascade", "case", "cast", "check",
  "collate", "column", "commit", "conflict", "constraint", "create",
  "cross", "current", "current_date", "current_time",
  "current_timestamp", "database", "default", "deferrable", "deferred",
  "delete", "desc", "detach", "distinct", "do", "drop", "each", "else",
  "end", "escape", "except", "exclude", "exclusive", "exists",
  "explain", "fail", "filter", "first", "following", "for", "foreign",
  "from", "full", "generated", "glob", "group", "groups", "having",
  "if", "ignore", "immediate", "in", "index", "indexed", "initially",
  "inner", "insert", "instead", "intersect", "into", "is", "isnull",
  "join", "key", "last", "left", "like", "limit", "match",
  "materialized", "natural", "no", "not", "nothing", "notnull", "null",
  "nulls", "of", "offset", "on", "or", "order", "others", "outer",
  "over", "partition", "plan", "pragma", "preceding", "primary",
  "query", "raise", "range", "recursive", "references", "regexp",
  "reindex", "release", "rename", "replace", "restrict", "returning",
  "right", "rollback", "row", "rows", "savepoint", "select", "set",
  "table", "temp", "temporary", "then", "ties", "to", "transaction",
  "trigger", "true", "unbounded", "union", "unique", "update", "using",
  "vacuum", "values", "view", "virtual", "when", "where", "window",
  "with", "without"]

/- The words reserved by DuckDB. -/
def duckdb : List String := [
  "all", "alter", "and", "any", "array", "as", "asc", "between", "by",
  "case", "cast", "check", "column", "constraint", "create", "cross",
  "current", "current_date", "current_time", "current_timestamp",
  "default", "delete", "desc", "distinct", "drop", "else", "end",
  "except", "exists", "false", "for", "foreign", "from", "full",
  "grant", "group", "having", "in", "index", "inner", "insert",
  "intersect", "into", "is", "isnull", "join", "lateral", "left",
  "like", "limit", "not", "notnull", "null", "offset", "on", "or",
  "order", "outer", "primary", "references", "right", "select", "set",
  "table", "then", "to", "true", "union", "unique", "update", "using",
  "values", "when", "where", "with"]

end Reserved

end SqlTemplate
