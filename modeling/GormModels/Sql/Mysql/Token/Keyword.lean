/-!
The fixed vocabulary of the lexer: operators, key phrases of several words, and the words that the
grammar keeps for itself.
-/

namespace GormModels.Sql.Mysql

/-- Characters that are tokens of their own and end a word. -/
def singleSymbols : List Char :=
  ['(', ')', '[', ']', '\x7b', '\x7d', '&', '^', ':', ',', '-', '.', '=', '>', '<', '%', '!', '|',
    '+', ';', '/', '\\', '*', '~', '?', '@', '#', '\'', '\x60', '"']

/-- Operators of several characters. -/
def longSymbols : List String :=
  ["&<", "&>", "==", "::", "?::", "||", "|>", ">=", "<=", "<>", "!=", ":=", "<=>", "->",
    "->>", "=>", "#>", "#>>", "<->", "&&", "??", "~~~", "~~", "~~*", "~*", "@@", "\x7b%", "%\x7d",
    "\x7b%+", "\x7b%-", "+%\x7d", "-%\x7d", "\x7b\x7b+", "\x7b\x7b-", "+\x7d\x7d", "-\x7d\x7d"]

/-- Words that are one token when blanks part them. -/
def keyPhrases : List String :=
  ["CHARACTER SET", "CHARACTER VARYING", "CHAR VARYING", "CLUSTER BY", "CONNECT BY", "DISTRIBUTE BY",
    "DOUBLE PRECISION", "FOREIGN KEY", "FOR TIMESTAMP", "FOR VERSION", "GROUP BY", "GROUPING SETS",
    "LOCK TABLES", "MEMBER OF", "ORDER BY", "PARTITION BY", "PARTITIONED BY", "PRIMARY KEY",
    "SIGNED INTEGER", "SIMILAR TO", "SORT BY", "SOUNDS LIKE", "SQL SECURITY", "START WITH",
    "UNLOCK TABLES", "UNSIGNED INTEGER", "USER-DEFINED"]

/-- Words with a role in the grammar that are no names of data types. -/
def grammarWords : List String :=
  ["ALL", "ALTER", "ANALYZE", "AND", "ANTI", "ANY", "APPLY", "AS", "ASC", "ASOF", "AUTOINCREMENT",
    "AUTO_INCREMENT", "BEGIN", "BETWEEN", "CACHE", "CALL", "CASE", "CHARSET", "COLLATE", "COLUMN",
    "COMMENT", "COMMIT", "CONSTRAINT", "COPY", "CREATE", "CROSS", "CUBE", "CURRENT_CATALOG",
    "CURRENT_DATE", "CURRENT_SCHEMA", "CURRENT_TIME", "CURRENT_TIMESTAMP", "CURRENT_USER", "DATABASE",
    "DEFAULT", "DELETE", "DESC", "DESCRIBE", "DISTINCT", "DISTINCTROW", "DIV", "DROP", "ELSE", "END",
    "ESCAPE", "EXCEPT", "EXECUTE", "EXISTS", "EXPLAIN", "FALSE", "FETCH", "FILE", "FILTER", "FIRST",
    "FOR", "FORCE", "FORMAT", "FROM", "FULL", "FUNCTION", "GLOB", "GRANT", "HAVING", "IGNORE", "ILIKE",
    "IN", "INDEX", "INNER", "INSERT", "INTERSECT", "INTERVAL", "INTO", "IS", "ISNULL", "JOIN", "KEEP",
    "KEY", "KILL", "LATERAL", "LEFT", "LIKE", "LIMIT", "LOAD", "LOCALTIME", "LOCALTIMESTAMP", "LOCK",
    "MERGE", "MOD", "NAMESPACE", "NATURAL", "NEXT", "NOT", "NOTNULL", "OBJECT", "OFFSET", "ON",
    "OPERATOR", "OPTIMIZE", "OR", "ORDINALITY", "OUT", "OUTER", "OVER", "OVERLAPS", "OVERWRITE",
    "PARTITION", "PARTITIONED_BY", "PERCENT", "PIVOT", "PRAGMA", "PREPARE", "PROCEDURE", "QUALIFY",
    "RANGE", "RECURSIVE", "REFERENCES", "REGEXP", "RENAME", "REPLACE", "RETURNING", "REVOKE", "RIGHT",
    "RLIKE", "ROLLBACK", "ROLLUP", "ROW", "ROWS", "SCHEMA", "SELECT", "SEMI", "SEPARATOR", "SEQUENCE",
    "SESSION", "SETTINGS", "SHOW", "SOME", "START", "STRAIGHT_JOIN", "TABLE", "TABLESAMPLE", "TEMP",
    "TEMPORARY", "THEN", "TRUE", "TRUNCATE", "UNCACHE", "UNION", "UNIQUE", "UNKNOWN", "UNNEST",
    "UNPIVOT", "UPDATE", "USE", "USING", "VACUUM", "VALUES", "VIEW", "VOLATILE", "WHEN", "WHERE",
    "WINDOW", "WITH", "XOR"]

/-- Words that name nothing unless they are quoted. -/
def reservedWords : List String :=
  ["ALTER", "AND", "AS", "BETWEEN", "CALL", "CHARACTER SET", "CHARSET", "CLUSTER BY", "CONNECT BY",
    "CREATE", "CROSS", "DISTINCT", "DISTINCTROW", "DISTRIBUTE BY", "DROP", "ELSE", "EXCEPT", "FETCH",
    "FOR", "FORCE", "FROM", "GLOB", "GRANT", "GROUP BY", "GROUPING SETS", "HAVING", "IGNORE", "ILIKE",
    "IN", "INNER", "INSERT", "INTERSECT", "INTO", "JOIN", "KEY", "LATERAL", "LIKE", "MOD", "NOT",
    "NOTNULL", "ON", "OR", "ORDER BY", "OUT", "OUTER", "PARTITION BY", "PARTITIONED BY", "PRIMARY KEY",
    "QUALIFY", "REGEXP", "RETURNING", "REVOKE", "RLIKE", "SELECT", "SEPARATOR", "SIMILAR TO", "SORT BY",
    "SOUNDS LIKE", "START WITH", "STRAIGHT_JOIN", "TABLESAMPLE", "THEN", "UNCACHE", "UNION", "USING",
    "VALUES", "WHEN", "WHERE", "WITH", "XOR"]

/-- Words with a role in the grammar that a function may be called by all the same. -/
def callableWords : List String :=
  ["ALL", "ANY", "CALL", "CHARACTER SET", "CHARSET", "COLLATE", "CURRENT_CATALOG", "CURRENT_DATE",
    "CURRENT_SCHEMA", "CURRENT_TIME", "CURRENT_TIMESTAMP", "CURRENT_USER", "DATABASE", "EXISTS",
    "FILTER", "FIRST", "FORMAT", "GLOB", "ILIKE", "INDEX", "INSERT", "ISNULL", "LEFT", "LIKE",
    "LOCALTIME", "LOCALTIMESTAMP", "LOCK TABLES", "MERGE", "MOD", "NEXT", "OFFSET", "OPTIMIZE",
    "PREPARE", "PRIMARY KEY", "RANGE", "REGEXP", "REPLACE", "RIGHT", "RLIKE", "ROW", "SCHEMA",
    "SEQUENCE", "SOME", "TABLE", "TRUNCATE", "UNLOCK TABLES", "UNNEST", "VACUUM", "VALUES",
    "WINDOW", "XOR"]

/-- Words that a name is written in backticks for. -/
def backtickedWords : List String :=
  ["ACCESSIBLE", "ADD", "ALL", "ALTER", "ANALYZE", "AND", "AS", "ASC", "ASENSITIVE", "BEFORE",
    "BETWEEN", "BIGINT", "BINARY", "BLOB", "BOTH", "BY", "CALL", "CASCADE", "CASE", "CHANGE",
    "CHAR", "CHARACTER", "CHECK", "COLLATE", "COLUMN", "CONDITION", "CONSTRAINT", "CONTINUE",
    "CONVERT", "CREATE", "CROSS", "CUBE", "CUME_DIST", "CURRENT_DATE", "CURRENT_TIME",
    "CURRENT_TIMESTAMP", "CURRENT_USER", "CURSOR", "DATABASE", "DATABASES", "DAY_HOUR",
    "DAY_MICROSECOND", "DAY_MINUTE", "DAY_SECOND", "DEC", "DECIMAL", "DECLARE", "DEFAULT",
    "DELAYED", "DELETE", "DENSE_RANK", "DESC", "DESCRIBE", "DETERMINISTIC", "DISTINCT",
    "DISTINCTROW", "DIV", "DOUBLE", "DROP", "DUAL", "EACH", "ELSE", "ELSEIF", "EMPTY", "ENCLOSED",
    "ESCAPED", "EXCEPT", "EXISTS", "EXIT", "EXPLAIN", "FALSE", "FETCH", "FIRST_VALUE", "FLOAT",
    "FLOAT4", "FLOAT8", "FOR", "FORCE", "FOREIGN", "FROM", "FULLTEXT", "FUNCTION", "GENERATED",
    "GET", "GRANT", "GROUP", "GROUPING", "GROUPS", "HAVING", "HIGH_PRIORITY", "HOUR_MICROSECOND",
    "HOUR_MINUTE", "HOUR_SECOND", "IF", "IGNORE", "IN", "INDEX", "INFILE", "INNER", "INOUT",
    "INSENSITIVE", "INSERT", "INT", "INT1", "INT2", "INT3", "INT4", "INT8", "INTEGER", "INTERSECT",
    "INTERVAL", "INTO", "IO_AFTER_GTIDS", "IO_BEFORE_GTIDS", "IS", "ITERATE", "JOIN", "JSON_TABLE",
    "KEY", "KEYS", "KILL", "LAG", "LAST_VALUE", "LATERAL", "LEAD", "LEADING", "LEAVE", "LEFT",
    "LIKE", "LIMIT", "LINEAR", "LINES", "LOAD", "LOCALTIME", "LOCALTIMESTAMP", "LOCK", "LONG",
    "LONGBLOB", "LONGTEXT", "LOOP", "LOW_PRIORITY", "MASTER_BIND", "MASTER_SSL_VERIFY_SERVER_CERT",
    "MATCH", "MAXVALUE", "MEDIUMBLOB", "MEDIUMINT", "MEDIUMTEXT", "MIDDLEINT",
    "MINUTE_MICROSECOND", "MINUTE_SECOND", "MOD", "MODIFIES", "NATURAL", "NOT",
    "NO_WRITE_TO_BINLOG", "NTH_VALUE", "NTILE", "NULL", "NUMERIC", "OF", "ON", "OPTIMIZE",
    "OPTIMIZER_COSTS", "OPTION", "OPTIONALLY", "OR", "ORDER", "OUT", "OUTER", "OUTFILE", "OVER",
    "PARTITION", "PERCENT_RANK", "PRECISION", "PRIMARY", "PROCEDURE", "PURGE", "RANGE", "RANK",
    "READ", "READS", "READ_WRITE", "REAL", "RECURSIVE", "REFERENCES", "REGEXP", "RELEASE",
    "RENAME", "REPEAT", "REPLACE", "REQUIRE", "RESIGNAL", "RESTRICT", "RETURN", "REVOKE", "RIGHT",
    "RLIKE", "ROW", "ROWS", "ROW_NUMBER", "SCHEMA", "SCHEMAS", "SECOND_MICROSECOND", "SELECT",
    "SENSITIVE", "SEPARATOR", "SET", "SHOW", "SIGNAL", "SMALLINT", "SPATIAL", "SPECIFIC", "SQL",
    "SQLEXCEPTION", "SQLSTATE", "SQLWARNING", "SQL_BIG_RESULT", "SQL_CALC_FOUND_ROWS",
    "SQL_SMALL_RESULT", "SSL", "STARTING", "STORED", "STRAIGHT_JOIN", "SYSTEM", "TABLE",
    "TERMINATED", "THEN", "TINYBLOB", "TINYINT", "TINYTEXT", "TO", "TRAILING", "TRIGGER", "TRUE",
    "UNDO", "UNION", "UNIQUE", "UNLOCK", "UNSIGNED", "UPDATE", "USAGE", "USE", "USING", "UTC_DATE",
    "UTC_TIME", "UTC_TIMESTAMP", "VALUES", "VARBINARY", "VARCHAR", "VARCHARACTER", "VARYING",
    "VIRTUAL", "WHEN", "WHERE", "WHILE", "WINDOW", "WITH", "WRITE", "XOR", "YEAR_MONTH",
    "ZEROFILL"]

end GormModels.Sql.Mysql
