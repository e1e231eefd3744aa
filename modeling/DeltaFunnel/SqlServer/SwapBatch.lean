import DeltaFunnel.Sql.Lexer
import DeltaFunnel.SqlServer.Target

/-! The batch that swaps a staging table into the target name, and the tokens that SQL Server reads
in it. -/

namespace DeltaFunnel
open Sql

def stableResourceHash (value : String) : UInt64 :=
  value.toUTF8.data.toList.foldl (fun hash byte => (hash ^^^ byte.toUInt64) * 0x100000001b3)
    0xcbf29ce484222325

/-- `{:016x}`. -/
def paddedHex (value : UInt64) : String :=
  String.ofList ((List.range 16).map fun i => hexDigit (value.toNat >>> (4 * (15 - i)) % 16))

def maxResourceChars : ℕ := 255

def replaceLockResource (finalTable : TableName) : String :=
  let resource := "delta-funnel:replace:" ++ finalTable.quotedSql
  if resource.toList.length ≤ maxResourceChars then resource
  else
    let prefixChars := maxResourceChars - 16 - 1
    String.ofList (resource.toList.take prefixChars) ++ ":" ++
      paddedHex (stableResourceHash resource)

def sqlNvarcharLiteral (value : String) : String :=
  "N'" ++ String.ofList (value.toList.flatMap fun c => if c = '\'' then ['\'', '\''] else [c]) ++ "'"

def lockText : List String :=
  ["SET XACT_ABORT ON;\n",
    "BEGIN TRY\n",
    "    BEGIN TRANSACTION;\n",
    "    DECLARE @delta_funnel_lock_result int;\n",
    "    EXEC @delta_funnel_lock_result = sys.sp_getapplock ",
    "@Resource = "]

def lockArgumentsText : List String :=
  [", ",
    "@LockMode = 'Exclusive', ",
    "@LockOwner = 'Transaction', ",
    "@LockTimeout = 0;\n",
    "    IF @delta_funnel_lock_result < 0\n",
    "        THROW 51000, 'DeltaFunnel replace lock was not acquired', 1;\n",
    "    IF OBJECT_ID("]

def stagingMissingText : List String :=
  [", N'U') IS NULL\n",
    "        THROW 51002, 'DeltaFunnel replace staging table is missing', 1;\n",
    "    IF OBJECT_ID("]

def backupExistsText : List String :=
  [", N'U') IS NOT NULL\n",
    "        THROW 51003, 'DeltaFunnel replace backup table already exists', 1;\n",
    "    IF OBJECT_ID("]

def finalExistsText : List String :=
  [", N'U') IS NOT NULL\n",
    "    BEGIN\n",
    "        EXEC sys.sp_rename @objname = "]

def newNameText : List String :=
  [", ",
    "@newname = "]

def nextRenameText : List String :=
  [", @objtype = 'OBJECT';\n",
    "        EXEC sys.sp_rename @objname = "]

def dropTableText : List String :=
  [", @objtype = 'OBJECT';\n",
    "        DROP TABLE "]

def finalAbsentText : List String :=
  [";\n",
    "    END\n",
    "    ELSE\n",
    "    BEGIN\n",
    "        EXEC sys.sp_rename @objname = "]

def commitText : List String :=
  [", @objtype = 'OBJECT';\n",
    "    END\n",
    "    COMMIT TRANSACTION;\n",
    "END TRY\n",
    "BEGIN CATCH\n",
    "    IF @@TRANCOUNT > 0\n",
    "        ROLLBACK TRANSACTION;\n",
    "    THROW;\n",
    "END CATCH;"]

def replaceSwapSql (finalTable stagingTable backupTable : TableName) : String :=
  let lockResource := sqlNvarcharLiteral (replaceLockResource finalTable)
  let finalObject := sqlNvarcharLiteral finalTable.quotedSql
  let stagingObject := sqlNvarcharLiteral stagingTable.quotedSql
  let backupObject := sqlNvarcharLiteral backupTable.quotedSql
  let backupTableName := sqlNvarcharLiteral backupTable.table
  let finalTableName := sqlNvarcharLiteral finalTable.table
  String.join lockText ++ lockResource ++
  String.join lockArgumentsText ++ stagingObject ++
  String.join stagingMissingText ++ backupObject ++
  String.join backupExistsText ++ finalObject ++
  String.join finalExistsText ++ finalObject ++ String.join newNameText ++ backupTableName ++
  String.join nextRenameText ++ stagingObject ++ String.join newNameText ++ finalTableName ++
  String.join dropTableText ++ backupTable.quotedSql ++
  String.join finalAbsentText ++ stagingObject ++ String.join newNameText ++ finalTableName ++
  String.join commitText

theorem sqlNvarcharLiteral_toList (value : String) :
    (sqlNvarcharLiteral value).toList = nationalText value := by
  have hopen : "N'".toList = ['N', '\''] := literal_toList rfl
  have hclose : "'".toList = ['\''] := literal_toList rfl
  rw [sqlNvarcharLiteral, String.toList_append, String.toList_append, hopen, hclose,
    String.toList_ofList]
  rfl

theorem quoteIdentifier_toList (text : String) :
    (TableName.quoteIdentifier text).toList = bracketed text := by
  have hopen : "[".toList = ['['] := literal_toList rfl
  have hclose : "]".toList = [']'] := literal_toList rfl
  rw [TableName.quoteIdentifier, String.toList_append, String.toList_append, hopen, hclose,
    String.toList_ofList]
  rfl

theorem quotedSql_toList (name : TableName) :
    name.quotedSql.toList = quotedName name.schema name.table := by
  have hdot : ".".toList = ['.'] := literal_toList rfl
  unfold TableName.quotedSql
  cases name.schema with
  | none => exact quoteIdentifier_toList name.table
  | some schema =>
    show (TableName.quoteIdentifier schema ++ "." ++ TableName.quoteIdentifier name.table).toList = _
    rw [String.toList_append, String.toList_append, quoteIdentifier_toList, quoteIdentifier_toList,
      hdot, List.append_assoc]
    rfl

def lockTokens : List (List Token) :=
  [[.word "SET", .word "XACT_ABORT", .word "ON", .symbol ';'],
    [.word "BEGIN", .word "TRY"],
    [.word "BEGIN", .word "TRANSACTION", .symbol ';'],
    [.word "DECLARE", .word "@delta_funnel_lock_result", .word "int", .symbol ';'],
    [.word "EXEC", .word "@delta_funnel_lock_result", .symbol '=', .word "sys", .symbol '.',
      .word "sp_getapplock"],
    [.word "@Resource", .symbol '=']]

def lockArgumentsTokens : List (List Token) :=
  [[.symbol ','],
    [.word "@LockMode", .symbol '=', .text false "Exclusive", .symbol ','],
    [.word "@LockOwner", .symbol '=', .text false "Transaction", .symbol ','],
    [.word "@LockTimeout", .symbol '=', .word "0", .symbol ';'],
    [.word "IF", .word "@delta_funnel_lock_result", .symbol '<', .word "0"],
    [.word "THROW", .word "51000", .symbol ',',
      .text false "DeltaFunnel replace lock was not acquired", .symbol ',', .word "1", .symbol ';'],
    [.word "IF", .word "OBJECT_ID", .symbol '(']]

def stagingMissingTokens : List (List Token) :=
  [[.symbol ',', .text true "U", .symbol ')', .word "IS", .word "NULL"],
    [.word "THROW", .word "51002", .symbol ',',
      .text false "DeltaFunnel replace staging table is missing", .symbol ',', .word "1",
      .symbol ';'],
    [.word "IF", .word "OBJECT_ID", .symbol '(']]

def backupExistsTokens : List (List Token) :=
  [[.symbol ',', .text true "U", .symbol ')', .word "IS", .word "NOT", .word "NULL"],
    [.word "THROW", .word "51003", .symbol ',',
      .text false "DeltaFunnel replace backup table already exists", .symbol ',', .word "1",
      .symbol ';'],
    [.word "IF", .word "OBJECT_ID", .symbol '(']]

def finalExistsTokens : List (List Token) :=
  [[.symbol ',', .text true "U", .symbol ')', .word "IS", .word "NOT", .word "NULL"],
    [.word "BEGIN"],
    [.word "EXEC", .word "sys", .symbol '.', .word "sp_rename", .word "@objname", .symbol '=']]

def newNameTokens : List (List Token) :=
  [[.symbol ','],
    [.word "@newname", .symbol '=']]

def nextRenameTokens : List (List Token) :=
  [[.symbol ',', .word "@objtype", .symbol '=', .text false "OBJECT", .symbol ';'],
    [.word "EXEC", .word "sys", .symbol '.', .word "sp_rename", .word "@objname", .symbol '=']]

def dropTableTokens : List (List Token) :=
  [[.symbol ',', .word "@objtype", .symbol '=', .text false "OBJECT", .symbol ';'],
    [.word "DROP", .word "TABLE"]]

def finalAbsentTokens : List (List Token) :=
  [[.symbol ';'],
    [.word "END"],
    [.word "ELSE"],
    [.word "BEGIN"],
    [.word "EXEC", .word "sys", .symbol '.', .word "sp_rename", .word "@objname", .symbol '=']]

def commitTokens : List (List Token) :=
  [[.symbol ',', .word "@objtype", .symbol '=', .text false "OBJECT", .symbol ';'],
    [.word "END"],
    [.word "COMMIT", .word "TRANSACTION", .symbol ';'],
    [.word "END", .word "TRY"],
    [.word "BEGIN", .word "CATCH"],
    [.word "IF", .word "@@TRANCOUNT", .symbol '>', .word "0"],
    [.word "ROLLBACK", .word "TRANSACTION", .symbol ';'],
    [.word "THROW", .symbol ';'],
    [.word "END", .word "CATCH", .symbol ';']]

/-- A placeholder is one token: a text with the value it stands for. -/
def valueToken (value : String) : Token := .text true value

def nameToken (name : TableName) : Token := .name (name.schema.toList ++ [name.table])

def swapTokens (finalTable stagingTable backupTable : TableName) : List Token :=
  lockTokens.flatten ++ valueToken (replaceLockResource finalTable) ::
  lockArgumentsTokens.flatten ++ valueToken stagingTable.quotedSql ::
  stagingMissingTokens.flatten ++ valueToken backupTable.quotedSql ::
  backupExistsTokens.flatten ++ valueToken finalTable.quotedSql ::
  finalExistsTokens.flatten ++ valueToken finalTable.quotedSql ::
  newNameTokens.flatten ++ valueToken backupTable.table ::
  nextRenameTokens.flatten ++ valueToken stagingTable.quotedSql ::
  newNameTokens.flatten ++ valueToken finalTable.table ::
  dropTableTokens.flatten ++ nameToken backupTable ::
  finalAbsentTokens.flatten ++ valueToken stagingTable.quotedSql ::
  newNameTokens.flatten ++ valueToken finalTable.table ::
  commitTokens.flatten

theorem lock_piece : Sql.Piece (String.join lockText) lockTokens.flatten :=
  .fixed (by repeat constructor) (by decide)

theorem lock_arguments_piece : Sql.Piece (String.join lockArgumentsText) lockArgumentsTokens.flatten :=
  .fixed (by repeat constructor) (by decide)

theorem staging_missing_piece : Sql.Piece (String.join stagingMissingText) stagingMissingTokens.flatten :=
  .fixed (by repeat constructor) (by decide)

theorem backup_exists_piece : Sql.Piece (String.join backupExistsText) backupExistsTokens.flatten :=
  .fixed (by repeat constructor) (by decide)

theorem final_exists_piece : Sql.Piece (String.join finalExistsText) finalExistsTokens.flatten :=
  .fixed (by repeat constructor) (by decide)

theorem new_name_piece : Sql.Piece (String.join newNameText) newNameTokens.flatten :=
  .fixed (by repeat constructor) (by decide)

theorem next_rename_piece : Sql.Piece (String.join nextRenameText) nextRenameTokens.flatten :=
  .fixed (by repeat constructor) (by decide)

theorem drop_table_piece : Sql.Piece (String.join dropTableText) dropTableTokens.flatten :=
  .fixed (by repeat constructor) (by decide)

theorem final_absent_piece : Sql.Piece (String.join finalAbsentText) finalAbsentTokens.flatten :=
  .fixed (by repeat constructor) (by decide)

theorem commit_piece : Sql.Piece (String.join commitText) commitTokens.flatten :=
  .fixed (by repeat constructor) (by decide)

theorem replaceSwapSql_tokens (finalTable stagingTable backupTable : TableName) :
    lex (replaceSwapSql finalTable stagingTable backupTable).toList =
      some (swapTokens finalTable stagingTable backupTable) := by
  have hend : (String.join commitText).toList = (String.join commitText).toList ++ [] :=
    (List.append_nil _).symm
  have hempty : run .gap [] = some [] := rfl
  unfold lex replaceSwapSql
  simp only [String.toList_append, sqlNvarcharLiteral_toList, quotedSql_toList, List.append_assoc]
  -- Each placeholder is read together with the piece after it, which tells where it ends.
  rw [hend, lock_piece.run, lock_arguments_piece.run_after_text, staging_missing_piece.run_after_text,
    backup_exists_piece.run_after_text, final_exists_piece.run_after_text,
    new_name_piece.run_after_text, next_rename_piece.run_after_text,
    new_name_piece.run_after_text, drop_table_piece.run_after_text,
    final_absent_piece.run_after_name, new_name_piece.run_after_text,
    commit_piece.run_after_text, hempty]
  simp only [Option.map_some, swapTokens, valueToken, nameToken, List.append_assoc,
    List.cons_append, List.append_nil]

/-- Whatever the names hold, SQL Server reads the batch as its template with one token for each
placeholder; a literal is read back as the value it was made of, and a quoted name as its parts. -/
theorem replaceSwapSql_injection_free :
    (∀ finalTable stagingTable backupTable : TableName,
        lex (replaceSwapSql finalTable stagingTable backupTable).toList =
          some (swapTokens finalTable stagingTable backupTable)) ∧
      (∀ value, lex (sqlNvarcharLiteral value).toList = some [valueToken value]) ∧
      ∀ name : TableName, lex name.quotedSql.toList = some [nameToken name] := by
  refine ⟨replaceSwapSql_tokens, fun value => ?_, fun name => ?_⟩
  · rw [sqlNvarcharLiteral_toList]
    exact lex_nationalText value
  · rw [quotedSql_toList]
    exact lex_quotedName name.schema name.table

example : lex "DROP TABLE [a]].[b]; -- [c".toList =
    some [.word "DROP", .word "TABLE", .name ["a].[b"], .symbol ';'] := by decide

end DeltaFunnel
