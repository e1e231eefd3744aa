import Mathlib.Logic.Function.Basic
import DeltaFunnel.Error

/-! Names of tables in a session: which are accepted, and the query engine's catalog of the
tables registered under them. -/

namespace DeltaFunnel

def emptyName : String := "source names must not be empty"

def invalidFirstCharacter : String := "source names must start with an ASCII letter or underscore"

def invalidCharacter : String :=
  "source names may contain only ASCII letters, digits, and underscores"

def sqlKeyword : String := "source names must not be SQL keywords"

def reservedSqlKeywords : List String :=
  ["all", "alter", "analyze", "and", "anti", "as", "asof", "by", "case", "connect", "cross",
    "delete", "distinct", "distribute", "drop", "else", "end", "except", "exists", "explain",
    "false", "fetch", "for", "format", "from", "full", "global", "group", "having", "in", "inner",
    "insert", "intersect", "into", "is", "join", "lateral", "left", "like", "limit", "minus",
    "natural", "not", "null", "offset", "on", "open", "or", "order", "outer", "partition",
    "pivot", "prewhere", "qualify", "returning", "right", "sample", "select", "semi", "set",
    "settings", "sort", "start", "table", "tablesample", "then", "top", "true", "union",
    "unpivot", "update", "using", "values", "view", "when", "where", "window", "with"]

def isValidFirstCharacter (c : Char) : Bool := c = '_' || isAsciiAlphabetic c

def isValidFollowingCharacter (c : Char) : Bool :=
  c = '_' || (isAsciiAlphabetic c || isAsciiDigit c)

def isReservedSqlKeyword (value : String) : Bool :=
  reservedSqlKeywords.any fun keyword => eqIgnoreAsciiCase value keyword

def validateSourceName (name : String) : Except DeltaFunnelError Unit :=
  match name.toList with
  | [] => .error (.invalidSourceName name emptyName)
  | first :: rest =>
    if !isValidFirstCharacter first then .error (.invalidSourceName name invalidFirstCharacter)
    else if !rest.all isValidFollowingCharacter then
      .error (.invalidSourceName name invalidCharacter)
    else if isReservedSqlKeyword name then .error (.invalidSourceName name sqlKeyword)
    else .ok ()

/-- The names are checked in order, `seen` holds the lowercase forms of those before. -/
def validateTableSourceNamesFrom (seen : List String) :
    List String → Except DeltaFunnelError Unit
  | [] => .ok ()
  | name :: names => do
    validateSourceName name
    if toAsciiLowercase name ∈ seen then .error (.duplicateSourceName name)
    else validateTableSourceNamesFrom (toAsciiLowercase name :: seen) names

def validateTableSourceNames (names : List String) : Except DeltaFunnelError Unit :=
  validateTableSourceNamesFrom [] names

theorem validateTableSourceNames_singleton {name : String}
    (h : validateTableSourceNames [name] = .ok ()) : validateSourceName name = .ok () := by
  obtain ⟨⟨⟩, hname, -⟩ := except_bind_eq_ok.1 h
  exact hname

example : validateSourceName "Regions_2026" = .ok () := by decide

/-- The default schema of a query context, keyed by normalized names. -/
abbrev Catalog (Provider : Type) := List (String × Provider)

namespace Catalog
variable {Provider : Type}

/-- An unquoted table reference is normalized to lowercase. -/
def tableKey (name : String) : String := toAsciiLowercase name

def tableNames (catalog : Catalog Provider) : List String := catalog.map Prod.fst

def tableProvider (catalog : Catalog Provider) (name : String) : Option Provider :=
  catalog.lookup (tableKey name)

/-- `register_table`, which rejects a name that is taken. -/
def registerTable (catalog : Catalog Provider) (name : String) (provider : Provider) :
    Except String (Catalog Provider) :=
  match catalog.tableProvider name with
  | some _ => .error ("Execution error: The table " ++ tableKey name ++ " already exists")
  | none => .ok (catalog ++ [(tableKey name, provider)])

/-- `deregister_table`, which answers the provider it removed. -/
def deregisterTable (catalog : Catalog Provider) (name : String) :
    Option Provider × Catalog Provider :=
  (catalog.tableProvider name, catalog.filter fun entry => entry.1 ≠ tableKey name)

def view (catalog : Catalog Provider) (key : String) : Option Provider := catalog.lookup key

theorem tableProvider_eq_view (catalog : Catalog Provider) (name : String) :
    catalog.tableProvider name = catalog.view (tableKey name) := rfl

theorem registerTable_eq_ok {catalog catalog' : Catalog Provider} {name : String}
    {provider : Provider} :
    catalog.registerTable name provider = .ok catalog' ↔
      catalog.view (tableKey name) = none ∧ catalog' = catalog ++ [(tableKey name, provider)] := by
  rw [← tableProvider_eq_view, registerTable]
  rcases catalog.tableProvider name with _ | found
  · simp [eq_comm]
  · simp

theorem view_append {catalog : Catalog Provider} {key : String} {provider : Provider}
    (habsent : catalog.view key = none) :
    Catalog.view (catalog ++ [(key, provider)]) =
      Function.update catalog.view key (some provider) := by
  funext key'
  simp only [view, List.lookup_append]
  by_cases hkey : key' = key
  · subst hkey
    rw [view] at habsent
    simp [habsent]
  · have hmiss : List.lookup key' [(key, provider)] = none := by
      simp [List.lookup_cons, beq_false_of_ne hkey]
    rw [hmiss, Function.update_of_ne hkey, Option.or_none, view]

theorem view_deregisterTable (catalog : Catalog Provider) (name : String) :
    (catalog.deregisterTable name).2.view =
      Function.update catalog.view (tableKey name) none := by
  funext key
  simp only [view, deregisterTable]
  induction catalog with
  | nil => simp [Function.update_apply, view]
  | cons entry rest ih =>
    obtain ⟨entryKey, provider⟩ := entry
    by_cases hentry : entryKey = tableKey name
    · subst hentry
      rw [List.filter_cons_of_neg (by simp), ih]
      by_cases hkey : key = tableKey name
      · simp [hkey]
      · simp [Function.update_of_ne hkey, view, List.lookup_cons, beq_false_of_ne hkey]
    · rw [List.filter_cons_of_pos (by simpa using hentry), List.lookup_cons, ih]
      by_cases hkey : key = tableKey name
      · subst hkey
        simp [beq_false_of_ne (Ne.symm hentry)]
      · simp [Function.update_of_ne hkey, view, List.lookup_cons]

end Catalog

/-- Rejects a case-insensitive conflict in the default catalog. -/
def rejectExistingDeltaRegistrationName {Provider : Type} (catalog : Catalog Provider)
    (sourceName tableUri : String) : Except DeltaFunnelError Unit :=
  match catalog.tableNames.find? fun existing => eqIgnoreAsciiCase existing sourceName with
  | some existing =>
    .error (.dataFusionRegistration sourceName tableUri ("table already exists: " ++ existing))
  | none => .ok ()

end DeltaFunnel
