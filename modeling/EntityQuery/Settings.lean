import EntityQuery.Json.OfText
import EntityQuery.Sql.Dialect

/-!
Settings: the dialect of SQL, and the tables of the entities that are not named like their
tables. They come from a JSON file.
-/
namespace EntityQuery

structure Settings where
  dialect : Dialect
  tables : List (Text × Text)
  deriving DecidableEq

namespace Settings

def standard : Settings :=
  ⟨.postgres, []⟩

def path (chosen : Option Text) : Text :=
  chosen.getD "dsql.json".toList

/-- A dialect by its name, or by an object with that name as its only key. -/
def dialectOfJson? : Json → Option Dialect
  | .str (some name) => Dialect.ofName? name
  | .obj [(some name, .null)] => Dialect.ofName? name
  | _ => none

def setTable (tables : List (Text × Text)) (entity table : Text) : List (Text × Text) :=
  tables.filter (fun (key, _) => key != entity) ++ [(entity, table)]

def tablesOfMembers? : List (Text × Text) → List Json.Member → Option (List (Text × Text))
  | tables, [] => some tables
  | tables, (some entity, .str (some table)) :: rest =>
    tablesOfMembers? (setTable tables entity table) rest
  | _, _ => none

def tablesOfJson? : Json → Option (List (Text × Text))
  | .obj members => tablesOfMembers? [] members
  | _ => none

structure Parts where
  dialect : Option Dialect
  tables : Option (List (Text × Text))

def Parts.settings (parts : Parts) : Settings :=
  ⟨parts.dialect.getD standard.dialect, parts.tables.getD standard.tables⟩

/-- Each setting at most once, and under any other key any value. -/
def addMember? (parts : Parts) (member : Json.Member) : Option Parts :=
  match member with
  | (none, _) => none
  | (some key, value) =>
    if key = "backend".toList then
      if parts.dialect.isSome then none
      else (dialectOfJson? value).map fun dialect => { parts with dialect }
    else if key = "table_mapping".toList then
      if parts.tables.isSome then none
      else (tablesOfJson? value).map fun tables => { parts with tables }
    else some parts

/-- An object, or the settings in a row of which the last may be missing. -/
def ofJson? : Json → Option Settings
  | .obj members => (members.foldlM addMember? ⟨none, none⟩).map Parts.settings
  | .arr [] => some standard
  | .arr [dialect] => (dialectOfJson? dialect).map fun dialect => { standard with dialect }
  | .arr [dialect, tables] => do return ⟨← dialectOfJson? dialect, ← tablesOfJson? tables⟩
  | _ => none

inductive Source where
  | absent
  | unreadable
  | file (bytes : ByteArray)

inductive LoadError where
  | notFound
  | unreadable
  | invalid
  deriving DecidableEq

def load : Source → Except LoadError Settings
  | .absent => .error .notFound
  | .unreadable => .error .unreadable
  | .file bytes =>
    match String.fromUTF8? bytes with
    | none => .error .unreadable
    | some text =>
      match (Json.ofText? text.toList).bind ofJson? with
      | some settings => .ok settings
      | none => .error .invalid

/-- The standard settings stand in for a file that gives none. -/
def loadOrStandard (source : Source) : Settings :=
  match load source with
  | .ok settings => settings
  | .error _ => standard

end Settings
end EntityQuery
