import EntityQuery.Emission

/-!
The canonical text of a query, in the language of the queries themselves.
-/
namespace EntityQuery.Canonical
open Unicode

def needsQuotes (name : Text) : Bool :=
  name.any fun c => isBlank c || c = '\'' || c = '"'

/-- A name with a blank or a quote stands between single quotes. -/
def nameText (name : Text) : Text :=
  if needsQuotes name then
    '\'' :: name.flatMap (fun c => if c = '\'' then ['\'', '\''] else [c]) ++ ['\'']
  else name

def namesText (fields : List Field) : Text :=
  List.intercalate [','] (fields.map fun field => nameText field.name)

def eventText : Event → Text
  | .fields fields => "SELECT ".toList ++ namesText fields
  | .source entity => " FROM ".toList ++ nameText entity
  | .filter => " WHERE ".toList
  | .comparison op field value =>
    nameText field.name ++ ' ' :: op.symbol.toList ++ ' ' :: value.render
  | .beginGroup => ['(']
  | .endGroup => [')']
  | .and => " AND ".toList
  | .or => " OR ".toList
  | .not => "NOT ".toList
  | .order fields direction =>
    " ORDER BY ".toList ++ namesText fields ++
      direction.elim [] fun direction => ' ' :: direction.keyword.toList
  | .limit n => " LIMIT ".toList ++ Text.ofNat n
  | .offset n => " OFFSET ".toList ++ Text.ofNat n

def translator : Translator Text where
  call event text := (.ok (), text ++ eventText event)
  result text := (text, [])

end EntityQuery.Canonical

namespace EntityQuery

def Query.canonical (query : Query) : Except TranslateError Text :=
  (Canonical.translator.translate query []).1

end EntityQuery
