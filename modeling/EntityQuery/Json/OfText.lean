import EntityQuery.Json.Token

/-!
The JSON value of a text. Its tokens are read one by one, with a frame for each array and object
that is open.
-/
namespace EntityQuery.Json

abbrev Member := Option Text × Json

/-- An open array or object around a value: what came before, the last first, and the value's key
in an object. -/
inductive Frame where
  | items (before : List Json)
  | member (before : List Member) (key : Option Text)

inductive Reading where
  | value (frames : List Frame)
  | firstItem (frames : List Frame)
  | nextItem (frames : List Frame) (before : List Json)
  | firstKey (frames : List Frame)
  | nextKey (frames : List Frame) (before : List Member)
  | colon (frames : List Frame) (before : List Member) (key : Option Text)
  | nextMember (frames : List Frame) (before : List Member)
  | done (value : Json)

namespace Reading

def complete (json : Json) : List Frame → Reading
  | [] => done json
  | .items before :: frames => nextItem frames (json :: before)
  | .member before key :: frames => nextMember frames ((key, json) :: before)

def start (token : Token) (frames : List Frame) : Option Reading :=
  match token with
  | .beginArray => some (firstItem frames)
  | .beginObject => some (firstKey frames)
  | .scalar json => some (complete json frames)
  | _ => none

def step (token : Token) : Reading → Option Reading
  | value frames => start token frames
  | firstItem frames =>
    match token with
    | .endArray => some (complete (arr []) frames)
    | _ => start token (.items [] :: frames)
  | nextItem frames before =>
    match token with
    | .comma => some (value (.items before :: frames))
    | .endArray => some (complete (arr before.reverse) frames)
    | _ => none
  | firstKey frames =>
    match token with
    | .endObject => some (complete (obj []) frames)
    | .scalar (.str key) => some (colon frames [] key)
    | _ => none
  | nextKey frames before =>
    match token with
    | .scalar (.str key) => some (colon frames before key)
    | _ => none
  | colon frames before key =>
    match token with
    | .colon => some (value (.member before key :: frames))
    | _ => none
  | nextMember frames before =>
    match token with
    | .comma => some (nextKey frames before)
    | .endObject => some (complete (obj before.reverse) frames)
    | _ => none
  | done _ => none

end Reading

def ofTokens? (tokens : List Token) : Option Json :=
  match tokens.foldlM (fun reading token => reading.step token) (Reading.value []) with
  | some (.done value) => some value
  | _ => none

def ofText? (text : Text) : Option Json :=
  (tokensAfter? 0 text).bind ofTokens?

end EntityQuery.Json
