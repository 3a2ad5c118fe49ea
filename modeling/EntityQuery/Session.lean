import EntityQuery.Canonical
import EntityQuery.Query.ToJson
import EntityQuery.Session.Report
import EntityQuery.Settings
import EntityQuery.Sql.Assembly

/-!
Sessions at the command line. A session answers one line after the other. One assembly puts all its
statements into SQL, whatever became of the ones before.
-/
namespace EntityQuery

structure Session where
  assembly : Sql.Assembly
  showJson : Bool
  deriving DecidableEq

inductive Command where
  | quit
  | help
  | json
  | dialect (word : Option Text)
  | unknown (word : Text)
  | statement (source : Text)
  deriving DecidableEq

/-- A line whose first word starts with a colon is a command, any other is a statement. -/
def Command.ofLine (line : Text) : Command :=
  match Text.words line with
  | [] => statement line
  | word :: more =>
    if word = ":quit".toList || word = ":q".toList then quit
    else if word = ":help".toList then help
    else if word = ":json".toList then json
    else if word = ":backend".toList then dialect more.head?
    else if word.head? = some ':' then unknown word
    else statement line

namespace Session

def start (settings : Settings) : Session :=
  ⟨.start settings.dialect settings.tables, false⟩

def line (text : Text) : Text :=
  text ++ ['\n']

def helpText : String :=
  "输入 DSQL 语句，例如:
  SELECT name, age FROM Account WHERE age > 18 AND NOT name LIKE 'A%' ORDER BY name DESC LIMIT 10

命令:
  :backend <postgres|mysql|sqlite>   切换目标SQL方言
  :json                              切换是否打印查询模型(JSON)
  :help                              显示帮助
  :quit                              退出"

def greeting (settings : Settings) : Text :=
  line ("--- DSQL 编译器 (目标方言: ".toList ++ settings.dialect.name.toList ++ ") ---".toList) ++
    line "输入 :help 查看帮助".toList

def dialectLine (dialect : Dialect) : Text :=
  line ("目标方言: ".toList ++ dialect.name.toList)

def failureLine (text : Text) : Text :=
  line ("✗ ".toList ++ text)

def resultLine (language : String) (text : Text) : Text :=
  line (language.toList.rightpad 9 ' ' ++ ": ".toList ++ text)

def errorLines (source : Text) : CompileError Span → Text
  | .unreadable _ span =>
    line ("  ".toList ++ source) ++ line ("  ".toList ++ span.caretLine source)
  | _ => []

/-- The results of a statement up to the first that fails, and the session after it. -/
def answer (session : Session) (source : Text) : (Text × Option Failure) × Session :=
  match Query.ofText source with
  | .error e => ((errorLines source e, some (.ofCompileError e)), session)
  | .ok query =>
    let model := if session.showJson then line (query.toJson.render 0) else []
    match query.canonical with
    | .error e => ((model, some ⟨e.message, none⟩), session)
    | .ok canonical =>
      let shown := model ++ resultLine "dsql" canonical
      let (outcome, assembly) := Sql.translator.translate query session.assembly
      let next := { session with assembly }
      match outcome with
      | .error e =>
        let summary := "cannot translate for ".toList ++ assembly.dialect.name.toList
        ((shown, some ⟨summary, e.message⟩), next)
      | .ok sql => ((shown ++ resultLine assembly.dialect.name sql, none), next)

def perform (session : Session) : Command → Text × Option Session
  | .quit => ([], none)
  | .help => (line helpText.toList, session)
  | .json =>
    let showJson := !session.showJson
    (line ("JSON 输出: ".toList ++ (if showJson then "开" else "关").toList),
      some { session with showJson })
  | .dialect none => (dialectLine session.assembly.dialect, session)
  | .dialect (some word) =>
    match Dialect.ofWord word with
    | .ok dialect =>
      (dialectLine dialect, some { session with assembly := session.assembly.setDialect dialect })
    | .error unknown => (failureLine (Dialect.unknownMessage unknown), session)
  | .unknown word =>
    (failureLine ("未知命令 ".toList ++ word ++ "，输入 :help 查看帮助".toList), session)
  | .statement source =>
    let ((output, failure), next) := session.answer source
    (output ++ failure.elim [] fun failure => failureLine failure.inline, next)

def handle (session : Session) (input : Text) : Text × Option Session :=
  session.perform (.ofLine input)

/-- Blanks around a line do not count, and an empty line is passed over. -/
def receive (session : Session) (input : Text) : Text × Option Session :=
  let trimmed := input.trim
  if trimmed.isEmpty then ([], session) else session.handle trimmed

def interact (session : Session) : List Text → Text
  | [] => []
  | input :: rest =>
    match session.receive input with
    | (output, some next) => output ++ interact next rest
    | (output, none) => output

end Session

structure Outcome where
  code : UInt8
  output : Text
  errors : Text
  deriving DecidableEq

namespace Outcome

def ofStatement (settings : Settings) (arguments : List Text) : Outcome :=
  match ((Session.start settings).answer (List.intercalate [' '] arguments)).1 with
  | (output, none) => ⟨0, output, []⟩
  | (output, some failure) => ⟨1, output, failure.report⟩

/-- The arguments are a statement; without any, the lines of the input are a session. -/
def ofRun (settings : Settings) (arguments : List Text) (input : Text) : Outcome :=
  if arguments.isEmpty then
    ⟨0, Session.greeting settings ++ (Session.start settings).interact input.lines, []⟩
  else ofStatement settings arguments

end Outcome
end EntityQuery
