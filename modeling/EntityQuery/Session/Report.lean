import EntityQuery.Query.OfTree

/-!
How the outcome of a statement is reported to its author.
-/
namespace EntityQuery

/-- Carets under a part of a source text, one for each character and at least one. A place that
is not in the text counts as empty. -/
def Span.caretLine (span : Span) (source : Text) : Text :=
  let indent := ((Text.splitAt? span.start source).map (·.1.length)).getD 0
  let width := ((Text.slice? span.start span.stop source).map List.length).getD 0
  List.replicate indent ' ' ++ List.replicate (max width 1) '^'

/-- Why a statement has no result: what could not be done, and perhaps the reason. -/
structure Failure where
  summary : Text
  cause : Option Text
  deriving DecidableEq

namespace Failure

def ofCompileError (e : CompileError Span) : Failure :=
  match e with
  | .incomplete part => ⟨e.message, part.message.toList⟩
  | _ => ⟨e.message, none⟩

def inline (failure : Failure) : Text :=
  failure.summary ++ failure.cause.elim [] fun cause => ": ".toList ++ cause

def indented (text : Text) : Text :=
  "    ".toList ++ text.flatMap fun c => if c = '\n' then "\n    ".toList else [c]

def report (failure : Failure) : Text :=
  "Error: ".toList ++ failure.summary ++ ['\n'] ++
    failure.cause.elim [] fun cause => "\nCaused by:\n".toList ++ indented cause ++ ['\n']

end Failure
end EntityQuery
