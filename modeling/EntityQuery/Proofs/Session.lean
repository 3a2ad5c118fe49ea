import EntityQuery.Proofs.Emission.Reset
import EntityQuery.Session

/-! A session has no hidden history. Its state after any lines is that of a new session with the
dialect that was chosen last, whatever statements were given and whatever became of them. -/
namespace EntityQuery

def Command.choice? : Command → Option Dialect
  | dialect (some word) => (Dialect.ofWord word).toOption
  | _ => none

namespace Session

/-- The dialect that a line chooses: it asks for one by a word that names one. -/
def choice? (line : Text) : Option Dialect :=
  match Text.words line with
  | command :: word :: _ =>
    if command = ":backend".toList then (Dialect.ofWord word).toOption else none
  | _ => none

def chosen (dialect : Dialect) (lines : List Text) : Dialect :=
  (lines.filterMap choice?).getLast?.getD dialect

def isJson (line : Text) : Bool :=
  (Text.words line).head? = some ":json".toList

/-- Whether queries are shown as JSON after the lines: each `:json` turns it over. -/
def jsonShown (lines : List Text) : Bool :=
  lines.countP isJson % 2 = 1

def after? (session : Session) (lines : List Text) : Option Session :=
  lines.foldlM (fun session line => (session.handle line).2) session

def printed (tables : List (Text × Text)) (dialect : Dialect) (showJson : Bool) (line : Text) :
    Text :=
  (handle ⟨.start dialect tables, showJson⟩ line).1

variable {dialect : Dialect} {tables : List (Text × Text)} {showJson : Bool}

/-- No statement leaves anything behind, whichever part of it fails. -/
theorem answer_next (source : Text) :
    (answer ⟨.start dialect tables, showJson⟩ source).2 = ⟨.start dialect tables, showJson⟩ := by
  unfold answer
  cases Query.ofText source with
  | error e => rfl
  | ok query =>
    cases hc : query.canonical with
    | error e => simp only [hc]
    | ok canonical =>
      have ht := Sql.startsAgain.translate query (.start dialect tables)
      simp only [hc]
      cases ho : Sql.translator.translate query (.start dialect tables) with
      | mk outcome assembly =>
        rw [ho] at ht
        obtain rfl : assembly = .start dialect tables := ht
        cases outcome <;> rfl

theorem perform_next {command : Command} {next : Session}
    (h : (perform ⟨.start dialect tables, showJson⟩ command).2 = some next) :
    next = ⟨.start (command.choice?.getD dialect) tables, showJson ^^ command = .json⟩ := by
  cases command with
  | quit => simp [perform] at h
  | statement source =>
    have ha := @answer_next dialect tables showJson source
    simpa [perform, Command.choice?, ha] using h.symm
  | dialect word =>
    cases word with
    | none => simpa [perform, Command.choice?] using h.symm
    | some word =>
      have hs (found : Dialect) :
          (Sql.Assembly.start dialect tables).setDialect found = .start found tables := rfl
      cases hw : Dialect.ofWord word with
      | error unknown => simpa [perform, Command.choice?, hw, Except.toOption] using h.symm
      | ok found => simpa [perform, Command.choice?, hw, Except.toOption, hs] using h.symm
  | _ => simpa [perform, Command.choice?] using h.symm

theorem choice?_ofLine (line : Text) : (Command.ofLine line).choice? = choice? line := by
  unfold Command.ofLine choice?
  cases Text.words line with
  | nil => rfl
  | cons word more =>
    dsimp only
    by_cases hb : word = ":backend".toList
    · subst hb
      cases more <;> rfl
    · rw [if_neg hb]
      have hn : (match word :: more with
          | command :: argument :: _ =>
            if command = ":backend".toList then (Dialect.ofWord argument).toOption else none
          | _ => none) = none := by
        cases more with
        | nil => rfl
        | cons argument rest => exact if_neg hb
      rw [hn]
      split
      · rfl
      split
      · rfl
      split
      · rfl
      split <;> rfl

theorem ofLine_eq_json (line : Text) : Command.ofLine line = .json ↔ isJson line = true := by
  unfold Command.ofLine isJson
  cases Text.words line with
  | nil => simp
  | cons word more =>
    dsimp only
    by_cases hj : word = ":json".toList
    · subst hj
      exact iff_of_true rfl rfl
    · rw [if_neg hj]
      have hn : ¬(decide ((word :: more).head? = some ":json".toList) = true) := by
        rw [decide_eq_true_eq, List.head?_cons, Option.some.injEq]
        exact hj
      refine iff_of_false ?_ hn
      split
      · exact nofun
      split
      · exact nofun
      split
      · exact nofun
      split <;> exact nofun

theorem handle_next {line : Text} {next : Session}
    (h : (handle ⟨.start dialect tables, showJson⟩ line).2 = some next) :
    next = ⟨.start ((choice? line).getD dialect) tables, showJson ^^ isJson line⟩ := by
  have hn := perform_next h
  have hj : decide (Command.ofLine line = .json) = isJson line := by
    rw [Bool.eq_iff_iff, decide_eq_true_eq, ofLine_eq_json]
  rwa [choice?_ofLine, hj] at hn

theorem chosen_cons (line : Text) (rest : List Text) :
    chosen dialect (line :: rest) = chosen ((choice? line).getD dialect) rest := by
  unfold chosen
  cases hc : choice? line with
  | none => rw [List.filterMap_cons_none hc, Option.getD_none]
  | some found =>
    rw [List.filterMap_cons_some hc, List.getLast?_cons, Option.getD_some, Option.getD_some]

theorem jsonShown_cons (line : Text) (rest : List Text) :
    jsonShown (line :: rest) = (isJson line ^^ jsonShown rest) := by
  unfold jsonShown
  cases hj : isJson line with
  | false => rw [List.countP_cons_of_neg (by simp [hj]), Bool.false_xor]
  | true =>
    rw [List.countP_cons_of_pos hj]
    obtain h | h := Nat.mod_two_eq_zero_or_one (rest.countP isJson) <;> simp [Nat.add_mod, h]

theorem after?_start {lines : List Text} {session : Session}
    (h : after? ⟨.start dialect tables, showJson⟩ lines = some session) :
    session = ⟨.start (chosen dialect lines) tables, showJson ^^ jsonShown lines⟩ := by
  induction lines generalizing dialect showJson with
  | nil => simpa [after?, chosen, jsonShown] using h.symm
  | cons line rest ih =>
    rw [after?, List.foldlM_cons] at h
    cases hn : (handle ⟨.start dialect tables, showJson⟩ line).2 with
    | none =>
      rw [hn] at h
      cases h
    | some next =>
      rw [hn] at h
      obtain rfl := handle_next hn
      rw [chosen_cons, jsonShown_cons, ← Bool.xor_assoc]
      exact ih h

def IsStatement (line : Text) : Prop :=
  ∀ word ∈ (Text.words line).head?, word.head? ≠ some ':'

/-- A line that is passed over when the state of a session is told from its lines. -/
def IsPassive (line : Text) : Prop :=
  choice? line = none ∧ isJson line = false

theorem IsStatement.isPassive {line : Text} (h : IsStatement line) : IsPassive line := by
  unfold IsStatement at h
  unfold IsPassive choice? isJson
  cases hw : Text.words line with
  | nil => exact ⟨rfl, rfl⟩
  | cons word more =>
    rw [hw] at h
    have hc : word.head? ≠ some ':' := h word rfl
    have hb : word ≠ ":backend".toList := fun he => hc (by rw [he]; rfl)
    have hj : word ≠ ":json".toList := fun he => hc (by rw [he]; rfl)
    refine ⟨?_, by simpa using hj⟩
    cases more with
    | nil => rfl
    | cons argument rest => exact if_neg hb

theorem IsPassive.chosen_eq {line : Text} (h : IsPassive line) (before after : List Text) :
    chosen dialect (before ++ line :: after) = chosen dialect (before ++ after) := by
  unfold chosen
  rw [List.filterMap_append, List.filterMap_append, List.filterMap_cons_none h.1]

theorem IsPassive.jsonShown_eq {line : Text} (h : IsPassive line) (before after : List Text) :
    jsonShown (before ++ line :: after) = jsonShown (before ++ after) := by
  unfold jsonShown
  rw [List.countP_append, List.countP_append, List.countP_cons_of_neg (by simp [h.2])]

/-- A session has no hidden history. What it prints for a line is what a new session prints for it
with the same tables, the dialect that was chosen last, and queries shown as JSON if that has been
turned over an odd number of times. An earlier line that chose no dialect and was no `:json` makes
no difference, and no statement does either of them. -/
theorem no_hidden_history {settings : Settings} {history : List Text} {session : Session}
    (h : (start settings).after? history = some session) (line : Text) :
    (session.handle line).1 =
      printed settings.tables (chosen settings.dialect history) (jsonShown history) line ∧
    (∀ before earlier after, history = before ++ earlier :: after → IsPassive earlier →
      (session.handle line).1 = printed settings.tables (chosen settings.dialect (before ++ after))
        (jsonShown (before ++ after)) line) ∧
    ∀ earlier, IsStatement earlier → IsPassive earlier := by
  obtain rfl := after?_start h
  rw [Bool.false_xor]
  refine ⟨rfl, fun before earlier after he hp => ?_, fun earlier hs => hs.isPassive⟩
  rw [← hp.chosen_eq before after, ← hp.jsonShown_eq before after, ← he]
  rfl

theorem no_hidden_history_after_failures :
    ∃ session, (start .standard).after? [":json".toList, "SELECT a FROM b WHERE c < NULL".toList,
        ":backend mysql".toList, "SELECT FROM".toList, ":backend nosuch".toList] = some session ∧
      (session.handle "SELECT a FROM b".toList).1 =
        printed [] .mysql true "SELECT a FROM b".toList := by
  have hs : ((start .standard).after? [":json".toList, "SELECT a FROM b WHERE c < NULL".toList,
      ":backend mysql".toList, "SELECT FROM".toList, ":backend nosuch".toList]).isSome = true := by
    decide +kernel
  obtain ⟨session, h⟩ := Option.isSome_iff_exists.mp hs
  exact ⟨session, h, (no_hidden_history h "SELECT a FROM b".toList).1⟩

end Session
end EntityQuery
