import Mathlib.Logic.Relation
import EntityQuery.Canonical
import EntityQuery.Proofs.Emission
import EntityQuery.Settings
import EntityQuery.Sql.Assembly

/-! A translator carries nothing over. From every state that events lead to, whatever their order
and whether or not some are refused, its result leads back to a first state; so a translator that
has been used is as good as a new one. -/
namespace EntityQuery

namespace Translator

/-- What may be done with a translator between two queries; `κ` are the settings it has. -/
inductive Use (κ : Type) where
  | translate (query : Query)
  | result
  | set (setting : κ)

def Use.choose {κ ι : Type} (choose : κ → ι → ι) (i : ι) : Use κ → ι
  | set setting => choose setting i
  | _ => i

variable {σ κ ι : Type} (t : Translator σ)

/-- The state after the events in order, with those that are refused. -/
def after (events : List Event) (s : σ) : σ :=
  events.foldl (fun s event => (t.call event s).2) s

def use (set : κ → σ → σ) (s : σ) : Use κ → σ
  | .translate query => (t.translate query s).2
  | .result => (t.result s).2
  | .set setting => set setting s

/-- The result of a state leads to the first state that `fresh` gives for it, and an event leads to
no state that has another one. -/
structure StartsAgain (fresh : σ → σ) : Prop where
  call (event : Event) (s : σ) : fresh (t.call event s).2 = fresh s
  result (s : σ) : (t.result s).2 = fresh s

variable {t} {fresh : σ → σ}

theorem StartsAgain.after (h : t.StartsAgain fresh) (events : List Event) (s : σ) :
    fresh (t.after events s) = fresh s := by
  induction events generalizing s with
  | nil => rfl
  | cons event rest ih => exact (ih (t.call event s).2).trans (h.call event s)

theorem StartsAgain.run (h : t.StartsAgain fresh) (events : List Event) (s : σ) :
    fresh (t.run events s).2 = fresh s :=
  t.run_keeps fresh (fun event _ => h.call event) s

theorem StartsAgain.translate (h : t.StartsAgain fresh) (query : Query) (s : σ) :
    (t.translate query s).2 = fresh s :=
  (h.result _).trans (h.run query.events s)

theorem StartsAgain.uses (h : t.StartsAgain fresh) (first : ι → σ)
    (hf : ∀ i, fresh (first i) = first i) (set : κ → σ → σ) (choose : κ → ι → ι)
    (hs : ∀ setting i, set setting (first i) = first (choose setting i)) (history : List (Use κ))
    (i : ι) :
    history.foldl (t.use set) (first i) = first (history.foldl (Use.choose choose) i) := by
  induction history generalizing i with
  | nil => rfl
  | cons use rest ih =>
    have hu : t.use set (first i) use = first (use.choose choose i) := by
      cases use with
      | translate query => exact (h.translate query _).trans (hf i)
      | result => exact (h.result _).trans (hf i)
      | set setting => exact hs setting i
    rw [List.foldl_cons, List.foldl_cons, hu, ih]

end Translator

theorem Canonical.startsAgain : Canonical.translator.StartsAgain fun _ => [] :=
  ⟨fun _ _ => rfl, fun _ => rfl⟩

namespace Sql
namespace Assembly
variable (assembly : Assembly)

/-- A turn of closing groups while more than one is open. -/
inductive Closing : Assembly → Assembly → Prop where
  | turn {assembly : Assembly} (h : 1 < assembly.groups.length) :
    Closing assembly assembly.endGroup

@[simp] theorem push_dialect (operand : Condition) :
    (assembly.push operand).dialect = assembly.dialect := by
  unfold push
  cases assembly.groups <;> rfl

@[simp] theorem push_tables (operand : Condition) :
    (assembly.push operand).tables = assembly.tables := by
  unfold push
  cases assembly.groups <;> rfl

@[simp] theorem push_statement (operand : Condition) :
    (assembly.push operand).statement = assembly.statement := by
  unfold push
  cases assembly.groups <;> rfl

@[simp] theorem endGroup_dialect : assembly.endGroup.dialect = assembly.dialect := by
  unfold endGroup
  split
  · rfl
  · split <;> simp

@[simp] theorem endGroup_tables : assembly.endGroup.tables = assembly.tables := by
  unfold endGroup
  split
  · rfl
  · split <;> simp

@[simp] theorem endGroup_statement : assembly.endGroup.statement = assembly.statement := by
  unfold endGroup
  split
  · rfl
  · split <;> simp

/-- What a closed group gives goes into an open one, so that a group is gone. With a single group
open this would not hold: what it gives opens a new one. -/
theorem length_endGroup (h : 1 < assembly.groups.length) :
    assembly.endGroup.groups.length + 1 = assembly.groups.length := by
  unfold endGroup
  split
  · rename_i hg
    simp [hg] at h
  · rename_i group outer hg
    obtain ⟨next, more, rfl⟩ := List.exists_cons_of_length_pos
      (show 0 < outer.length by rw [hg] at h; simpa using h)
    split <;> simp [hg, push]

theorem closing_repeat (n : Nat) (h : n < assembly.groups.length) :
    Relation.ReflTransGen Closing assembly (Nat.repeat endGroup n assembly) ∧
      (Nat.repeat endGroup n assembly).groups.length + n = assembly.groups.length := by
  induction n with
  | zero => exact ⟨.refl, rfl⟩
  | succ n ih =>
    obtain ⟨hc, hl⟩ := ih (Nat.lt_of_succ_lt h)
    have ht : 1 < (Nat.repeat endGroup n assembly).groups.length := by omega
    have he := length_endGroup _ ht
    refine ⟨hc.tail (.turn ht), ?_⟩
    rw [Nat.repeat]
    omega

theorem endGroups_closed :
    Relation.ReflTransGen Closing assembly assembly.endGroups ∧
      assembly.endGroups.groups.length ≤ 1 := by
  unfold endGroups
  by_cases h : 0 < assembly.groups.length
  · obtain ⟨hc, hl⟩ := closing_repeat assembly (assembly.groups.length - 1) (by omega)
    exact ⟨hc, by omega⟩
  · have hz : assembly.groups.length = 0 := by omega
    rw [hz]
    exact ⟨.refl, by simp [Nat.repeat, hz]⟩

theorem closing_keeps {next : Assembly} (h : Relation.ReflTransGen Closing assembly next) :
    next.dialect = assembly.dialect ∧ next.tables = assembly.tables := by
  induction h with
  | refl => exact ⟨rfl, rfl⟩
  | tail _ hc ih =>
    cases hc with
    | turn ht => exact ⟨(endGroup_dialect _).trans ih.1, (endGroup_tables _).trans ih.2⟩

theorem result_start :
    assembly.result.2 = .start assembly.dialect assembly.tables := by
  obtain ⟨hc, hl⟩ := assembly.endGroups_closed
  obtain ⟨hd, ht⟩ := closing_keeps assembly hc
  have hg : assembly.endGroups.groups.tail = [] := by
    rw [← List.length_eq_zero_iff, List.length_tail]
    omega
  simp only [result, start, hd, ht, hg]

theorem call_keeps (event : Event) :
    (assembly.call event).2.dialect = assembly.dialect ∧
      (assembly.call event).2.tables = assembly.tables := by
  cases event with
  | comparison op field value =>
    cases hc : Condition.ofComparison op field.name value <;> simp [call, hc]
  | endGroup => exact ⟨assembly.endGroup_dialect, assembly.endGroup_tables⟩
  | and | or =>
    simp only [call, connect]
    cases assembly.groups <;> exact ⟨rfl, rfl⟩
  | _ => exact ⟨rfl, rfl⟩

end Assembly

theorem startsAgain : translator.StartsAgain fun a => .start a.dialect a.tables where
  call event a := by
    obtain ⟨hd, ht⟩ := a.call_keeps event
    simp only [translator, hd, ht]
  result a := a.result_start

inductive Setting where
  | dialect (dialect : Dialect)
  | tables (tables : List (Text × Text))

def Setting.assembly : Setting → Assembly → Assembly
  | dialect chosen, a => a.setDialect chosen
  | tables chosen, a => a.setTables chosen

def Setting.settings : Setting → Settings → Settings
  | dialect chosen, s => { s with dialect := chosen }
  | tables chosen, s => { s with tables := chosen }

theorem Setting.assembly_start (setting : Setting) (s : Settings) :
    setting.assembly (.start s.dialect s.tables) =
      .start (setting.settings s).dialect (setting.settings s).tables := by
  cases setting <;> rfl

end Sql

/-- Translators carry nothing over. After any events in any order the groups of an assembly are
closed in finitely many turns, and the result leaves the state of a new translator for the same
dialect and tables. So after any use a query has the text, or the error, that a new translator for
the settings of the moment gives it. -/
theorem nothing_carries_over :
    (∀ (events : List Event) (text : Text),
      (Canonical.translator.result (Canonical.translator.after events text)).2 = []) ∧
    (∀ (history : List (Translator.Use Empty)) (query : Query),
      (Canonical.translator.translate query
        (history.foldl (Canonical.translator.use Empty.elim) [])).1 = query.canonical) ∧
    (∀ (events : List Event) (a : Sql.Assembly),
      let reached := Sql.translator.after events a
      Relation.ReflTransGen Sql.Assembly.Closing reached reached.endGroups ∧
        reached.endGroups.groups.length ≤ 1 ∧
        (Sql.translator.result reached).2 = .start a.dialect a.tables) ∧
    ∀ (settings : Settings) (history : List (Translator.Use Sql.Setting)) (query : Query),
      let now := history.foldl (Translator.Use.choose Sql.Setting.settings) settings
      (Sql.translator.translate query
        (history.foldl (Sql.translator.use Sql.Setting.assembly)
          (.start settings.dialect settings.tables))).1 = query.sql now.dialect now.tables := by
  refine ⟨fun events text => rfl, fun history query => ?_, fun events a => ?_,
    fun settings history query => ?_⟩
  · have hu := Canonical.startsAgain.uses (fun _ : Unit => []) (fun _ => rfl) Empty.elim Empty.elim
      (fun setting => setting.elim) history ()
    rw [hu]
    rfl
  · obtain ⟨hc, hl⟩ := (Sql.translator.after events a).endGroups_closed
    have hf := Sql.startsAgain.after events a
    exact ⟨hc, hl, (Sql.startsAgain.result _).trans hf⟩
  · have hu := Sql.startsAgain.uses (fun s : Settings => .start s.dialect s.tables) (fun _ => rfl)
      Sql.Setting.assembly Sql.Setting.settings Sql.Setting.assembly_start history settings
    rw [hu]
    rfl

end EntityQuery
