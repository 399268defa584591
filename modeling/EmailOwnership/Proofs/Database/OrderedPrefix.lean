import EmailOwnership.Proofs.Database.Faults
import EmailOwnership.Proofs.Text.Alphabetical
import EmailOwnership.Store.Database.Migrations

/-! Migrations as an ordered prefix.

Whatever files a directory holds, its migrations are those whose names end in `.sql`, in the order
of their names. A run sends their texts in this order, each in a transaction on a connection of its
own, and stops at the first where anything is raised, so that what was sent is a beginning of that
list and what is logged as complete is what came before the failure (`run_sends_in_order`). A text
is the content of its file, but for its line ends. -/
namespace EmailOwnership.Store.Database.Migrations

/-! ### Migrations of a directory -/

theorem mem_files_iff {d : Directory} {f : File} : f ∈ d.files ↔ d.get? f.name = some f.content := by
  rw [Table.get?_eq_some_iff, Directory.files, List.mem_map]
  constructor
  · rintro ⟨r, hr, rfl⟩
    exact hr
  · exact fun h => ⟨_, h, rfl⟩

theorem isMigration_iff {f : File} : isMigration f = true ↔ ∃ stem, f.name = stem ++ ending := by
  rw [isMigration, List.isSuffixOf_iff_suffix]
  constructor
  · rintro ⟨stem, h⟩
    exact ⟨String.ofList stem, String.toList_inj.1 (by rw [String.toList_append, String.toList_ofList, h])⟩
  · rintro ⟨stem, h⟩
    exact ⟨stem.toList, by rw [h, String.toList_append]⟩

theorem mem_select_iff {d : Directory} {f : File} :
    f ∈ select d ↔ d.get? f.name = some f.content ∧ ∃ stem, f.name = stem ++ ending := by
  rw [select, List.mem_mergeSort, List.mem_filter, mem_files_iff, isMigration_iff]

theorem select_increasing (d : Directory) : Text.Increasing File.name (select d) := by
  have hnames : d.files.map File.name = d.keys := by
    simp only [Directory.files, Table.keys, List.map_map, Function.comp_def]
  have hnodup : (d.files.map File.name).Nodup := hnames ▸ d.keys_nodup
  exact Text.increasing_mergeSort (hnodup.sublist (List.filter_sublist.map File.name))

/-- The migrations are known once they stand in order. -/
theorem select_eq {d : Directory} {migrations : List File}
    (hperm : (d.files.filter isMigration).Perm migrations)
    (hincreasing : Text.Increasing File.name migrations) : select d = migrations :=
  (select_increasing d).eq_of_perm hincreasing ((List.mergeSort_perm ..).trans hperm)

theorem text_eq_content_iff {f : File} : f.text = f.content ↔ '\r' ∉ f.content.toList := by
  rw [← Text.unifyLineEnds_eq_self_iff, File.text, ← String.toList_inj, String.toList_ofList]

/-! ### What a run reports -/

/-- The name that a log entry calls complete. -/
def completion? : Log.Entry → Option String
  | .migrationComplete name => some name
  | _ => none

/-- The names that are logged as complete, oldest first. -/
def Report.completed (r : Report) : List String := r.log.filterMap completion?

/-- Whether the text is on its way when the stage is reached. -/
def Stage.hasSent : Stage → Bool
  | .reading | .connecting => false
  | .executing | .committing => true

section After
variable (r : Report) (f : File)

@[simp] theorem events_after :
    (r.after f).events = [.connection, .execute f.text, .commit] ++ r.events := rfl

@[simp] theorem sent_after : (r.after f).sent = f.text :: r.sent := rfl

@[simp] theorem completed_after : (r.after f).completed = f.name :: r.completed := rfl

end After

/-- A run that came through `migrations`. -/
structure Through (migrations : List File) (report : Report) : Prop where
  outcome : report.outcome = .ok ()
  sent : report.sent = migrations.map File.text
  events : report.events = migrations.flatMap fun f => [.connection, .execute f.text, .commit]
  completed : report.completed = migrations.map File.name

/-- A run that came through `before` and was set back at `f`. -/
structure SetBack (before : List File) (f : File) (s : Setback) (report : Report) : Prop where
  refused : s.trouble.isDatabase = true → report.outcome = .error (.refused f.name s.trouble)
  named : s.trouble.isDatabase = true → ∀ e, report.outcome = .error e →
    e.message = "Database migration failed: " ++ f.name
  passed : ∀ name message, s.trouble = .foreign name message →
    report.outcome = .error (.foreign name message)
  sent : report.sent = (if s.stage.hasSent then before ++ [f] else before).map File.text
  events : report.events =
    (before.flatMap fun f => [.connection, .execute f.text, .commit]) ++ f.work (some s.stage)
  completed : report.completed = before.map File.name

theorem Through.nil : Through [] ⟨.ok (), [], []⟩ := ⟨rfl, rfl, rfl, rfl⟩

/-- The step of a run that goes on. -/
theorem Through.cons {migrations : List File} {report : Report} (h : Through migrations report)
    (f : File) : Through (f :: migrations) (report.after f) where
  outcome := h.outcome
  sent := by rw [sent_after, h.sent, List.map_cons]
  events := by rw [events_after, h.events, List.flatMap_cons]
  completed := by rw [completed_after, h.completed, List.map_cons]

theorem setBack_stopped (f : File) (s : Setback) : SetBack [] f s (f.stopped s) := by
  obtain ⟨stage, trouble⟩ := s
  have hwork : (f.work (some stage)).filterMap Event.text? =
      (if stage.hasSent then [f] else []).map File.text := by
    cases stage <;> rfl
  cases trouble with
  | poolTimeout | queryCanceled | database =>
    refine ⟨fun _ => rfl, fun _ e he => ?_, (fun _ _ h => nomatch h), hwork, rfl, rfl⟩
    cases he
    rfl
  | foreign =>
    refine ⟨(fun h => nomatch h), (fun h => nomatch h), fun name message h => ?_, hwork, rfl, rfl⟩
    cases h
    rfl

theorem SetBack.cons {before : List File} {f : File} {s : Setback} {report : Report}
    (h : SetBack before f s report) (g : File) : SetBack (g :: before) f s (report.after g) where
  refused := h.refused
  named := h.named
  passed := h.passed
  sent := by
    rw [sent_after, h.sent]
    cases s.stage.hasSent <;> rfl
  events := by rw [events_after, h.events, List.flatMap_cons, List.append_assoc]
  completed := by rw [completed_after, h.completed, List.map_cons]

/-! ### Runs -/

section Runs
variable {attempt : Nat → Option Setback}

theorem send_cons_of_none {n : Nat} (h : attempt n = none) (f : File) (rest : List File) :
    send attempt n (f :: rest) = (send attempt (n + 1) rest).after f := by
  rw [send, h]

theorem send_cons_of_some {n : Nat} {s : Setback} (h : attempt n = some s) (f : File)
    (rest : List File) : send attempt n (f :: rest) = f.stopped s := by
  rw [send, h]

/-- Nothing is raised at `count` files from the `n`-th on. -/
def Clear (attempt : Nat → Option Setback) (n count : Nat) : Prop :=
  ∀ i < count, attempt (n + i) = none

theorem clear_of_forall {count : Nat} (h : ∀ n < count, attempt n = none) : Clear attempt 0 count :=
  fun i hi => by
    rw [Nat.zero_add]
    exact h i hi

theorem Clear.head {n count : Nat} (h : Clear attempt n (count + 1)) : attempt n = none :=
  h 0 (Nat.zero_lt_succ count)

theorem Clear.tail {n count : Nat} (h : Clear attempt n (count + 1)) :
    Clear attempt (n + 1) count := fun i hi => by
  rw [Nat.add_right_comm, Nat.add_assoc]
  exact h (i + 1) (Nat.succ_lt_succ hi)

theorem send_through {migrations : List File} {n : Nat} (h : Clear attempt n migrations.length) :
    Through migrations (send attempt n migrations) := by
  induction migrations generalizing n with
  | nil => exact .nil
  | cons f rest ih =>
    rw [send_cons_of_none h.head]
    exact (ih h.tail).cons f

/-- The first thing that is raised ends the run. -/
theorem send_setBack {before rest : List File} {f : File} {s : Setback} {n : Nat}
    (h : Clear attempt n before.length) (hs : attempt (n + before.length) = some s) :
    SetBack before f s (send attempt n (before ++ f :: rest)) := by
  induction before generalizing n with
  | nil =>
    rw [List.nil_append, send_cons_of_some (n := n) hs]
    exact setBack_stopped f s
  | cons g more ih =>
    have hs : attempt (n + 1 + more.length) = some s := by
      rw [Nat.add_right_comm, Nat.add_assoc]
      exact hs
    rw [List.cons_append, send_cons_of_none h.head]
    exact (ih h.tail hs).cons g

end Runs

/-! ### Whole directories -/

/-- The report of a run after its first log entry, which calls nothing complete. -/
theorem completed_cons {r : Report} {entry : Log.Entry} (h : completion? entry = none) :
    Report.completed {r with log := entry :: r.log} = r.completed := List.filterMap_cons_none h

theorem run_of_select {location : String} {attempt : Nat → Option Setback} {d : Directory}
    {first : File} {rest : List File} (h : select d = first :: rest) :
    run location attempt (some d) =
      {send attempt 0 (first :: rest) with
        log := .runningMigrations (rest.length + 1) :: (send attempt 0 (first :: rest)).log} := by
  rw [run, h]

/-- A run over the directory `d`, where `attempt` says what is raised at the `n`-th migration. -/
structure OrderedPrefix (attempt : Nat → Option Setback) (d : Directory) (report : Report) : Prop where
  /-- The migrations are the files that end in `.sql`. -/
  selected : ∀ f, f ∈ select d ↔ d.get? f.name = some f.content ∧ ∃ stem, f.name = stem ++ ".sql"
  increasing : (select d).Pairwise fun a b => a.name < b.name
  /-- The text that is sent for a file is its content where this has no carriage return. -/
  unchanged : ∀ f ∈ select d, f.text = f.content ↔ '\r' ∉ f.content.toList
  through : (∀ n < (select d).length, attempt n = none) → Through (select d) report
  /-- At the first migration where anything is raised, at whatever stage. -/
  setBack : ∀ before f rest s, select d = before ++ f :: rest →
    (∀ n < before.length, attempt n = none) → attempt before.length = some s →
      SetBack before f s report

/-- **Migrations run as an ordered prefix.** The migrations of a directory are sent in the order of
their names, each once and each over a connection of its own, up to the first where anything is
raised; an error of the database is reported with the name of that file, anything else passes. -/
theorem run_sends_in_order (location : String) (attempt : Nat → Option Setback) (d : Directory) :
    OrderedPrefix attempt d (run location attempt (some d)) where
  selected f := mem_select_iff
  increasing := select_increasing d
  unchanged f _ := text_eq_content_iff
  through h := by
    have hsend := send_through (clear_of_forall h)
    cases hselect : select d with
    | nil =>
      rw [run, hselect]
      exact ⟨rfl, rfl, rfl, rfl⟩
    | cons first rest =>
      rw [hselect] at hsend
      rw [run_of_select hselect]
      exact ⟨hsend.outcome, hsend.sent, hsend.events, (completed_cons rfl).trans hsend.completed⟩
  setBack before f rest s hselect hbefore hs := by
    have hsend : SetBack before f s (send attempt 0 (before ++ f :: rest)) :=
      send_setBack (clear_of_forall hbefore) (by rw [Nat.zero_add, hs])
    obtain ⟨first, more, hcons⟩ : ∃ first more, before ++ f :: rest = first :: more :=
      List.exists_cons_of_ne_nil (by simp)
    rw [hcons] at hsend
    rw [run_of_select (hselect.trans hcons)]
    exact ⟨hsend.refused, hsend.named, hsend.passed, hsend.sent, hsend.events,
      (completed_cons rfl).trans hsend.completed⟩

/-! ### Two directories -/

/-- Three migrations, of which the second in order is refused. -/
def refusing : Directory :=
  Table.ofList [("2.sql", "two"), ("notes.txt", "none"), ("3.sql", "three"), ("10.sql", "ten")]

/-- A database that refuses the second text. -/
def refuseSecond : Nat → Option Setback
  | 1 => some ⟨.executing, .database "SyntaxError" "at two"⟩
  | _ => none

/-- What was sent up to the refusal is a beginning of the list. -/
theorem run_sends_in_order_refused :
    (run "migrations" refuseSecond (some refusing)).outcome =
        .error (.refused "2.sql" (.database "SyntaxError" "at two")) ∧
      (run "migrations" refuseSecond (some refusing)).sent = ["ten", "two"] ∧
      (run "migrations" refuseSecond (some refusing)).completed = ["10.sql"] := by
  have hselect : select refusing = [⟨"10.sql", "ten"⟩] ++ ⟨"2.sql", "two"⟩ :: [⟨"3.sql", "three"⟩] :=
    select_eq (by decide +kernel) (by unfold Text.Increasing; decide)
  have h := (run_sends_in_order "migrations" refuseSecond refusing).setBack _ _ _
    ⟨.executing, .database "SyntaxError" "at two"⟩ hselect (by decide) rfl
  exact ⟨h.refused rfl, h.sent.trans (by decide), h.completed⟩

/-- A migration with line ends of another system. -/
def foreignLineEnds : Directory := Table.ofList [("a.sql", "l1\r\nl2")]

/-- It comes through, but what is sent is not what the file holds. -/
theorem sent_ne_contents :
    let r := run "migrations" (fun _ => none) (some foreignLineEnds)
    r.outcome = .ok () ∧ r.sent = ["l1\nl2"] ∧ r.sent ≠ (select foreignLineEnds).map File.content := by
  have hselect : select foreignLineEnds = [⟨"a.sql", "l1\r\nl2"⟩] := by decide +kernel
  rw [run_of_select hselect, hselect]
  exact ⟨rfl, by decide, by decide⟩

end EmailOwnership.Store.Database.Migrations
