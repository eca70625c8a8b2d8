import RecordGraph.Bolt.Server
import RecordGraph.Proofs.Store.Protocol

/-!
# The calls that a driver is given

A transaction behind a driver is a start, statements in order up to the first that fails, and
then a commit or a rollback. An execution puts such transactions in a row, so none is left open
when the next one starts, and only the last can have been committed. All this holds of any
driver, whatever comes of its calls.
-/

namespace RecordGraph.Bolt

/-- A call of a transaction, with what came of it. -/
inductive Call
  | start (outcome : Except Failure Unit)
  | run (statement : Statement) (outcome : Except Failure Unit)
  | rollback (outcome : Except Failure Unit)
  | commit (outcome : Except Failure Unit)

namespace Call

/-- The call of a statement that succeeds. -/
def ran (statement : Statement) : Call := run statement (.ok ())

/-- The call after which a transaction is in effect. -/
def committed : Call := commit (.ok ())

/-- Whether a call runs a statement. -/
def runs : Call → Bool
  | run .. => true
  | _ => false

/-- Whether a call ends a transaction. -/
def ends : Call → Bool
  | rollback _ | commit _ => true
  | _ => false

end Call

/-- A driver that keeps the calls of its transactions, the oldest first. -/
def Driver.watched (d : Driver σ) : Driver (σ × List Call) where
  start s :=
    let (outcome, next) := d.start s.1
    (outcome, next, s.2 ++ [.start outcome])
  run statement s :=
    let (outcome, next) := d.run statement s.1
    (outcome, next, s.2 ++ [.run statement outcome])
  rollback s :=
    let (outcome, next) := d.rollback s.1
    (outcome, next, s.2 ++ [.rollback outcome])
  commit s :=
    let (outcome, next) := d.commit s.1
    (outcome, next, s.2 ++ [.commit outcome])
  query statement s :=
    let (outcome, next) := d.query statement s.1
    (outcome, next, s.2)
  pull s := (d.pull s.1, s.2)
  present := d.present

/-! ## One transaction -/

/-- The calls that run statements, and the first statement that fails, if one does. -/
inductive Ran (ss : List Statement) : List Call → Option (Failure × Statement) → Prop
  | all : Ran ss (ss.map .ran) none
  | some (before : List Statement) {after : List Statement} {statement : Statement}
      (f : Failure) (split : ss = before ++ statement :: after) :
      Ran ss (before.map .ran ++ [.run statement (.error f)]) (some (f, statement))

/-- The three ways a transaction goes: the calls it makes, and what it comes to. -/
inductive Course (ss : List Statement) : List Call → Except StoreError Unit → Prop
  | unstarted (f : Failure) : Course ss [.start (.error f)] (.error f.storeError)
  | abandoned {before after : List Statement} {statement : Statement} (f : Failure)
      (split : ss = before ++ statement :: after) (ignored : Except Failure Unit) :
      Course ss
        (.start (.ok ()) ::
          (before.map .ran ++ [.run statement (.error f)]) ++ [.rollback ignored])
        (.error f.storeError)
  | finished (outcome : Except Failure Unit) :
      Course ss (.start (.ok ()) :: ss.map .ran ++ [.commit outcome])
        (outcome.mapError Failure.storeError)

namespace Driver

variable {d : Driver σ} {ss : List Statement}

theorem runAll_watched (d : Driver σ) (ss : List Statement) (s : σ) (calls : List Call) :
    ∃ made, d.watched.runAll ss (s, calls) =
        ((d.runAll ss s).1, (d.runAll ss s).2, calls ++ made) ∧
      Ran ss made (d.runAll ss s).1 := by
  induction ss generalizing s calls with
  | nil => exact ⟨[], by rw [List.append_nil]; rfl, .all⟩
  | cons statement rest ih =>
      cases ran : d.run statement s with
      | mk outcome next =>
          have watchedRun : d.watched.run statement (s, calls) =
              (outcome, next, calls ++ [.run statement outcome]) := by
            simp only [watched, ran]
          cases outcome with
          | error f =>
              refine ⟨[.run statement (.error f)], ?_, ?_⟩
              · simp only [runAll, watchedRun, ran]
              · simp only [runAll, ran]
                exact .some [] f rfl
          | ok u =>
              obtain ⟨made, later, course⟩ := ih next (calls ++ [.run statement (.ok ())])
              refine ⟨.ran statement :: made, ?_, ?_⟩
              · simp only [runAll, watchedRun, ran]
                rw [later, List.append_assoc]
                rfl
              · simp only [runAll, ran]
                generalize (d.runAll rest next).1 = failed at course
                cases course with
                | all => exact .all
                | some before f split =>
                    subst split
                    exact .some (statement :: _) f rfl

/-- A transaction goes the same way whether or not its calls are kept, and those kept are one
of the three courses. -/
theorem transact_watched (d : Driver σ) (ss : List Statement) (s : σ) (calls : List Call) :
    ∃ made, d.watched.transact ss (s, calls) =
        ((d.transact ss s).1, ((d.transact ss s).2.1, calls ++ made), (d.transact ss s).2.2) ∧
      Course ss made (d.transact ss s).1 := by
  unfold transact
  cases started : d.start s with
  | mk outcome next =>
      have watchedStart : d.watched.start (s, calls) =
          (outcome, next, calls ++ [.start outcome]) := by
        simp only [watched, started]
      rw [watchedStart]
      cases outcome with
      | error f => exact ⟨[.start (.error f)], rfl, .unstarted f⟩
      | ok u =>
          obtain ⟨made, runs, ran⟩ := runAll_watched d ss next (calls ++ [.start (.ok ())])
          cases done : d.runAll ss next with
          | mk failed last =>
              rw [done] at runs ran
              simp only [runs, done]
              cases ran with
              | all =>
                  refine ⟨.start (.ok ()) :: ss.map .ran ++ [.commit (d.commit last).1], ?_, ?_⟩
                  · simp only [watched, List.append_assoc, List.cons_append, List.nil_append]
                  · exact .finished _
              | some before f split =>
                  refine ⟨_, ?_, .abandoned f split (d.rollback last).1⟩
                  simp only [watched, List.append_assoc, List.cons_append, List.nil_append]

/-- Every transaction takes one of the three courses. -/
theorem course_of_transact (d : Driver σ) (ss : List Statement) (s : σ) :
    let seen := d.watched.transact ss (s, [])
    d.transact ss s = (seen.1, seen.2.1.1, seen.2.2) ∧ Course ss seen.2.1.2 seen.1 := by
  intro seen
  obtain ⟨made, same, course⟩ := transact_watched d ss s []
  change seen = _ at same
  rw [same]
  exact ⟨rfl, course⟩

theorem store_watched (d : Driver σ) (ss : List Statement) (s : σ × List Call) :
    (d.watched.store.transact ss s).map Prod.fst = d.store.transact ss s.1 := by
  obtain ⟨made, same, -⟩ := transact_watched d ss s.1 s.2
  simp only [store, Transaction.map, same]

end Driver

/-! ## One transaction after another -/

/-- Calls among which every transaction that starts is ended by one commit or rollback before
the next one starts. -/
inductive Orderly : List Call → Prop
  | nothing : Orderly []
  | unstarted (f : Failure) {later : List Call} (orderly : Orderly later) :
      Orderly (.start (.error f) :: later)
  | ended {inside later : List Call} {last : Call} (runs : ∀ c ∈ inside, c.runs)
      (ends : last.ends) (orderly : Orderly later) :
      Orderly (.start (.ok ()) :: inside ++ last :: later)

theorem Orderly.append {calls later : List Call} (first : Orderly calls)
    (second : Orderly later) : Orderly (calls ++ later) := by
  induction first with
  | nothing => exact second
  | unstarted f orderly ih => exact .unstarted f ih
  | ended runs ends orderly ih =>
      rw [List.append_assoc]
      exact .ended runs ends ih

theorem Orderly.flatten {courses : List (List Call)} (each : ∀ c ∈ courses, Orderly c) :
    Orderly courses.flatten := by
  induction courses with
  | nil => exact .nothing
  | cons course rest ih =>
      have others : ∀ c ∈ rest, Orderly c := fun c member => each c (List.mem_cons_of_mem _ member)
      exact (each course List.mem_cons_self).append (ih others)

namespace Course

variable {ss : List Statement} {calls : List Call} {result : Except StoreError Unit}

theorem runs_of_mem_ran {ss : List Statement} {c : Call} (member : c ∈ ss.map Call.ran) :
    c.runs := by
  obtain ⟨statement, -, rfl⟩ := List.mem_map.mp member
  rfl

theorem orderly (course : Course ss calls result) : Orderly calls := by
  cases course with
  | unstarted f => exact .unstarted f .nothing
  | abandoned f split ignored =>
      refine .ended ?_ rfl .nothing
      intro c member
      rcases List.mem_append.mp member with ran | failed
      · exact runs_of_mem_ran ran
      · rw [List.mem_singleton.mp failed]
        rfl
  | finished outcome => exact .ended (fun c member => runs_of_mem_ran member) rfl .nothing

/-- Only the commit of a transaction that succeeds puts it into effect. -/
theorem eq_ok_of_committed (course : Course ss calls result) (member : .committed ∈ calls) :
    result = .ok () := by
  -- a statement that is run is no commit
  have notRan {ss : List Statement} : Call.committed ∉ ss.map Call.ran := by
    intro ran
    cases runs_of_mem_ran ran
  cases course with
  | unstarted f =>
      rcases List.mem_cons.mp member with same | none
      · cases same
      · cases none
  | abandoned f split ignored =>
      rcases List.mem_append.mp member with earlier | last
      · rcases List.mem_cons.mp earlier with same | inside
        · cases same
        · rcases List.mem_append.mp inside with ran | failed
          · exact absurd ran notRan
          · cases List.mem_singleton.mp failed
      · cases List.mem_singleton.mp last
  | finished outcome =>
      rcases List.mem_append.mp member with earlier | last
      · rcases List.mem_cons.mp earlier with same | ran
        · cases same
        · exact absurd ran notRan
      · cases List.mem_singleton.mp last
        rfl

/-- A transaction that succeeds is put into effect by its last call and no other. -/
theorem committed_last (course : Course ss calls (.ok ())) :
    ∃ before, calls = before ++ [.committed] ∧ .committed ∉ before := by
  generalize result_eq : Except.ok () = result at course
  cases course with
  | unstarted f => cases result_eq
  | abandoned f split ignored => cases result_eq
  | finished outcome =>
      cases outcome with
      | error f => cases result_eq
      | ok u =>
          refine ⟨.start (.ok ()) :: ss.map .ran, rfl, ?_⟩
          intro member
          rcases List.mem_cons.mp member with same | ran
          · cases same
          · cases runs_of_mem_ran ran

end Course

namespace Driver

variable {d : Driver σ} {settings : WriterSettings} {ss : List Statement}

/-- A transaction that nobody gives up is one course more. -/
theorem course_of_within (d : Driver σ) (ss : List Statement) (s : σ × List Call) :
    ∃ course, Course ss course ((d.watched.store.transact ss s).within none).1 ∧
      ((d.watched.store.transact ss s).within none).2.2 = s.2 ++ course := by
  obtain ⟨made, same, course⟩ := transact_watched d ss s.1 s.2
  refine ⟨made, ?_, ?_⟩
  · simp only [store, Transaction.within, same]
    exact course
  · simp only [store, Transaction.within, same]

/-- The transactions for a batch are as many courses. -/
theorem courses_of_stateAfter (d : Driver σ) (ss : List Statement)
    (untimed : settings.timeoutMillis = none) (start : σ) (n : Nat) :
    let store := d.watched.store
    ∃ courses : List (List Call),
      (∀ c ∈ courses, ∃ i < n, Course ss c (store.outcome settings ss (start, []) i)) ∧
      (store.stateAfter settings ss (start, []) n).2 = courses.flatten := by
  intro store
  induction n with
  | zero => exact ⟨[], fun c none => absurd none List.not_mem_nil, rfl⟩
  | succ n ih =>
      obtain ⟨courses, each, before⟩ := ih
      obtain ⟨course, last, after⟩ :=
        course_of_within d ss (store.stateAfter settings ss (start, []) n)
      refine ⟨courses ++ [course], ?_, ?_⟩
      · intro c member
        rcases List.mem_append.mp member with earlier | here
        · obtain ⟨i, less, came⟩ := each c earlier
          exact ⟨i, Nat.lt_succ_of_lt less, came⟩
        · rw [List.mem_singleton.mp here]
          refine ⟨n, Nat.lt_succ_self n, ?_⟩
          rw [Store.outcome, untimed]
          exact last
      · rw [Store.stateAfter, untimed, after, before, List.flatten_append, List.flatten_singleton]

/-- An execution makes one transaction after another. All but the last fail, and the last
succeeds just if the execution does. -/
theorem courses_of_execute (d : Driver σ) (nonempty : ss ≠ [])
    (untimed : settings.timeoutMillis = none) (w : World σ) :
    let seen := d.watched.store.execute settings ss (w.map (·, []))
    ∃ (earlier : List (List Call)) (last : List Call) (outcome : Except StoreError Unit),
      seen.2.store.2 = earlier.flatten ++ last ∧
      (∀ c ∈ earlier, ∃ e, Course ss c (.error e)) ∧ Course ss last outcome ∧
      (outcome = .ok () ↔ ∃ execution, seen.1 = .ok execution) := by
  intro seen
  obtain ⟨n, decisive, stored, decided⟩ := (Store.ended_of_execute nonempty
    (rfl : d.watched.store.execute settings ss (w.map (·, [])) = (seen.1, seen.2))).decided
  change Store.Decisive (d.watched.store.outcome settings ss (w.store, [])) _ n at decisive
  change seen.2.store = d.watched.store.stateAfter settings ss (w.store, []) (n + 1) at stored
  change seen.1.map Execution.retries =
    Store.decision settings n (d.watched.store.outcome settings ss (w.store, []) n) at decided
  obtain ⟨earlier, each, before⟩ := courses_of_stateAfter d ss untimed w.store n
  obtain ⟨last, course, after⟩ :=
    course_of_within d ss (d.watched.store.stateAfter settings ss (w.store, []) n)
  refine ⟨earlier, last, d.watched.store.outcome settings ss (w.store, []) n, ?_, ?_, ?_, ?_⟩
  · rw [stored, Store.stateAfter, untimed, after, before]
  · intro c member
    obtain ⟨i, less, came⟩ := each c member
    obtain ⟨text, failed⟩ := decisive.before i less
    rw [failed] at came
    exact ⟨.transient text, came⟩
  · rw [Store.outcome, untimed]
    exact course
  · generalize d.watched.store.outcome settings ss (w.store, []) n = outcome at decided
    constructor
    · rintro rfl
      obtain ⟨execution, ok, -⟩ := map_eq_ok_iff.mp decided
      exact ⟨execution, ok⟩
    · rintro ⟨execution, ok⟩
      rw [ok] at decided
      rcases outcome with (text | text) | ⟨⟩
      · cases decided
      · cases decided
      · rfl

/-- The discipline of a driver's transactions. Each is a failed start and nothing else, or a
start, the statements in order up to the first that fails, and one rollback if one fails or one
commit if none does; the first failure is the result, whatever the rollback comes to. An
execution that nobody gives up leaves no transaction open when it starts another. It succeeds
just if a commit does, which then is its last call and the only one that succeeds. -/
theorem transactions_disciplined (d : Driver σ) (ss : List Statement) :
    (∀ s : σ,
      let seen := d.watched.transact ss (s, [])
      d.transact ss s = (seen.1, seen.2.1.1, seen.2.2) ∧ Course ss seen.2.1.2 seen.1) ∧
    ∀ (settings : WriterSettings) (w : World σ), settings.timeoutMillis = none →
      let run := d.store.execute settings ss w
      let seen := d.watched.store.execute settings ss (w.map (·, []))
      let calls := seen.2.store.2
      (seen.1 = run.1 ∧ seen.2.map Prod.fst = run.2) ∧ Orderly calls ∧
      (ss = [] → calls = []) ∧
      (ss ≠ [] → (.committed ∈ calls ↔ ∃ execution, run.1 = .ok execution) ∧
        ∀ execution, run.1 = .ok execution →
          ∃ before, calls = before ++ [.committed] ∧ .committed ∉ before) := by
  refine ⟨course_of_transact d ss, ?_⟩
  intro settings w untimed run seen calls
  have unwatched : run = (seen.1, seen.2.map Prod.fst) :=
    Store.execute_map Prod.fst (store_watched d) settings ss (w.map (·, []))
  rw [unwatched]
  refine ⟨⟨rfl, rfl⟩, ?_⟩
  by_cases empty : ss = []
  · subst empty
    exact ⟨.nothing, fun _ => rfl, fun nonempty => absurd rfl nonempty⟩
  obtain ⟨earlier, last, outcome, made, failed, course, succeeds⟩ :=
    courses_of_execute d empty untimed w
  change calls = earlier.flatten ++ last at made
  have uncommitted : .committed ∉ earlier.flatten := by
    intro member
    obtain ⟨c, inside, committed⟩ := List.mem_flatten.mp member
    obtain ⟨e, came⟩ := failed c inside
    cases came.eq_ok_of_committed committed
  have ended : ∀ execution, seen.1 = .ok execution →
      ∃ before, calls = before ++ [.committed] ∧ .committed ∉ before := by
    intro execution ok
    obtain rfl := succeeds.mpr ⟨execution, ok⟩
    obtain ⟨before, split, none⟩ := course.committed_last
    refine ⟨earlier.flatten ++ before, ?_, ?_⟩
    · rw [made, split, List.append_assoc]
    · intro member
      exact (List.mem_append.mp member).elim uncommitted none
  refine ⟨?_, fun impossible => absurd impossible empty, fun _ => ⟨⟨?_, ?_⟩, ended⟩⟩
  · rw [made]
    refine (Orderly.flatten fun c member => ?_).append course.orderly
    obtain ⟨e, came⟩ := failed c member
    exact came.orderly
  · intro committed
    rw [made] at committed
    rcases List.mem_append.mp committed with before | here
    · exact absurd before uncommitted
    · exact succeeds.mp (course.eq_ok_of_committed here)
  · rintro ⟨execution, ok⟩
    obtain ⟨before, split, -⟩ := ended execution ok
    rw [split]
    exact List.mem_append_right before List.mem_cons_self

/-- The connection breaks in the first transaction, so the rollback fails as well, and the
second is committed. -/
theorem transactions_disciplined_broken :
    let merge : Statement := ⟨.mergeNode "person", (Operation.mergeNode "person").text, []⟩
    let server : Server := .start .default true [] [.ok, .drop]
    let settings : WriterSettings := ⟨1, none, 0⟩
    let seen := Server.driver.watched.store.execute settings [merge]
      ((World.ofStore server).map (·, []))
    settings.timeoutMillis = none ∧ [merge] ≠ [] ∧
      seen.2.store.2 =
        [.start (.ok ()), .run merge (.error .lost), .rollback (.error .lost),
          .start (.ok ()), .ran merge, .committed] ∧
      Orderly seen.2.store.2 ∧
      ∃ before, seen.2.store.2 = before ++ [.committed] ∧ .committed ∉ before := by
  intro merge server settings seen
  have some : [merge] ≠ [] := List.cons_ne_nil _ _
  obtain ⟨-, orderly, -, ended⟩ :=
    (transactions_disciplined Server.driver [merge]).2 settings (.ofStore server) rfl
  exact ⟨rfl, some, rfl, orderly, (ended some).2 _ rfl⟩

end Driver

end RecordGraph.Bolt
