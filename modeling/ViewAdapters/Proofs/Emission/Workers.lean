import Mathlib.Data.List.Forall2
import Mathlib.Logic.Relation
import ViewAdapters.Proofs.Emission.Jobs
import ViewAdapters.Proofs.Emission.Slots

/-!
# Workers

The jobs of a run are submitted to a pool of workers. A worker takes a job, generates
its adapter and then writes it, while other workers do the same with other jobs. A step
of the pool is one of these three for one job, so a sequence of steps is any order in
which jobs can start, go on and end.

* `sound_of_steps`: what holds of a pool at any time. What is on disk is what some job
  that has ended has written, or what was there at the start.
* `works_outcome`, `works_get`: what a pool leaves when all jobs have ended.
* `works_inOrder`: one job after the other is one of the orders.
* `exists_works`: no order comes to a halt before all jobs have ended.
-/

namespace ViewAdapters.Emission

/-- How far a job has come. -/
inductive Stage where
  | waiting
  | started
  | generated (result : Except String Generated)
  | ended (outcome : Outcome)

/-- Whether a worker has the job. -/
def Stage.isBusy : Stage → Bool
  | .started | .generated _ => true
  | .waiting | .ended _ => false

/-- The files and how far each job has come, in the order of submission. -/
structure Pool where
  files : Files
  stages : List Stage

/-- The pool when the jobs were submitted. -/
def Pool.submitted (files : Files) (jobs : List Pair) : Pool :=
  ⟨files, jobs.map fun _ => .waiting⟩

/-- One step of a worker. No more jobs are under way than there are workers. -/
inductive Step (s : Settings) (jobs : List Pair) : Pool → Pool → Prop where
  | take {pool : Pool} {k : Nat} (hStage : pool.stages[k]? = some .waiting)
      (hFree : pool.stages.countP Stage.isBusy < s.workers) :
      Step s jobs pool { pool with stages := pool.stages.set k .started }
  | generate {pool : Pool} {k : Nat} {p : Pair} (hJob : jobs[k]? = some p)
      (hStage : pool.stages[k]? = some .started) :
      Step s jobs pool
        { pool with stages := pool.stages.set k (.generated (p.2.generate p.1)) }
  | write {pool : Pool} {k : Nat} {p : Pair} {result : Except String Generated}
      (hJob : jobs[k]? = some p) (hStage : pool.stages[k]? = some (.generated result)) :
      Step s jobs pool
        ⟨(endJob s pool.files p result).files,
          pool.stages.set k (.ended (endJob s pool.files p result).outcome)⟩

/-- Steps of the pool, in any order that is possible. -/
abbrev Steps (s : Settings) (jobs : List Pair) : Pool → Pool → Prop :=
  Relation.ReflTransGen (Step s jobs)

/-- Workers can bring the jobs to an end that leaves these files and outcomes. -/
def Works (s : Settings) (start : Files) (jobs : List Pair) (final : Files)
    (outcomes : List Outcome) : Prop :=
  Steps s jobs (Pool.submitted start jobs) ⟨final, outcomes.map .ended⟩

/-! ## What holds at any time -/

/-- What is found at a place: what was there at the start if no job that has ended writes
there, and otherwise what one of them writes. -/
def Accounted (s : Settings) (start : Files) (jobs : List Pair) (stages : List Stage)
    (q : Place) (found : Option Entry) : Prop :=
  (found = start.get q ∧ ∀ (k : Nat) o p, stages[k]? = some (.ended o) →
    jobs[k]? = some p → ∀ content, ¬ Writes s start p q content) ∨
  ∃ (k : Nat) (o : Outcome) (p : Pair) (content : ByteArray),
    stages[k]? = some (.ended o) ∧ jobs[k]? = some p ∧ Writes s start p q content ∧
      found = some (.file content)

/-- What holds of a pool whose jobs were submitted with the files `start`. -/
structure Sound (s : Settings) (start : Files) (jobs : List Pair) (pool : Pool) : Prop where
  length : pool.stages.length = jobs.length
  directories : start.SameDirectories pool.files
  generated : ∀ (k : Nat) result, pool.stages[k]? = some (.generated result) →
    ∃ p, jobs[k]? = some p ∧ result = p.2.generate p.1
  /-- An outcome is that of the job on the files as they were when it ended. -/
  ended : ∀ (k : Nat) o, pool.stages[k]? = some (.ended o) →
    ∃ p earlier, jobs[k]? = some p ∧ Steps s jobs (Pool.submitted start jobs) earlier ∧
      start.SameDirectories earlier.files ∧ o = (runJob s earlier.files p).outcome
  files : ∀ q, Accounted s start jobs pool.stages q (pool.files.get q)

section Set

variable {stages : List Stage} {k j : Nat} {x y : Stage}

theorem getElem?_set_cases (h : (stages.set k x)[j]? = some y) :
    (j = k ∧ y = x) ∨ (j ≠ k ∧ stages[j]? = some y) := by
  rw [List.getElem?_set] at h
  split at h
  · rename_i hEq
    split at h
    · cases h
      exact .inl ⟨hEq.symm, rfl⟩
    · contradiction
  · rename_i hNe
    exact .inr ⟨fun hEq => hNe hEq.symm, h⟩

theorem getElem?_set_of_ne (hj : j ≠ k) : (stages.set k x)[j]? = stages[j]? := by
  rw [List.getElem?_set_ne hj.symm]

end Set

theorem waiting_of_submitted {start : Files} {jobs : List Pair} {k : Nat} {x : Stage}
    (h : (Pool.submitted start jobs).stages[k]? = some x) : x = .waiting := by
  obtain ⟨p, -, hx⟩ := List.mem_map.1 (List.mem_of_getElem? h)
  exact hx.symm

theorem sound_submitted (s : Settings) (start : Files) (jobs : List Pair) :
    Sound s start jobs (Pool.submitted start jobs) where
  length := by simp [Pool.submitted]
  directories := Files.SameDirectories.refl start
  generated := by
    intro k result h
    exact absurd (waiting_of_submitted h) (by simp)
  ended := by
    intro k o h
    exact absurd (waiting_of_submitted h) (by simp)
  files := by
    intro q
    refine .inl ⟨rfl, fun k o p h => ?_⟩
    exact absurd (waiting_of_submitted h) (by simp)

section Step

variable {s : Settings} {start : Files} {jobs : List Pair} {pool : Pool}

/-- A job that goes on without ending changes nothing that is said of ended jobs. -/
theorem Sound.set_stage (h : Sound s start jobs pool) {k : Nat} {x y : Stage}
    (hStage : pool.stages[k]? = some x) (hx : ∀ o, x ≠ .ended o) (hy : ∀ o, y ≠ .ended o)
    (hResult : ∀ result, y = .generated result →
      ∃ p, jobs[k]? = some p ∧ result = p.2.generate p.1) :
    Sound s start jobs { pool with stages := pool.stages.set k y } := by
  have hEnded : ∀ (j : Nat) o, (pool.stages.set k y)[j]? = some (.ended o) ↔
      pool.stages[j]? = some (.ended o) := by
    intro j o
    by_cases hj : j = k
    · subst hj
      rw [hStage, List.getElem?_set]
      constructor
      · intro hEq
        split at hEq
        · split at hEq
          · exact absurd (Option.some.inj hEq) (hy o)
          · contradiction
        · contradiction
      · intro hEq
        exact absurd (Option.some.inj hEq) (hx o)
    · rw [getElem?_set_of_ne hj]
  refine ⟨by simpa using h.length, h.directories, ?_, ?_, ?_⟩
  · intro j result hj
    rcases getElem?_set_cases hj with ⟨rfl, hEq⟩ | ⟨-, hOld⟩
    · exact hResult result hEq.symm
    · exact h.generated j result hOld
  · intro j o hj
    exact h.ended j o ((hEnded j o).1 hj)
  · intro q
    have hOld := h.files q
    unfold Accounted at hOld ⊢
    simpa only [hEnded] using hOld

/-- The end of a job that does not write at a place leaves what is said of that place. -/
theorem Accounted.of_unwritten {stages : List Stage} {q : Place} {found : Option Entry}
    (h : Accounted s start jobs stages q found) {k : Nat} {p : Pair} {x : Stage} (o : Outcome)
    (hJob : jobs[k]? = some p) (hStage : stages[k]? = some x) (hx : ∀ o, x ≠ .ended o)
    (hNot : ∀ content, ¬ Writes s start p q content) :
    Accounted s start jobs (stages.set k (.ended o)) q found := by
  rcases h with ⟨hStart, hOthers⟩ | ⟨j, other, p', content, hj, hp, hWrites, hThere⟩
  · refine .inl ⟨hStart, fun j other p' hj hp content => ?_⟩
    rcases getElem?_set_cases hj with ⟨rfl, -⟩ | ⟨-, hOld⟩
    · cases hJob.symm.trans hp
      exact hNot content
    · exact hOthers j other p' hOld hp content
  · have hNe : j ≠ k := by
      rintro rfl
      rw [hStage] at hj
      exact hx other (Option.some.inj hj)
    refine .inr ⟨j, other, p', content, ?_, hp, hWrites, hThere⟩
    rw [getElem?_set_of_ne hNe]
    exact hj

/-- The end of a job: its outcome is new, and at most one place has changed. -/
theorem Sound.write (h : Sound s start jobs pool)
    (hReach : Steps s jobs (Pool.submitted start jobs) pool) {k : Nat} {p : Pair}
    {result : Except String Generated} (hJob : jobs[k]? = some p)
    (hStage : pool.stages[k]? = some (.generated result)) :
    Sound s start jobs
      ⟨(endJob s pool.files p result).files,
        pool.stages.set k (.ended (endJob s pool.files p result).outcome)⟩ := by
  obtain ⟨p', hp', rfl⟩ := h.generated k result hStage
  cases hJob.symm.trans hp'
  rw [← runJob_eq_endJob]
  have hSame := sameDirectories_runJob s pool.files p
  have hBound : k < pool.stages.length := (List.getElem?_eq_some_iff.1 hStage).1
  refine ⟨by simpa using h.length, h.directories.trans hSame, ?_, ?_, ?_⟩
  · intro j other hj
    rcases getElem?_set_cases hj with ⟨-, hEq⟩ | ⟨-, hOld⟩
    · contradiction
    · exact h.generated j other hOld
  · intro j o hj
    rcases getElem?_set_cases hj with ⟨rfl, hEq⟩ | ⟨-, hOld⟩
    · cases hEq
      exact ⟨p, pool, hJob, hReach, h.directories, rfl⟩
    · exact h.ended j o hOld
  · intro q
    have hUnwritten := (h.files q).of_unwritten (runJob s pool.files p).outcome hJob hStage
      (by simp)
    rcases runJob_files s pool.files p with ⟨place, content, hWrites, hFiles⟩ | ⟨hNone, hFiles⟩
    · have hWrote := (writes_congr h.directories).2 hWrites
      dsimp only
      rw [hFiles, Files.get_put (Files.ne_nil_of_get hWrites.free)]
      by_cases hq : q = place
      · subst hq
        rw [if_pos rfl]
        exact .inr ⟨k, _, p, content, List.getElem?_set_self hBound, hJob, hWrote, rfl⟩
      · rw [if_neg hq]
        exact hUnwritten fun other hOther => hq (hOther.unique hWrote).1
    · dsimp only
      rw [hFiles]
      exact hUnwritten fun content hWrites =>
        hNone q content ((writes_congr h.directories).1 hWrites)

theorem Step.sound {next : Pool} (hStep : Step s jobs pool next)
    (hReach : Steps s jobs (Pool.submitted start jobs) pool) (h : Sound s start jobs pool) :
    Sound s start jobs next := by
  cases hStep with
  | take hStage hFree =>
    exact h.set_stage hStage (fun o => by simp) (fun o => by simp)
      (fun result hEq => by simp at hEq)
  | generate hJob hStage =>
    refine h.set_stage hStage (fun o => by simp) (fun o => by simp) (fun result hEq => ?_)
    cases hEq
    exact ⟨_, hJob, rfl⟩
  | write hJob hStage => exact h.write hReach hJob hStage

end Step

theorem sound_of_steps {s : Settings} {start : Files} {jobs : List Pair} {pool : Pool}
    (h : Steps s jobs (Pool.submitted start jobs) pool) : Sound s start jobs pool := by
  induction h with
  | refl => exact sound_submitted s start jobs
  | tail hReach hStep ih => exact hStep.sound hReach ih

/-! ## When all jobs have ended -/

section Works

variable {s : Settings} {start final final' : Files} {jobs : List Pair}
  {outcomes outcomes' : List Outcome}

theorem works_length (h : Works s start jobs final outcomes) :
    outcomes.length = jobs.length := by
  simpa using (sound_of_steps h).length

theorem works_outcome (h : Works s start jobs final outcomes) {k : Nat} {p : Pair}
    (hJob : jobs[k]? = some p) :
    ∃ earlier, Steps s jobs (Pool.submitted start jobs) earlier ∧
      start.SameDirectories earlier.files ∧
      outcomes[k]? = some (runJob s earlier.files p).outcome := by
  obtain ⟨hk, -⟩ := List.getElem?_eq_some_iff.1 hJob
  rw [← works_length h] at hk
  have hEnded : (outcomes.map Stage.ended)[k]? = some (.ended outcomes[k]) := by
    rw [List.getElem?_map, List.getElem?_eq_getElem hk]
    rfl
  obtain ⟨p', earlier, hp', hReach, hSame, hOutcome⟩ := (sound_of_steps h).ended k _ hEnded
  cases hJob.symm.trans hp'
  refine ⟨earlier, hReach, hSame, ?_⟩
  rw [List.getElem?_eq_getElem hk, hOutcome]

/-- Each job has its outcome with the files as they were when it ended. -/
theorem ended_of_works (h : Works s start jobs final outcomes) :
    List.Forall₂ (fun p o => p ∈ jobs ∧ ∃ earlier,
      Steps s jobs (Pool.submitted start jobs) earlier ∧ start.SameDirectories earlier.files ∧
        o = (runJob s earlier.files p).outcome) jobs outcomes := by
  refine List.forall₂_iff_get.2 ⟨(works_length h).symm, fun k hk hk' => ?_⟩
  obtain ⟨earlier, hReach, hSame, hOutcome⟩ := works_outcome h (List.getElem?_eq_getElem hk)
  rw [List.getElem?_eq_getElem hk'] at hOutcome
  exact ⟨List.getElem_mem hk, earlier, hReach, hSame, Option.some.inj hOutcome⟩

theorem works_get (h : Works s start jobs final outcomes) (q : Place) :
    (final.get q = start.get q ∧ ∀ p ∈ jobs, ∀ content, ¬ Writes s start p q content) ∨
      ∃ p ∈ jobs, ∃ content, Writes s start p q content ∧
        final.get q = some (.file content) := by
  rcases (sound_of_steps h).files q with ⟨hSame, hNone⟩ |
    ⟨k, o, p, content, -, hJob, hWrites, hGet⟩
  · refine .inl ⟨hSame, fun p hp content => ?_⟩
    obtain ⟨k, hJob⟩ := List.mem_iff_getElem?.1 hp
    obtain ⟨hk, -⟩ := List.getElem?_eq_some_iff.1 hJob
    rw [← works_length h] at hk
    refine hNone k outcomes[k] p ?_ hJob content
    rw [List.getElem?_map, List.getElem?_eq_getElem hk]
    rfl
  · exact .inr ⟨p, List.mem_of_getElem? hJob, content, hWrites, hGet⟩

end Works

/-! ## One job after the other -/

/-- Runs jobs one after the other. -/
def runInOrder (s : Settings) (f : Files) : List Pair → Files × List Outcome
  | [] => (f, [])
  | p :: rest =>
    let later := runInOrder s (runJob s f p).files rest
    (later.1, (runJob s f p).outcome :: later.2)

/-- A pool in which some jobs have ended and the others wait. -/
def Pool.after (f : Files) (done : List Outcome) (rest : List Pair) : Pool :=
  ⟨f, done.map .ended ++ rest.map fun _ => .waiting⟩

theorem countP_isBusy_after (f : Files) (done : List Outcome) (rest : List Pair) :
    (Pool.after f done rest).stages.countP Stage.isBusy = 0 := by
  rw [List.countP_eq_zero]
  intro x hx
  rcases List.mem_append.1 hx with hx | hx
  · obtain ⟨o, -, rfl⟩ := List.mem_map.1 hx
    simp [Stage.isBusy]
  · obtain ⟨p, -, rfl⟩ := List.mem_map.1 hx
    simp [Stage.isBusy]

/-- A pool in which some jobs have ended, one is under way and the others wait. -/
def Pool.during (f : Files) (done : List Outcome) (x : Stage) (rest : List Pair) : Pool :=
  ⟨f, done.map .ended ++ x :: rest.map fun _ => .waiting⟩

theorem Pool.during_getElem? (f : Files) (done : List Outcome) (x : Stage) (rest : List Pair) :
    (during f done x rest).stages[done.length]? = some x := by
  simp [during]

theorem Pool.during_set (f : Files) (done : List Outcome) (x y : Stage) (rest : List Pair) :
    (during f done x rest).stages.set done.length y = (during f done y rest).stages := by
  simp [during]

/-- A worker that is alone takes the next job, generates it and writes it. -/
theorem steps_runJob {s : Settings} {f : Files} {front rest : List Pair} {p : Pair}
    {done : List Outcome} (hLength : done.length = front.length) :
    Steps s (front ++ p :: rest) (Pool.after f done (p :: rest))
      (Pool.after (runJob s f p).files (done ++ [(runJob s f p).outcome]) rest) := by
  have hJob : (front ++ p :: rest)[done.length]? = some p := by simp [hLength]
  have hFree : (Pool.after f done (p :: rest)).stages.countP Stage.isBusy < s.workers := by
    rw [countP_isBusy_after]
    exact s.one_le_workers
  have hTake : Step s (front ++ p :: rest) (Pool.after f done (p :: rest))
      ⟨f, (Pool.during f done .waiting rest).stages.set done.length .started⟩ :=
    .take (Pool.during_getElem? f done .waiting rest) hFree
  have hGenerate : Step s (front ++ p :: rest) (Pool.during f done .started rest)
      ⟨f, (Pool.during f done .started rest).stages.set done.length
        (.generated (p.2.generate p.1))⟩ :=
    .generate hJob (Pool.during_getElem? f done .started rest)
  have hWrite : Step s (front ++ p :: rest)
      (Pool.during f done (.generated (p.2.generate p.1)) rest)
      ⟨(runJob s f p).files,
        (Pool.during f done (.generated (p.2.generate p.1)) rest).stages.set done.length
          (.ended (runJob s f p).outcome)⟩ := by
    rw [runJob_eq_endJob]
    exact .write hJob (Pool.during_getElem? f done _ rest)
  rw [Pool.during_set] at hTake hGenerate hWrite
  have hAfter : Pool.after (runJob s f p).files (done ++ [(runJob s f p).outcome]) rest =
      ⟨(runJob s f p).files,
        (Pool.during f done (.ended (runJob s f p).outcome) rest).stages⟩ := by
    simp [Pool.after, Pool.during]
  rw [hAfter]
  exact ((Relation.ReflTransGen.single hTake).tail hGenerate).tail hWrite

theorem steps_runInOrder {s : Settings} (f : Files) {front rest : List Pair}
    {done : List Outcome} (hLength : done.length = front.length) :
    Steps s (front ++ rest) (Pool.after f done rest)
      (Pool.after (runInOrder s f rest).1 (done ++ (runInOrder s f rest).2) []) := by
  induction rest generalizing f front done with
  | nil =>
    rw [runInOrder, List.append_nil done]
  | cons p rest ih =>
    have hNext : (done ++ [(runJob s f p).outcome]).length = (front ++ [p]).length := by
      simp [hLength]
    have hLater := ih (runJob s f p).files hNext
    rw [List.append_assoc, List.append_assoc] at hLater
    exact (steps_runJob hLength).trans hLater

theorem works_inOrder (s : Settings) (f : Files) (jobs : List Pair) :
    Works s f jobs (runInOrder s f jobs).1 (runInOrder s f jobs).2 := by
  have hSteps : Steps s ([] ++ jobs) (Pool.after f [] jobs) _ :=
    steps_runInOrder f rfl
  simpa [Works, Pool.after, Pool.submitted] using hSteps

/-! ## Every order comes to an end -/

/-- The steps that a job still takes. -/
def Stage.stepsLeft : Stage → Nat
  | .waiting => 3
  | .started => 2
  | .generated _ => 1
  | .ended _ => 0

/-- The steps that some jobs still take. -/
def stepsLeft : List Stage → Nat
  | [] => 0
  | x :: rest => x.stepsLeft + stepsLeft rest

theorem stepsLeft_set_lt {stages : List Stage} {k : Nat} {x y : Stage}
    (hx : stages[k]? = some x) (hLess : y.stepsLeft < x.stepsLeft) :
    stepsLeft (stages.set k y) < stepsLeft stages := by
  induction stages generalizing k with
  | nil => contradiction
  | cons first rest ih =>
    cases k with
    | zero =>
      cases hx
      rw [List.set_cons_zero, stepsLeft, stepsLeft]
      omega
    | succ k =>
      have hRest := ih hx
      rw [List.set_cons_succ, stepsLeft, stepsLeft]
      omega

theorem Step.stepsLeft_lt {s : Settings} {jobs : List Pair} {pool next : Pool}
    (h : Step s jobs pool next) : stepsLeft next.stages < stepsLeft pool.stages := by
  cases h with
  | take hStage _ => exact stepsLeft_set_lt hStage (by simp [Stage.stepsLeft])
  | generate _ hStage => exact stepsLeft_set_lt hStage (by simp [Stage.stepsLeft])
  | write _ hStage => exact stepsLeft_set_lt hStage (by simp [Stage.stepsLeft])

/-- While a job has not ended, some worker can take a step. -/
theorem exists_step {s : Settings} {jobs : List Pair} {pool : Pool}
    (hLength : pool.stages.length = jobs.length) {x : Stage} (hx : x ∈ pool.stages)
    (hOpen : ∀ o, x ≠ .ended o) : ∃ next, Step s jobs pool next := by
  have hJob : ∀ {k : Nat} {y : Stage}, pool.stages[k]? = some y → ∃ p, jobs[k]? = some p := by
    intro k y hy
    obtain ⟨hk, -⟩ := List.getElem?_eq_some_iff.1 hy
    exact ⟨jobs[k], List.getElem?_eq_getElem (by omega)⟩
  by_cases hBusy : ∃ y ∈ pool.stages, y.isBusy
  · -- A job that is under way goes on.
    obtain ⟨y, hy, hIsBusy⟩ := hBusy
    obtain ⟨k, hk⟩ := List.mem_iff_getElem?.1 hy
    obtain ⟨p, hp⟩ := hJob hk
    cases y with
    | waiting => simp [Stage.isBusy] at hIsBusy
    | started => exact ⟨_, .generate hp hk⟩
    | generated result => exact ⟨_, .write hp hk⟩
    | ended o => simp [Stage.isBusy] at hIsBusy
  · obtain ⟨k, hk⟩ := List.mem_iff_getElem?.1 hx
    have hFree : pool.stages.countP Stage.isBusy < s.workers := by
      have hNone : pool.stages.countP Stage.isBusy = 0 := by
        rw [List.countP_eq_zero]
        exact fun y hy hIsBusy => hBusy ⟨y, hy, hIsBusy⟩
      rw [hNone]
      exact s.one_le_workers
    cases x with
    | waiting => exact ⟨_, .take hk hFree⟩
    | started => exact absurd ⟨_, hx, rfl⟩ hBusy
    | generated result => exact absurd ⟨_, hx, rfl⟩ hBusy
    | ended o => exact absurd rfl (hOpen o)

theorem eq_map_ended {stages : List Stage} (h : ∀ x ∈ stages, ∃ o, x = .ended o) :
    ∃ outcomes : List Outcome, stages = outcomes.map .ended := by
  induction stages with
  | nil => exact ⟨[], rfl⟩
  | cons x rest ih =>
    obtain ⟨o, rfl⟩ := h x (by simp)
    obtain ⟨outcomes, rfl⟩ := ih fun y hy => h y (List.mem_cons_of_mem _ hy)
    exact ⟨o :: outcomes, rfl⟩

/-- However far the pool has come and in whatever order, its jobs can all be ended. -/
theorem exists_works {s : Settings} {start : Files} {jobs : List Pair} {pool : Pool}
    (h : Steps s jobs (Pool.submitted start jobs) pool) :
    ∃ (final : Files) (outcomes : List Outcome),
      Steps s jobs pool ⟨final, outcomes.map .ended⟩ := by
  generalize hLeft : stepsLeft pool.stages = left
  induction left using Nat.strongRecOn generalizing pool with
  | ind left ih =>
    by_cases hAll : ∀ x ∈ pool.stages, ∃ o, x = .ended o
    · obtain ⟨outcomes, hStages⟩ := eq_map_ended hAll
      refine ⟨pool.files, outcomes, ?_⟩
      rw [← hStages]
    · push Not at hAll
      obtain ⟨x, hx, hOpen⟩ := hAll
      obtain ⟨next, hStep⟩ := exists_step (sound_of_steps h).length hx hOpen
      obtain ⟨final, outcomes, hRest⟩ := ih (stepsLeft next.stages) (hLeft ▸ hStep.stepsLeft_lt)
        (h.tail hStep) rfl
      exact ⟨final, outcomes, hRest.head hStep⟩

end ViewAdapters.Emission
