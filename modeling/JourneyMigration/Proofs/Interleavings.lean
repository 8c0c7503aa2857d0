import JourneyMigration.Proofs.Updates
import Mathlib.Data.List.Pairwise

/-!
# Interleavings — batches whose files are converted at the same time.

A file is converted in three turns: the first reads it and prepares its report, the second puts the journey into a
temporary file beside its place, and the third moves it there. A schedule says which file has the next turn, and so
it stands for any way in which several workers can take turns on one file system. Main statement: if no journey is
written where another one is, where a file of the batch stands or above either, then under every schedule each file
has the result it has alone, and the file system ends up as if the files had been converted one after the other.

What carries it is that a turn of one file is not seen by the others. The places written so far never lie on the
way of a path that is still to be looked up, so reads and writes go as in the beginning, their faults included.
-/

namespace JourneyMigration.Batch

open FileSystem

/-! ## Turns -/

/-- How far the conversion of a file has got. -/
inductive Stage where
  | waiting
  | prepared (report : Report)
  /-- The journey is in a temporary file, which nothing else knows of. -/
  | staged (report : Report)
  | done (result : Except Failure Report)

/-- A file of a batch at some stage. -/
structure Job where
  input : Path
  stage : Stage

/-- A file system and the files that are being converted on it. -/
structure State where
  fs : FileSystem
  jobs : List Job

/-- One turn of a file. -/
def Stage.next (vocabulary : Vocabulary) (fs : FileSystem) (input : Path) : Stage → Stage × FileSystem
  | waiting =>
    match prepare vocabulary fs input with
    | .error e => (done (.error e), fs)
    | .ok report => (prepared report, fs)
  | prepared report =>
    match fs.directory (directoryOf report.output) with
    | .error fault => (done (.error (.badFile (directoryOf report.output) fault)), fs)
    | .ok _ => (staged report, fs)
  | staged report =>
    match fs.destination report.output with
    | .error fault => (done (.error (.badFile report.output fault)), fs)
    | .ok loc => (done (.ok report), fs.put loc (Path.bytesOf report.code))
  | done result => (done result, fs)

/-- One turn of the file in a place of the batch. -/
def advance (vocabulary : Vocabulary) (i : Nat) (st : State) : State :=
  match st.jobs[i]? with
  | none => st
  | some job =>
    let (stage, fs) := job.stage.next vocabulary st.fs job.input
    ⟨fs, st.jobs.set i { job with stage }⟩

theorem advance_of_none (vocabulary : Vocabulary) {i : Nat} {st : State} (h : st.jobs[i]? = none) :
    advance vocabulary i st = st := by
  rw [advance, h]

theorem advance_of_some (vocabulary : Vocabulary) {i : Nat} {st : State} {job : Job} (h : st.jobs[i]? = some job) :
    advance vocabulary i st =
      ⟨(job.stage.next vocabulary st.fs job.input).2,
        st.jobs.set i ⟨job.input, (job.stage.next vocabulary st.fs job.input).1⟩⟩ := by
  rw [advance, h]

/-- Turns as a schedule gives them. -/
def execute (vocabulary : Vocabulary) : List Nat → State → State
  | [], st => st
  | i :: schedule, st => execute vocabulary schedule (advance vocabulary i st)

/-- A batch before the first turn. -/
def start (fs : FileSystem) (inputs : List Path) : State := ⟨fs, inputs.map (⟨·, .waiting⟩)⟩

/-- Three turns convert a file. -/
theorem Stage.next_next_next (vocabulary : Vocabulary) (fs : FileSystem) (input : Path) :
    let first := Stage.waiting.next vocabulary fs input
    let second := first.1.next vocabulary first.2 input
    second.1.next vocabulary second.2 input =
      (.done (convertFile vocabulary fs input).1, (convertFile vocabulary fs input).2) := by
  cases hprepare : prepare vocabulary fs input with
  | error e => simp [Stage.next, convertFile, hprepare]
  | ok report =>
    cases hdirectory : fs.directory (directoryOf report.output) with
    | error fault => simp [Stage.next, convertFile, deliver, write, hprepare, hdirectory]
    | ok es =>
      cases hdestination : fs.destination report.output <;>
        simp [Stage.next, convertFile, deliver, write, hprepare, hdirectory, hdestination]

/-! ## Batches that are apart -/

/-- Two files whose journeys go to different places. -/
def GoApart (fs : FileSystem) (a b : Path) : Prop := ∀ loc ∈ fs.placeOf? a.journey, loc ∉ fs.placeOf? b.journey

instance (fs : FileSystem) (a b : Path) : Decidable (GoApart fs a b) :=
  inferInstanceAs (Decidable (∀ loc ∈ fs.placeOf? a.journey, loc ∉ fs.placeOf? b.journey))

instance (fs : FileSystem) : Std.Symm (GoApart fs) := ⟨fun _ _ h loc hb ha => h loc ha hb⟩

/-- The journeys of a batch go to places of their own: none goes where another one goes, where a file of the batch
stands, or above one of these. -/
structure Apart (fs : FileSystem) (inputs : List Path) : Prop where
  fromOthers : inputs.Pairwise (GoApart fs)
  fromInputs : ∀ a ∈ inputs, ∀ b ∈ inputs, ∀ loc ∈ fs.placeOf? a.journey, loc ∉ fs.placeOf? b
  fromAbove : ∀ a ∈ inputs, ∀ b ∈ inputs, ∀ loc ∈ fs.placeOf? a.journey,
    loc ∉ fs.placesAbove b ∧ loc ∉ fs.placesAbove b.journey

/-! ## What a turn keeps -/

section Turns

variable {vocabulary : Vocabulary} {fs fs' : FileSystem} {input : Path}

/-- A stage that the file gets to when it is converted alone. -/
def Stage.Sound (vocabulary : Vocabulary) (fs : FileSystem) (input : Path) : Stage → Prop
  | waiting => True
  | prepared report => prepare vocabulary fs input = .ok report
  | staged report =>
    prepare vocabulary fs input = .ok report ∧ fs.directoryFaultAt? (directoryOf report.output) = none
  | done result => (convertFile vocabulary fs input).1 = result

/-- The file that was written to get to a stage, by place and content. -/
def Stage.written? (fs : FileSystem) : Stage → Option (Location × List UInt8)
  | done (.ok report) => (fs.target report.output).toOption.map (·, Path.bytesOf report.code)
  | _ => none

theorem prepare_eq (h : AgreeAlong fs fs' input) : prepare vocabulary fs' input = prepare vocabulary fs input := by
  rw [prepare, prepare, h.readText_eq]

/-- What is known of a file once it is prepared. -/
theorem prepare_eq_ok {report : Report} (h : prepare vocabulary fs input = .ok report) :
    report.output = input.journey ∧ input.journey.names ≠ [] := by
  rw [prepare] at h
  split at h
  · cases h
  · next text htext =>
    split at h
    · cases h
    · cases h
      refine ⟨rfl, ?_⟩
      have hnames := names_ne_nil_of_readText htext
      cases hname : input.fileName? with
      | none => rwa [Path.journey_of_fileName?_none hname]
      | some name => rw [(Path.names_journey hname).1]; simp

/-- A turn that others have not disturbed gets to where it would get alone, and what it puts into the file system
is what the stage says. -/
theorem Stage.next_sound {stage : Stage} (hsound : stage.Sound vocabulary fs input)
    (hinput : AgreeAlong fs fs' input) (houtput : AgreeAlong fs fs' input.journey)
    (hwritten : stage.written? fs = none) :
    (stage.next vocabulary fs' input).1.Sound vocabulary fs input ∧
      (stage.next vocabulary fs' input).2 =
        fs'.putAll ((stage.next vocabulary fs' input).1.written? fs).toList := by
  cases stage with
  | waiting =>
    simp only [Stage.next, prepare_eq hinput]
    cases hprepare : prepare vocabulary fs input with
    | error e => exact ⟨by simp [Stage.Sound, convertFile, hprepare], rfl⟩
    | ok report => exact ⟨hprepare, rfl⟩
  | prepared report =>
    obtain ⟨heq, hnames⟩ := prepare_eq_ok hsound
    have hprepare : prepare vocabulary fs input = .ok report := hsound
    have hdirectory := (houtput.directoryOf hnames).directoryFaultAt?_eq
    cases hfault : fs.directoryFaultAt? (directoryOf input.journey) with
    | some fault =>
      simp only [Stage.next, heq, directory_of_fault (hdirectory.trans hfault)]
      refine ⟨?_, rfl⟩
      show (convertFile vocabulary fs input).1 = .error (.badFile (directoryOf input.journey) fault)
      simp [convertFile, hprepare, deliver, write_eq, heq, target, hfault, Except.map]
    | none =>
      obtain ⟨es, hes⟩ := directory_of_no_fault (hdirectory.trans hfault)
      simp only [Stage.next, heq, hes]
      exact ⟨⟨hprepare, by rwa [heq]⟩, rfl⟩
  | staged report =>
    obtain ⟨hprepare, hfault⟩ := hsound
    obtain ⟨heq, _⟩ := prepare_eq_ok hprepare
    rw [heq] at hfault
    simp only [Stage.next, heq, houtput.destination_eq]
    cases hdestination : fs.destination input.journey with
    | error fault =>
      refine ⟨?_, rfl⟩
      show (convertFile vocabulary fs input).1 = .error (.badFile input.journey fault)
      simp [convertFile, hprepare, deliver, write_eq, heq, target, hfault, hdestination, Except.map]
    | ok loc =>
      have htarget : fs.target input.journey = .ok loc := by simp only [target, hfault, hdestination]
      refine ⟨?_, ?_⟩
      · show (convertFile vocabulary fs input).1 = .ok report
        simp [convertFile, hprepare, deliver, write_eq, heq, htarget, Except.map]
      · simp [Stage.written?, heq, htarget, Except.toOption, putAll]
  | done result =>
    simp only [Stage.next, hwritten]
    exact ⟨hsound, rfl⟩

end Turns

/-! ## What a run keeps -/

section Runs

variable {vocabulary : Vocabulary} {fs : FileSystem} {inputs : List Path} {st : State}

theorem convertFile_eq_ok {input : Path} {report : Report} (h : (convertFile vocabulary fs input).1 = .ok report) :
    report.output = input.journey ∧ ∃ loc, fs.target input.journey = .ok loc := by
  rw [convertFile] at h
  split at h
  · cases h
  · next prepared hprepare =>
    obtain ⟨houtput, _⟩ := prepare_eq_ok hprepare
    rw [deliver, write_eq, houtput] at h
    cases htarget : fs.target input.journey with
    | error e => rw [htarget] at h; cases h
    | ok loc =>
      rw [htarget] at h
      cases h
      exact ⟨houtput, loc, rfl⟩

/-- A file that has been written was written where its path leads in the beginning. -/
theorem Stage.written?_eq_some {input : Path} {stage : Stage} {f : Location × List UInt8}
    (hsound : stage.Sound vocabulary fs input) (h : stage.written? fs = some f) :
    Writable fs.entries f.1 ∧ f.1 ∈ fs.placeOf? input.journey := by
  match stage, h with
  | .done (.ok report), h =>
    obtain ⟨houtput, loc, htarget⟩ := convertFile_eq_ok hsound
    simp only [Stage.written?, houtput, htarget, Except.toOption, Option.map_some, Option.some.injEq] at h
    obtain ⟨hplace, hwritable⟩ := target_eq_ok htarget
    exact h ▸ ⟨hwritable, hplace⟩

/-- A batch in which every file is at a stage that it gets to alone, and whose file system is that of the beginning
with the files put that have been written so far. -/
structure Consistent (vocabulary : Vocabulary) (fs : FileSystem) (inputs : List Path) (st : State) : Prop where
  inputs_eq : st.jobs.map (·.input) = inputs
  sound : ∀ job ∈ st.jobs, job.stage.Sound vocabulary fs job.input
  files : ∃ log, log.Perm (st.jobs.filterMap (·.stage.written? fs)) ∧ st.fs = fs.putAll log

theorem consistent_start (vocabulary : Vocabulary) (fs : FileSystem) (inputs : List Path) :
    Consistent vocabulary fs inputs (start fs inputs) := by
  refine ⟨?_, ?_, [], ?_, rfl⟩
  · simp [start, Function.comp_def]
  · intro job hjob
    obtain ⟨input, _, rfl⟩ := List.mem_map.mp hjob
    trivial
  · simp [start, List.filterMap_map, Stage.written?]

namespace Consistent

/-- What has been written was written where a file can be put. -/
theorem writable (h : Consistent vocabulary fs inputs st) :
    ∀ f ∈ st.jobs.filterMap (·.stage.written? fs), Writable fs.entries f.1 := by
  intro f hf
  obtain ⟨job, hjob, hwritten⟩ := List.mem_filterMap.mp hf
  exact (Stage.written?_eq_some (h.sound job hjob) hwritten).1

theorem input_mem (h : Consistent vocabulary fs inputs st) {job : Job} (hjob : job ∈ st.jobs) :
    job.input ∈ inputs := h.inputs_eq ▸ List.mem_map_of_mem hjob

/-- The journeys of different files go to different places. -/
theorem pairwise (h : Consistent vocabulary fs inputs st) (hapart : Apart fs inputs) :
    st.jobs.Pairwise fun a b => GoApart fs a.input b.input := by
  apply List.pairwise_map.mp
  rw [h.inputs_eq]
  exact hapart.fromOthers

/-- A file that has not been written yet does not see what has. -/
theorem agreeAlong (h : Consistent vocabulary fs inputs st) (hapart : Apart fs inputs) {job : Job}
    (hjob : job ∈ st.jobs) (hwritten : job.stage.written? fs = none) :
    AgreeAlong fs st.fs job.input ∧ AgreeAlong fs st.fs job.input.journey := by
  obtain ⟨log, hlog, hfs⟩ := h.files
  have hwritable : ∀ f ∈ log, Writable fs.entries f.1 := fun f hf => h.writable f (hlog.mem_iff.mp hf)
  have hother : ∀ f ∈ log, ∃ other ∈ st.jobs, other ≠ job ∧ f.1 ∈ fs.placeOf? other.input.journey := by
    intro f hf
    obtain ⟨other, hmem, hf⟩ := List.mem_filterMap.mp (hlog.mem_iff.mp hf)
    refine ⟨other, hmem, ?_, (Stage.written?_eq_some (h.sound other hmem) hf).2⟩
    rintro rfl
    rw [hwritten] at hf
    cases hf
  rw [hfs]
  refine ⟨agreeAlong_putAll hwritable fun f hf => ?_, agreeAlong_putAll hwritable fun f hf => ?_⟩
  · obtain ⟨other, hmem, _, hplace⟩ := hother f hf
    exact ⟨hapart.fromInputs _ (h.input_mem hmem) _ (h.input_mem hjob) _ hplace,
      (hapart.fromAbove _ (h.input_mem hmem) _ (h.input_mem hjob) _ hplace).1⟩
  · obtain ⟨other, hmem, hne, hplace⟩ := hother f hf
    refine ⟨?_, (hapart.fromAbove _ (h.input_mem hmem) _ (h.input_mem hjob) _ hplace).2⟩
    have : Std.Symm fun a b : Job => GoApart fs a.input b.input := ⟨fun a b hab => Std.Symm.symm _ _ hab⟩
    exact (h.pairwise hapart).forall hmem hjob hne f.1 hplace

end Consistent

/-- What has been written after a turn of a file that had not been written. -/
theorem written_set_perm {jobs : List Job} {i : Nat} {job : Job} (hjob : jobs[i]? = some job)
    (hwritten : job.stage.written? fs = none) (next : Job) :
    ((jobs.set i next).filterMap (·.stage.written? fs)).Perm
      (jobs.filterMap (·.stage.written? fs) ++ (next.stage.written? fs).toList) := by
  obtain ⟨hi, rfl⟩ := List.getElem?_eq_some_iff.mp hjob
  have hset := (List.set_perm_cons_eraseIdx hi next).filterMap (·.stage.written? fs)
  have hjobs := (List.getElem_cons_eraseIdx_perm hi).filterMap (·.stage.written? fs)
  rw [List.filterMap_cons, hwritten] at hjobs
  refine hset.trans (List.Perm.trans ?_ (hjobs.append_right _))
  cases hnext : next.stage.written? fs with
  | none => simp [hnext]
  | some f => simpa [hnext] using @List.perm_append_comm _ [f] _

theorem Stage.next_of_written {input : Path} {stage : Stage} {f : Location × List UInt8}
    (h : stage.written? fs = some f) (fs' : FileSystem) :
    stage.next vocabulary fs' input = (stage, fs') := by
  match stage, h with
  | .done (.ok report), _ => rfl

/-- One turn keeps a batch consistent. -/
theorem Consistent.advance (h : Consistent vocabulary fs inputs st) (hapart : Apart fs inputs) (i : Nat) :
    Consistent vocabulary fs inputs (advance vocabulary i st) := by
  cases hjob : st.jobs[i]? with
  | none => rwa [advance_of_none vocabulary hjob]
  | some job =>
    have hmem : job ∈ st.jobs := List.mem_of_getElem? hjob
    rw [advance_of_some vocabulary hjob]
    cases hwritten : job.stage.written? fs with
    | some f =>
      -- the file is done, so nothing happens
      obtain ⟨hi, rfl⟩ := List.getElem?_eq_some_iff.mp hjob
      rwa [Stage.next_of_written hwritten, List.set_getElem_self]
    | none =>
      obtain ⟨hinput, houtput⟩ := h.agreeAlong hapart hmem hwritten
      obtain ⟨hsound, hfs⟩ := Stage.next_sound (h.sound job hmem) hinput houtput hwritten
      obtain ⟨log, hlog, hst⟩ := h.files
      generalize job.stage.next vocabulary st.fs job.input = next at hsound hfs
      refine ⟨?_, ?_, log ++ (next.1.written? fs).toList, ?_, ?_⟩
      · have hget : (st.jobs.map (·.input))[i]? = some job.input := by rw [List.getElem?_map, hjob]; rfl
        obtain ⟨hi, hget⟩ := List.getElem?_eq_some_iff.mp hget
        simp only [List.map_set]
        rw [← hget, List.set_getElem_self, h.inputs_eq]
      · intro other hother
        rcases List.mem_or_eq_of_mem_set hother with hother | rfl
        · exact h.sound other hother
        · exact hsound
      · exact (hlog.append_right _).trans (written_set_perm hjob hwritten ⟨job.input, next.1⟩).symm
      · rw [hfs, hst, putAll, putAll, putAll, List.foldl_append]

/-- Turns keep a batch consistent. -/
theorem Consistent.execute (h : Consistent vocabulary fs inputs st) (hapart : Apart fs inputs)
    (schedule : List Nat) : Consistent vocabulary fs inputs (execute vocabulary schedule st) := by
  induction schedule generalizing st with
  | nil => exact h
  | cons i schedule ih => exact ih (h.advance hapart i)

end Runs

/-! ## Runs that come to an end -/

/-- How many turns a file needs to be done. -/
def Stage.turnsLeft : Stage → Nat
  | waiting => 3
  | prepared _ => 2
  | staged _ => 1
  | done _ => 0

theorem Stage.turnsLeft_next (vocabulary : Vocabulary) (fs : FileSystem) (input : Path) (stage : Stage) :
    (stage.next vocabulary fs input).1.turnsLeft ≤ stage.turnsLeft - 1 := by
  cases stage with
  | waiting =>
    simp only [Stage.next]
    split <;> simp [Stage.turnsLeft]
  | prepared report =>
    simp only [Stage.next]
    split <;> simp [Stage.turnsLeft]
  | staged report =>
    simp only [Stage.next]
    split <;> simp [Stage.turnsLeft]
  | done result => exact Nat.le_refl 0

/-- A file needs as many turns less as it has had. -/
theorem turnsLeft_execute (vocabulary : Vocabulary) (schedule : List Nat) {st : State} {i : Nat} {job : Job}
    (h : st.jobs[i]? = some job) :
    ∃ job', (execute vocabulary schedule st).jobs[i]? = some job' ∧
      job'.stage.turnsLeft ≤ job.stage.turnsLeft - schedule.count i := by
  induction schedule generalizing st job with
  | nil => exact ⟨job, h, Nat.le_refl _⟩
  | cons j schedule ih =>
    by_cases hij : j = i
    · subst hij
      have hnext : (advance vocabulary j st).jobs[j]? =
          some { job with stage := (job.stage.next vocabulary st.fs job.input).1 } := by
        rw [advance_of_some vocabulary h]
        obtain ⟨hj, _⟩ := List.getElem?_eq_some_iff.mp h
        simp [hj]
      obtain ⟨job', hjob', hleft⟩ := ih hnext
      refine ⟨job', hjob', ?_⟩
      have hturn := job.stage.turnsLeft_next vocabulary st.fs job.input
      rw [List.count_cons_self]
      simp only at hleft
      omega
    · have hsame : (advance vocabulary j st).jobs[i]? = some job := by
        cases hother : st.jobs[j]? with
        | none => rwa [advance_of_none vocabulary hother]
        | some other => rw [advance_of_some vocabulary hother, List.getElem?_set_ne hij, h]
      obtain ⟨job', hjob', hleft⟩ := ih hsame
      refine ⟨job', hjob', ?_⟩
      rwa [List.count_cons_of_ne hij]

theorem Stage.eq_done {stage : Stage} (h : stage.turnsLeft = 0) : ∃ result, stage = .done result := by
  cases stage with
  | waiting => cases h
  | prepared report => cases h
  | staged report => cases h
  | done result => exact ⟨result, rfl⟩

/-- A file that has been converted alone. -/
def convertedJob (vocabulary : Vocabulary) (fs : FileSystem) (input : Path) : Job :=
  ⟨input, .done (convertFile vocabulary fs input).1⟩

section Ends

variable {vocabulary : Vocabulary} {fs : FileSystem} {inputs : List Path} {st : State}

/-- The journeys that have been written went to different places. -/
theorem Consistent.nodup (h : Consistent vocabulary fs inputs st) (hapart : Apart fs inputs) :
    ((st.jobs.filterMap (·.stage.written? fs)).map (·.1)).Nodup := by
  rw [List.Nodup, List.pairwise_map, List.pairwise_filterMap]
  refine (h.pairwise hapart).imp_of_mem ?_
  intro a b ha hb hab f hf g hg heq
  have hplace := (Stage.written?_eq_some (h.sound a ha) hf).2
  have hplace' := (Stage.written?_eq_some (h.sound b hb) hg).2
  exact hab f.1 hplace (heq ▸ hplace')

/-- There is one state in which a consistent batch can end. -/
theorem Consistent.eq_of_done (h : Consistent vocabulary fs inputs st) (hapart : Apart fs inputs)
    (hdone : ∀ job ∈ st.jobs, job.stage.turnsLeft = 0) :
    st.jobs = inputs.map (convertedJob vocabulary fs) ∧
      st.fs = fs.putAll (st.jobs.filterMap (·.stage.written? fs)) := by
  constructor
  · have hconverted : ∀ job ∈ st.jobs, convertedJob vocabulary fs job.input = job := by
      intro job hjob
      obtain ⟨result, hresult⟩ := Stage.eq_done (hdone job hjob)
      have hsound := h.sound job hjob
      rw [hresult] at hsound
      rw [convertedJob, show (convertFile vocabulary fs job.input).1 = result from hsound, ← hresult]
    rw [← h.inputs_eq, List.map_map]
    exact ((List.map_congr_left hconverted).trans (List.map_id _)).symm
  · obtain ⟨log, hlog, hst⟩ := h.files
    rw [hst]
    exact (putAll_perm hlog.symm h.writable (h.nodup hapart)).symm

/-- Every file is done once it has had three turns. -/
theorem done_execute (hapart : Apart fs inputs) {schedule : List Nat}
    (hturns : ∀ i < inputs.length, 3 ≤ schedule.count i) :
    ∀ job ∈ (execute vocabulary schedule (start fs inputs)).jobs, job.stage.turnsLeft = 0 := by
  intro job hjob
  obtain ⟨i, hi, rfl⟩ := List.mem_iff_getElem.mp hjob
  have hinputs := ((consistent_start vocabulary fs inputs).execute hapart schedule).inputs_eq
  have hlength : i < inputs.length := by rwa [← hinputs, List.length_map]
  have hstart : (start fs inputs).jobs[i]? = some ⟨inputs[i], .waiting⟩ := by simp [start, hlength]
  obtain ⟨job, hjob, hleft⟩ := turnsLeft_execute vocabulary schedule hstart
  obtain rfl := Option.some.inj ((List.getElem?_eq_getElem hi).symm.trans hjob)
  have hcount := hturns i hlength
  have hleft : _ ≤ 3 - schedule.count i := hleft
  omega

end Ends

/-! ## One file after the other -/

/-- One more turn of a file that has just had one. -/
theorem advance_set (vocabulary : Vocabulary) {i : Nat} {jobs : List Job} (hi : i < jobs.length) (job : Job)
    (fs : FileSystem) :
    advance vocabulary i ⟨fs, jobs.set i job⟩ =
      ⟨(job.stage.next vocabulary fs job.input).2,
        jobs.set i ⟨job.input, (job.stage.next vocabulary fs job.input).1⟩⟩ := by
  rw [advance_of_some vocabulary (List.getElem?_set_self hi), List.set_set]

/-- Three turns in a row convert a file. -/
theorem advance_advance_advance (vocabulary : Vocabulary) {i : Nat} {st : State} {input : Path}
    (h : st.jobs[i]? = some ⟨input, .waiting⟩) :
    advance vocabulary i (advance vocabulary i (advance vocabulary i st)) =
      ⟨(convertFile vocabulary st.fs input).2, st.jobs.set i (convertedJob vocabulary st.fs input)⟩ := by
  obtain ⟨hi, _⟩ := List.getElem?_eq_some_iff.mp h
  rw [advance_of_some vocabulary h, advance_set vocabulary hi, advance_set vocabulary hi, Stage.next_next_next]
  rfl

/-- The schedule that gives each file three turns in a row, beginning with the one in some place. -/
def inTurn (first count : Nat) : List Nat := (List.range' first count).flatMap fun i => [i, i, i]

/-- Files that have three turns in a row each are converted one after the other. -/
theorem execute_inTurn (vocabulary : Vocabulary) (inputs : List Path) (fs : FileSystem) (jobs : List Job) :
    execute vocabulary (inTurn jobs.length inputs.length) ⟨fs, jobs ++ inputs.map (⟨·, .waiting⟩)⟩ =
      ⟨(convertFiles vocabulary fs inputs).2,
        jobs ++ List.zipWith (fun input result => ⟨input, .done result⟩) inputs
          (convertFiles vocabulary fs inputs).1⟩ := by
  induction inputs generalizing fs jobs with
  | nil => rfl
  | cons input inputs ih =>
    have hjob : (jobs ++ (input :: inputs).map fun p => (⟨p, .waiting⟩ : Job))[jobs.length]? =
        some ⟨input, .waiting⟩ := by simp
    have hlength : jobs.length + 1 = (jobs ++ [convertedJob vocabulary fs input]).length := by simp
    have hset : (jobs ++ (input :: inputs).map fun p => (⟨p, .waiting⟩ : Job)).set jobs.length
        (convertedJob vocabulary fs input) =
          (jobs ++ [convertedJob vocabulary fs input]) ++ inputs.map fun p => ⟨p, .waiting⟩ := by simp
    rw [List.length_cons, inTurn, List.range'_succ, List.flatMap_cons]
    show execute vocabulary (inTurn (jobs.length + 1) inputs.length) (advance vocabulary jobs.length _) = _
    rw [advance_advance_advance vocabulary hjob, hset, hlength, ih, List.append_assoc]
    rfl

theorem length_convertFiles (vocabulary : Vocabulary) (fs : FileSystem) (inputs : List Path) :
    (convertFiles vocabulary fs inputs).1.length = inputs.length := by
  induction inputs generalizing fs with
  | nil => rfl
  | cons input inputs ih =>
    show ((convertFile vocabulary fs input).1 :: _).length = _
    rw [List.length_cons, ih, List.length_cons]

/-- Converting the files of a batch that is apart one after the other gives each the result it has alone. -/
theorem convertFiles_eq (vocabulary : Vocabulary) {fs : FileSystem} {inputs : List Path} (hapart : Apart fs inputs) :
    convertFiles vocabulary fs inputs =
      (inputs.map fun input => (convertFile vocabulary fs input).1,
        fs.putAll ((inputs.map (convertedJob vocabulary fs)).filterMap (·.stage.written? fs))) := by
  have hrun := execute_inTurn vocabulary inputs fs []
  have hconsistent := (consistent_start vocabulary fs inputs).execute hapart (inTurn 0 inputs.length)
  rw [start] at hconsistent
  rw [List.length_nil, List.nil_append, List.nil_append] at hrun
  rw [hrun] at hconsistent
  have hlength := length_convertFiles vocabulary fs inputs
  obtain ⟨hjobs, hfs⟩ := hconsistent.eq_of_done hapart (by
    intro job hjob
    obtain ⟨i, hi, rfl⟩ := List.mem_iff_getElem.mp hjob
    rw [List.getElem_zipWith]
    rfl)
  simp only at hjobs hfs
  rw [hjobs] at hfs
  refine Prod.ext (List.ext_getElem (by simp [hlength]) ?_) hfs
  intro i hi hi'
  have hzip : i < (List.zipWith (fun input result => (⟨input, .done result⟩ : Job)) inputs
      (convertFiles vocabulary fs inputs).1).length := by simpa [hlength] using hi'
  simpa [convertedJob] using List.getElem_of_eq hjobs hzip

/-! ## All schedules -/

/-- Whatever the schedule, a batch that is apart comes to its end with the results that its files have alone, and
with the file system that converting them one after the other leaves: the journeys of the files that could be
converted stand in their places, and everywhere else stands what stood there before. -/
theorem execute_independent (vocabulary : Vocabulary) (fs : FileSystem) (inputs : List Path)
    (hapart : Apart fs inputs) (schedule : List Nat) (hturns : ∀ i < inputs.length, 3 ≤ schedule.count i) :
    let final := execute vocabulary schedule (start fs inputs)
    final.jobs = inputs.map (fun input => ⟨input, .done (convertFile vocabulary fs input).1⟩) ∧
      convertFiles vocabulary fs inputs = (inputs.map fun input => (convertFile vocabulary fs input).1, final.fs) ∧
      (∀ input ∈ inputs, ∀ report, (convertFile vocabulary fs input).1 = .ok report →
        ∃ loc ∈ fs.placeOf? input.journey,
          standingAt final.fs.entries loc = .file (Path.bytesOf report.code)) ∧
      ∀ loc, (∀ input ∈ inputs, ∀ report, (convertFile vocabulary fs input).1 = .ok report →
          loc ∉ fs.placeOf? input.journey) →
        standingAt final.fs.entries loc = standingAt fs.entries loc := by
  intro final
  have hconsistent : Consistent vocabulary fs inputs final :=
    (consistent_start vocabulary fs inputs).execute hapart schedule
  obtain ⟨hjobs, hfs⟩ := hconsistent.eq_of_done hapart (done_execute hapart hturns)
  refine ⟨hjobs, ?sequential, ?written, ?kept⟩
  case sequential =>
    rw [convertFiles_eq vocabulary hapart, hfs, hjobs]
  case written =>
    intro input hinput report hreport
    obtain ⟨houtput, loc, htarget⟩ := convertFile_eq_ok hreport
    refine ⟨loc, (target_eq_ok htarget).1, ?_⟩
    have hmem : (loc, Path.bytesOf report.code) ∈ final.jobs.filterMap (·.stage.written? fs) := by
      rw [hjobs]
      refine List.mem_filterMap.mpr ⟨_, List.mem_map_of_mem hinput, ?_⟩
      simp [convertedJob, Stage.written?, hreport, houtput, htarget, Except.toOption]
    rw [hfs]
    exact standingAt_putAll_of_mem hconsistent.writable (hconsistent.nodup hapart) hmem
  case kept =>
    intro loc hloc
    rw [hfs]
    refine standingAt_putAll hconsistent.writable ?_
    intro hmem
    obtain ⟨f, hf, rfl⟩ := List.mem_map.mp hmem
    obtain ⟨job, hjob, hwritten⟩ := List.mem_filterMap.mp hf
    have hplace := (Stage.written?_eq_some (hconsistent.sound job hjob) hwritten).2
    rw [hjobs] at hjob
    obtain ⟨input, hinput, rfl⟩ := List.mem_map.mp hjob
    cases hresult : (convertFile vocabulary fs input).1 with
    | error e => simp [convertedJob, Stage.written?, hresult] at hwritten
    | ok report => exact hloc input hinput report hresult hplace

/-- Two files that are converted and one that is missing, with turns mixed. -/
theorem execute_independent_mixed :
    let fs : FileSystem :=
      ⟨[.directory (Path.bytesOf "d") [.file (Path.bytesOf "b.test.ts") []], .file (Path.bytesOf "a.spec.ts") []], []⟩
    let inputs := [Path.ofString "a.spec.ts", Path.ofString "./d//b.test.ts", Path.ofString "d/c.spec.ts"]
    let final := execute {} [1, 0, 2, 1, 0, 2, 0, 1, 2] (start fs inputs)
    final.jobs = inputs.map (fun input => ⟨input, .done (convertFile {} fs input).1⟩) ∧
      convertFiles {} fs inputs = (inputs.map fun input => (convertFile {} fs input).1, final.fs) ∧
      (∀ input ∈ inputs, ∀ report, (convertFile {} fs input).1 = .ok report →
        ∃ loc ∈ fs.placeOf? input.journey,
          standingAt final.fs.entries loc = .file (Path.bytesOf report.code)) ∧
      ∀ loc, (∀ input ∈ inputs, ∀ report, (convertFile {} fs input).1 = .ok report →
          loc ∉ fs.placeOf? input.journey) →
        standingAt final.fs.entries loc = standingAt fs.entries loc := by
  intro fs inputs
  exact execute_independent {} fs inputs ⟨by decide +kernel, by decide +kernel, by decide +kernel⟩
    [1, 0, 2, 1, 0, 2, 0, 1, 2] (by decide)

end JourneyMigration.Batch
