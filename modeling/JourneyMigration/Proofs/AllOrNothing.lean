import JourneyMigration.Proofs.Interleavings
import JourneyMigration.Proofs.TemporaryFiles

/-!
# All or nothing — what a conversion leaves behind, whether it succeeds or fails.

A conversion that fails, at whatever point, leaves the file system as it was. One that succeeds puts the code of its
report where the path of the journey leads and changes nothing else, and the report is the one of the text that the
input held before. The law holds for conversions in one step and for conversions through a temporary file, whatever
goes wrong from outside.
-/

namespace JourneyMigration

open FileSystem

/-! ## Texts read back -/

namespace Path

theorem toList_loop_eq (b : ByteArray) (i : Nat) (r : List UInt8) :
    ByteArray.toList.loop b i r = r.reverse ++ b.data.toList.drop i := by
  fun_induction ByteArray.toList.loop b i r with
  | case1 i r hi ih =>
    have hi' : i < b.data.toList.length := hi
    have hget : b.get! i = b.data.toList[i] := getElem!_pos b.data i hi
    rw [ih, List.drop_eq_getElem_cons hi', List.reverse_cons, List.append_assoc, hget]
    rfl
  | case2 i r hi =>
    have hi' : b.data.toList.length ≤ i := Nat.not_lt.mp hi
    rw [List.drop_eq_nil_of_le hi', List.append_nil]

/-- The bytes of a text are read as the text. -/
theorem textOf?_bytesOf (s : String) : textOf? (bytesOf s) = some s := by
  have hlist : s.toUTF8.toList = s.toUTF8.data.toList := by
    rw [ByteArray.toList, toList_loop_eq]
    rfl
  have hbytes : (bytesOf s).toByteArray = s.toUTF8 := by
    apply ByteArray.ext
    rw [List.data_toByteArray, bytesOf, hlist]
  rw [textOf?, hbytes, String.fromUTF8?]
  exact dif_pos s.isValidUTF8

end Path

/-! ## The law -/

/-- What a run on a file system ends with: an answer and all of its effect, or a failure and none. -/
inductive AllOrNothing {α : Type} (fs : FileSystem) (Effect : α → FileSystem → Prop) :
    Except Failure α × FileSystem → Prop where
  | nothing (e : Failure) : AllOrNothing fs Effect (.error e, fs)
  | all {a : α} {after : FileSystem} (h : Effect a after) : AllOrNothing fs Effect (.ok a, after)

/-- A text was written to the place that a path leads to, and to no other. -/
structure FileSystem.Wrote (fs : FileSystem) (p : Path) (code : String) (after : FileSystem) (loc : Location) :
    Prop where
  leads : fs.locate p = .ok loc
  leadsAfter : after.locate p = .ok loc
  content : standingAt after.entries loc = .file (Path.bytesOf code)
  text : after.readText p = .ok code
  elsewhere : ∀ w, w ≠ loc → standingAt after.entries w = standingAt fs.entries w
  put : after = fs.put loc (Path.bytesOf code)

/-- The journey of a file was written: the report is that of the text which the file held, and its code stands where
the path of the journey leads. -/
structure Report.Delivered (vocabulary : Vocabulary) (fs : FileSystem) (input : Path) (report : Report)
    (after : FileSystem) : Prop where
  ofInput : report.input = input
  toJourney : report.output = input.journey
  converted : ∃ text, fs.readText input = .ok text ∧
    Converted.ofText vocabulary input.display text = .ok ⟨report.code, report.diagnostics⟩
  wrote : ∃ loc, fs.Wrote input.journey report.code after loc

/-! ## Writes -/

namespace FileSystem

variable {fs : FileSystem} {p : Path} {loc : Location}

/-- A walk leads to the same place if directories have stayed directories. -/
theorem walk_of_directories {es es' : List Entry}
    (h : ∀ w, standingAt es w = .directory → standingAt es' w = .directory) {loc w : Location} {cs : List Name}
    (hw : walk es loc cs = .ok w) : walk es' loc cs = .ok w := by
  induction cs generalizing loc with
  | nil => exact hw
  | cons c cs ih =>
    obtain ⟨hloc, next, hnext, hw⟩ := walk_cons_eq_ok.mp hw
    exact walk_cons_eq_ok.mpr ⟨h loc hloc, next, hnext, ih hw⟩

/-- A text put where a write goes is written. -/
theorem wrote_of_target (h : fs.target p = .ok loc) (code : String) :
    fs.Wrote p code (fs.put loc (Path.bytesOf code)) loc := by
  obtain ⟨_, hleads, _⟩ := destination_eq_ok (destination_of_target h)
  obtain ⟨_, hwritable⟩ := target_eq_ok h
  have hstanding := hwritable.standingAt_put (Path.bytesOf code)
  -- the file stands where no directory was
  have hdirectories : ∀ w, standingAt fs.entries w = .directory →
      standingAt (fs.put loc (Path.bytesOf code)).entries w = .directory := by
    intro w hw
    rw [hstanding, if_neg, hw]
    rintro rfl
    exact hwritable.notDirectory hw
  have hafter : (fs.put loc (Path.bytesOf code)).locate p = .ok loc := by
    rw [locate_eq] at hleads ⊢
    split at hleads
    · cases hleads
    · exact walk_of_directories hdirectories hleads
  have hcontent : standingAt (fs.put loc (Path.bytesOf code)).entries loc = .file (Path.bytesOf code) := by
    rw [hstanding, if_pos rfl]
  refine ⟨hleads, hafter, hcontent, ?_, fun w hw => ?_, rfl⟩
  · rw [readText_eq, hafter]
    simp only [Except.bind, hcontent, Standing.text, Path.textOf?_bytesOf]
  · rw [hstanding, if_neg hw]

theorem allOrNothing_attempt (fs : FileSystem) (p : Path) (code : String) :
    AllOrNothing fs (fun _ after => ∃ loc, fs.Wrote p code after loc) (fs.attempt p code) := by
  rw [attempt, write_eq]
  cases htarget : fs.target p with
  | error e => exact .nothing e
  | ok loc => exact .all ⟨loc, wrote_of_target htarget code⟩

end FileSystem

/-- A write through a temporary file is all or nothing, whatever goes wrong. -/
theorem Circumstances.allOrNothing_write (c : Circumstances) (fs : FileSystem) (p : Path) (code : String) :
    AllOrNothing fs (fun _ after => ∃ loc, fs.Wrote p code after loc) (c.write fs p code) := by
  rcases c.write_cases fs p code with ⟨e, h⟩ | h
  · rw [h]
    exact .nothing e
  · rw [h]
    exact fs.allOrNothing_attempt p code

/-! ## Conversions -/

/-- Convert a file with a way to write. -/
def Batch.convertBy (write : Path → String → Except Failure Unit × FileSystem) (vocabulary : Vocabulary)
    (fs : FileSystem) (input : Path) : Except Failure Report × FileSystem :=
  match prepare vocabulary fs input with
  | .error e => (.error e, fs)
  | .ok report =>
    let (result, after) := write report.output report.code
    (result.map fun _ => report, after)

/-- Convert a file through a temporary file. -/
def Circumstances.convertFile (c : Circumstances) (vocabulary : Vocabulary) (fs : FileSystem) (input : Path) :
    Except Failure Report × FileSystem :=
  match c.reading with
  | some fault => (.error (.badFile input fault), fs)
  | none => Batch.convertBy (c.write fs) vocabulary fs input

namespace Batch

variable {vocabulary : Vocabulary} {fs : FileSystem} {input : Path} {report : Report}

theorem convertFile_eq_convertBy (vocabulary : Vocabulary) (fs : FileSystem) (input : Path) :
    convertFile vocabulary fs input = convertBy fs.attempt vocabulary fs input := by
  rw [convertFile, convertBy]
  cases prepare vocabulary fs input with
  | error e => rfl
  | ok report =>
    simp only [deliver, attempt]
    cases fs.write report.output report.code <;> rfl

/-- A report is prepared from what the text of the file converts to. -/
theorem prepare_eq_ok_iff : prepare vocabulary fs input = .ok report ↔
    ∃ text c, fs.readText input = .ok text ∧ Converted.ofText vocabulary input.display text = .ok c ∧
      report = ⟨input, input.journey, c.code, c.diagnostics⟩ := by
  rw [prepare]
  cases fs.readText input with
  | error fault => simp
  | ok text =>
    cases hc : Converted.ofText vocabulary input.display text with
    | error fault => simp [hc]
    | ok c => simp [hc, eq_comm]

/-- A conversion is all or nothing if its way to write is. -/
theorem allOrNothing_convertBy {write : Path → String → Except Failure Unit × FileSystem}
    (h : ∀ p code, AllOrNothing fs (fun _ after => ∃ loc, fs.Wrote p code after loc) (write p code))
    (vocabulary : Vocabulary) (input : Path) :
    AllOrNothing fs (Report.Delivered vocabulary fs input) (convertBy write vocabulary fs input) := by
  rw [convertBy]
  cases hprepare : prepare vocabulary fs input with
  | error e => exact .nothing e
  | ok report =>
    obtain ⟨text, c, htext, hc, rfl⟩ := prepare_eq_ok_iff.mp hprepare
    cases hwrite : write input.journey c.code with
    | mk result after =>
      have hlaw := h input.journey c.code
      rw [hwrite] at hlaw
      simp only [hwrite]
      cases hlaw with
      | nothing e => exact .nothing e
      | all hwrote => exact .all ⟨rfl, rfl, ⟨text, htext, hc⟩, hwrote⟩

/-- A conversion succeeds if the file can be read and converted and its journey has a place. -/
theorem convertFile_succeeds_iff : (∃ report after, convertFile vocabulary fs input = (.ok report, after)) ↔
    ∃ text c loc, fs.readText input = .ok text ∧ Converted.ofText vocabulary input.display text = .ok c ∧
      fs.target input.journey = .ok loc := by
  constructor
  · rintro ⟨report, after, h⟩
    have hresult : (convertFile vocabulary fs input).1 = .ok report := by rw [h]
    obtain ⟨_, loc, htarget⟩ := convertFile_eq_ok hresult
    rw [convertFile] at h
    split at h
    · cases h
    · next prepared hprepare =>
      obtain ⟨text, c, htext, hc, _⟩ := prepare_eq_ok_iff.mp hprepare
      exact ⟨text, c, loc, htext, hc, htarget⟩
  · rintro ⟨text, c, loc, htext, hc, htarget⟩
    have hprepare := prepare_eq_ok_iff.mpr ⟨text, c, htext, hc, rfl⟩
    rw [convertFile, hprepare]
    simp only [deliver, write_eq, htarget, Except.map]
    exact ⟨_, _, rfl⟩

end Batch

theorem Circumstances.allOrNothing_convertFile (c : Circumstances) (vocabulary : Vocabulary) (fs : FileSystem)
    (input : Path) :
    AllOrNothing fs (Report.Delivered vocabulary fs input) (c.convertFile vocabulary fs input) := by
  rw [convertFile]
  cases c.reading with
  | some fault => exact .nothing _
  | none => exact Batch.allOrNothing_convertBy (c.allOrNothing_write fs) vocabulary input

/-- If nothing goes wrong from outside, a conversion through a temporary file is the one in one step. -/
theorem Circumstances.Calm.convertFile_eq {c : Circumstances} {fs : FileSystem} {input : Path}
    (h : c.Calm fs input.journey) (vocabulary : Vocabulary) :
    c.convertFile vocabulary fs input = Batch.convertFile vocabulary fs input := by
  rw [Batch.convertFile_eq_convertBy, convertFile, h.reading]
  simp only [Batch.convertBy]
  cases hprepare : Batch.prepare vocabulary fs input with
  | error e => rfl
  | ok report =>
    obtain ⟨_, _, _, _, rfl⟩ := Batch.prepare_eq_ok_iff.mp hprepare
    simp only [h.write_eq]

/-- Converting a file is all or nothing, and so is writing a text: in one step, and in single steps through a
temporary file whatever goes wrong from outside. -/
theorem conversion_all_or_nothing (vocabulary : Vocabulary) (fs : FileSystem) (input : Path) :
    AllOrNothing fs (Report.Delivered vocabulary fs input) (Batch.convertFile vocabulary fs input) ∧
      ((∃ report after, Batch.convertFile vocabulary fs input = (.ok report, after)) ↔
        ∃ text c loc, fs.readText input = .ok text ∧ Converted.ofText vocabulary input.display text = .ok c ∧
          fs.target input.journey = .ok loc) ∧
      (∀ p code, AllOrNothing fs (fun _ after => ∃ loc, fs.Wrote p code after loc) (fs.attempt p code)) ∧
      ∀ c : Circumstances,
        AllOrNothing fs (Report.Delivered vocabulary fs input) (c.convertFile vocabulary fs input) ∧
        (∀ p code, AllOrNothing fs (fun _ after => ∃ loc, fs.Wrote p code after loc) (c.write fs p code)) ∧
        (c.Calm fs input.journey → c.convertFile vocabulary fs input = Batch.convertFile vocabulary fs input) ∧
        ∀ p code, c.Calm fs p → c.write fs p code = fs.attempt p code := by
  refine ⟨?_, Batch.convertFile_succeeds_iff, fs.allOrNothing_attempt, fun c => ⟨?_, ?_, ?_, ?_⟩⟩
  · rw [Batch.convertFile_eq_convertBy]
    exact Batch.allOrNothing_convertBy fs.allOrNothing_attempt vocabulary input
  · exact c.allOrNothing_convertFile vocabulary fs input
  · exact c.allOrNothing_write fs
  · exact fun h => h.convertFile_eq vocabulary
  · exact fun p code h => h.write_eq code

/-- A file that is converted, with a first name for the temporary file that is taken. -/
theorem conversion_all_or_nothing_lone :
    let fs : FileSystem := ⟨[.file (Path.bytesOf "a.test.js") (Path.bytesOf "foo();")], []⟩
    let input := Path.ofString "a.test.js"
    let c : Circumstances := ⟨[Path.bytesOf "a.test.js", Path.bytesOf ".tmp"], none, none, none, none⟩
    c.Calm fs input.journey ∧ c.convertFile {} fs input = Batch.convertFile {} fs input ∧
      ∃ report after, Batch.convertFile {} fs input = (.ok report, after) := by
  intro fs input c
  have hlocate : fs.locate (directoryOf input.journey) = .ok [] := by decide +kernel
  have hcalm : c.Calm fs input.journey := by
    refine ⟨rfl, rfl, rfl, rfl, fun dir hdir => ?_⟩
    obtain rfl : [] = dir := Except.ok.inj (hlocate.symm.trans hdir)
    exact ⟨Path.bytesOf ".tmp", by decide +kernel, by decide +kernel⟩
  obtain ⟨_, hsucceeds, _, h⟩ := conversion_all_or_nothing {} fs input
  -- the whole file is read, converted and printed here
  refine ⟨hcalm, (h c).2.2.1 hcalm, hsucceeds.mpr ?_⟩
  exact ⟨"foo();", ⟨"foo();\n", []⟩, [Path.bytesOf "a.journey.js"], by decide +kernel, by decide +kernel,
    by decide +kernel⟩

end JourneyMigration
