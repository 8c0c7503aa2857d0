import JourneyMigration.Proofs.SearchResults
import JourneyMigration.Proofs.TestFileNames

/-!
# Discovered files — what a search for test files returns, and where the journeys of these files go.

In a tidy directory tree, whose names are names that files can have and differ among siblings, a search returns each
file once: its path has the names of the root and then those of its location. A journey stands in the directory of
its test file. So a journey takes the place of another one, or of a test file, exactly if the names of two test files
of one directory say so. It takes the place of its own test file only if the name of that is no text
(`journey_is_input_iff`).
-/

namespace JourneyMigration

open JourneyMigration.Path (IsFileName isIdle slash dot)

/-! ## Tidy trees -/

/-- Whether bytes can be the name of a file. -/
def Path.isFileName (name : Name) : Bool := !name.contains slash && !isIdle name && name != [dot, dot]

theorem Path.isFileName_iff {name : Name} : Path.isFileName name = true ↔ IsFileName name := by
  simp only [Path.isFileName, Bool.and_eq_true, Bool.not_eq_true', bne_iff_ne]
  constructor
  · rintro ⟨⟨hslash, hidle⟩, hup⟩
    exact ⟨by simpa using hslash, hidle, hup⟩
  · intro h
    exact ⟨⟨by simpa using h.noSlash, h.notIdle⟩, h.notUp⟩

/-- Whether all names of entries and below them are names that files can have, and those of siblings differ. -/
def FileSystem.areTidy (es : List Entry) : Bool := areOrderly Path.isFileName es

namespace FileSystem

theorem areTidy_of_entryNamed? {es inner : List Entry} {name n : Name} (h : areTidy es = true)
    (hnamed : entryNamed? name es = some (.directory n inner)) : areTidy inner = true :=
  areOrderly_of_directory (isOrderly_of_mem h (List.mem_of_find?_eq_some hnamed))

/-- What is below a directory of a tidy tree is tidy. -/
theorem areTidy_of_entryAt? {es inner : List Entry} {loc : Location} {n : Name} (h : areTidy es = true)
    (hat : entryAt? es loc = some (.directory n inner)) : areTidy inner = true := by
  fun_induction entryAt? es loc with
  | case1 => cases hat
  | case2 es name => exact areTidy_of_entryNamed? h hat
  | case3 es name rest _ m inner' hinner ih => exact ih (areTidy_of_entryNamed? h hinner) hat
  | case4 => cases hat

/-- The entries of a directory of a tidy file system are tidy, and a path that leads to a directory has a byte. -/
theorem directory_of_areTidy {fs : FileSystem} {p : Path} {es : List Entry} (h : areTidy fs.entries = true)
    (hdirectory : fs.directory p = .ok es) : areTidy es = true ∧ p.bytes ≠ [] := by
  rw [directory] at hdirectory
  cases hloc : fs.locate p with
  | error fault =>
    rw [hloc] at hdirectory
    cases hdirectory
  | ok loc =>
    rw [hloc] at hdirectory
    refine ⟨?_, ?_⟩
    · simp only [bind, Except.bind] at hdirectory
      split at hdirectory
      · cases hdirectory
      · split at hdirectory <;> obtain rfl := Except.ok.inj hdirectory
        · exact h
        · rcases hat : entryAt? fs.entries loc with _ | ⟨n, content⟩ | ⟨n, inner⟩
          · rfl
          · rfl
          · exact areTidy_of_entryAt? h hat
    · intro hbytes
      simp [locate, spellingFault?, hbytes] at hloc

end FileSystem

/-! ## Paths of journeys -/

namespace Path

/-- Two paths that say the same, however they are spelled. -/
def SameFile (p q : Path) : Prop := p.isAbsolute = q.isAbsolute ∧ p.names = q.names

instance : DecidableRel SameFile := fun _ _ => inferInstanceAs (Decidable (_ ∧ _))

/-- Two files of one directory whose names clash: their journeys have one name. -/
def NamesClash (f g : Path) : Prop :=
  f.parent.names = g.parent.names ∧ ∃ n ∈ f.fileName?, ∃ m ∈ g.fileName?, OutputName.Clash n m

/-- Two files of one directory of which the second is named as the first with `journey` in the place of its first
word. -/
def NamesJourney (f g : Path) : Prop :=
  f.parent.names = g.parent.names ∧ ∃ n ∈ f.fileName?, (textOf? n).isSome = true ∧
    ∃ a w b, OutputName.FirstWord n a w b ∧ g.fileName? = some (a ++ (OutputName.journeyWord ++ b))

section

variable {f g : Path} {n m : List UInt8} (hf : f.fileName? = some n) (hg : g.fileName? = some m)
  (hstart : f.isAbsolute = g.isAbsolute)

include hf hg hstart

theorem sameFile_iff : SameFile f g ↔ f.parent.names = g.parent.names ∧ n = m := by
  rw [SameFile, names_of_fileName? hf, names_of_fileName? hg, List.append_singleton_inj]
  exact and_iff_right hstart

theorem sameFile_journey_iff :
    SameFile f.journey g.journey ↔ f.parent.names = g.parent.names ∧ journeyName n = journeyName m := by
  obtain ⟨hnames, hstartf⟩ := names_journey hf
  obtain ⟨hnames', hstartg⟩ := names_journey hg
  rw [SameFile, hnames, hnames', hstartf, hstartg, List.append_singleton_inj]
  exact and_iff_right hstart

theorem sameFile_journey_left_iff :
    SameFile f.journey g ↔ f.parent.names = g.parent.names ∧ journeyName n = m := by
  obtain ⟨hnames, hstartf⟩ := names_journey hf
  rw [SameFile, hnames, names_of_fileName? hg, hstartf, List.append_singleton_inj]
  exact and_iff_right hstart

end

/-- The journey of a file is that file itself exactly if its name is no text and has the extension of a journey. -/
theorem journey_is_input_iff (p : Path) (name : List UInt8) (hname : p.fileName? = some name) :
    SameFile p.journey p ↔ (textOf? name).isSome = false ∧ p.extension? = some OutputName.journeyWord := by
  rw [sameFile_journey_left_iff hname hname rfl, and_iff_right rfl, journeyName_eq_self_iff, extension?, hname,
    Option.bind_some]

/-- A name that is text gets another one, also if it has the extension of a journey. -/
theorem journey_is_input_iff_text :
    let p := ofString "flows//login.journey/"
    p.fileName? = some (bytesOf "login.journey") ∧ p.extension? = some OutputName.journeyWord ∧
      p.journey = ofString "flows/login.journey.journey" ∧ ¬SameFile p.journey p := by
  have hname : (ofString "flows//login.journey/").fileName? = some (bytesOf "login.journey") := by decide +kernel
  refine ⟨hname, by decide +kernel, by decide +kernel, fun hsame => ?_⟩
  exact absurd ((journey_is_input_iff _ _ hname).mp hsame).1 (by decide +kernel)

/-- The one byte of the stem is no text, and the journey would be written over the file. -/
theorem journey_is_input :
    let p : Path := ⟨255 :: dot :: OutputName.journeyWord⟩
    p.fileName? = some p.bytes ∧ p.journey = p := by
  decide +kernel

end Path

namespace Discovery

open JourneyMigration.Path (SameFile NamesClash NamesJourney)

/-- A test file as a search below a root returns it. -/
structure IsTestFile (root f : Path) : Prop where
  named : ∃ name front kind ext, f.fileName? = some name ∧ OutputName.TestName name front kind ext
  start : f.isAbsolute = root.isAbsolute

section

variable {root f g : Path} (hf : IsTestFile root f) (hg : IsTestFile root g)

include hf hg

/-- Journeys of two test files are one file if the test files are, or if their names clash. -/
theorem IsTestFile.sameFile_journey_iff : SameFile f.journey g.journey ↔ SameFile f g ∨ NamesClash f g := by
  obtain ⟨n, _, _, _, hn, htest⟩ := hf.named
  obtain ⟨m, _, _, _, hm, htest'⟩ := hg.named
  have hstart := hf.start.trans hg.start.symm
  rw [Path.sameFile_journey_iff hn hm hstart, Path.sameFile_iff hn hm hstart,
    OutputName.journeyName_eq_iff htest htest', and_or_left]
  simp [NamesClash, hn, hm]

/-- The journey of a test file is another test file if that has the name that says so. -/
theorem IsTestFile.sameFile_journey_left_iff : SameFile f.journey g ↔ NamesJourney f g := by
  obtain ⟨n, _, _, _, hn, htest⟩ := hf.named
  obtain ⟨m, _, _, _, hm, htest'⟩ := hg.named
  rw [Path.sameFile_journey_left_iff hn hm (hf.start.trans hg.start.symm),
    OutputName.journeyName_eq_name_iff htest htest']
  simp [NamesJourney, hn, hm]

end

/-! ## Searches -/

theorem names_below (root : Path) {loc : Location} (h : ∀ n ∈ loc, IsFileName n) :
    (below root loc).names = root.names ++ loc := by
  rw [below, Path.names_join, Path.namesOf_joinSlashes h]

/-- What the usual pattern admits below a root is a test file there. -/
theorem isTestFile_below {test : String → Bool} (htest : Pattern.test? defaultPattern = some test) {root : Path}
    (hroot : root.bytes ≠ []) {loc : Location} (hne : loc ≠ []) (hnames : ∀ n ∈ loc, IsFileName n)
    (hadmits : admittedBy test loc = true) : IsTestFile root (below root loc) := by
  refine ⟨?_, Path.isAbsolute_join hroot _⟩
  rcases List.eq_nil_or_concat loc with hnil | ⟨dir, last, hlast⟩
  · exact absurd hnil hne
  · rw [List.concat_eq_append] at hlast
    rw [hlast] at hnames hadmits ⊢
    obtain ⟨front, kind, ext, htest⟩ := exists_testName htest hadmits
    refine ⟨last, front, kind, ext, ?_, htest⟩
    have hbelow := names_below root hnames
    rw [← List.append_assoc] at hbelow
    exact (Path.fileName?_of_names hbelow (hnames last (by simp))).1

/-- Results that are in order stay where they are. -/
theorem inOrder_of_pairwise {results : List (Name × List Location)}
    (h : results.Pairwise fun a b => FileSystem.nameLe a.1 b.1 = true) : inOrder results = results.flatMap (·.2) := by
  rw [inOrder, List.mergeSort_of_pairwise h]

/-- What the usual pattern says of texts. -/
def usualTest : String → Bool := (Pattern.test? defaultPattern).get (by decide +kernel)

/-- A search by the usual pattern that begins at the root directory takes all entries. -/
theorem testFiles_of_locate {fs : FileSystem} {root : Path} (h : fs.locate root = .ok []) :
    testFiles fs root none = .ok ((inOrder (filesAmong (admittedBy usualTest) [] fs.entries)).map (below root)) := by
  have hroot : fs.isFile root = false := by simp [FileSystem.isFile, h, FileSystem.entryAt?]
  refine (testFilesBy_eq_ok hroot).mpr ⟨usualTest, fs.entries, (Option.some_get _).symm, ?_, rfl⟩
  rw [FileSystem.directory, h]
  rfl

/-- A search by the usual pattern returns test files, each once. -/
theorem testFiles_spec {fs : FileSystem} {root : Path} {files : List Path}
    (htidy : FileSystem.areTidy fs.entries = true) (hroot : fs.isFile root = false)
    (h : testFiles fs root none = .ok files) :
    (∀ f ∈ files, IsTestFile root f) ∧ files.Pairwise fun f g => ¬SameFile f g := by
  obtain ⟨test, es, htest, hes, rfl⟩ := (testFilesBy_eq_ok hroot).mp h
  obtain ⟨htidy', hbytes⟩ := FileSystem.directory_of_areTidy htidy hes
  obtain ⟨hmem, hsorted⟩ := inOrder_filesAmong (admittedBy test) htidy'
  have hnames : ∀ loc ∈ inOrder (filesAmong (admittedBy test) [] es), ∀ n ∈ loc, IsFileName n := by
    intro loc hloc n hn
    exact Path.isFileName_iff.mp (FileSystem.allows_of_hasFile htidy' ((hmem loc).mp hloc).file n hn)
  refine ⟨?_, List.pairwise_map.mpr (hsorted.imp_of_mem ?_)⟩
  · intro f hf
    obtain ⟨loc, hloc, rfl⟩ := List.mem_map.mp hf
    have hresult := (hmem loc).mp hloc
    exact isTestFile_below htest hbytes hresult.ne_nil (hnames loc hloc) hresult.admitted
  · rintro loc loc' hloc hloc' hlt ⟨_, hsame⟩
    rw [names_below root (hnames loc hloc), names_below root (hnames loc' hloc')] at hsame
    obtain rfl := List.append_cancel_left hsame
    exact List.lt_irrefl loc hlt

/-- The journeys of the test files below a directory are different files, and none of them is one of the test files,
exactly if no two names of one directory clash and none is another with `journey` in the place of its first word. -/
theorem journeys_distinct_iff (fs : FileSystem) (root : Path) (files : List Path)
    (htidy : FileSystem.areTidy fs.entries = true) (hroot : fs.isFile root = false)
    (h : testFiles fs root none = .ok files) :
    (files.Pairwise (fun f g => ¬SameFile f.journey g.journey) ∧ ∀ f ∈ files, ∀ g ∈ files, ¬SameFile f.journey g) ↔
      files.Pairwise (fun f g => ¬NamesClash f g) ∧ ∀ f ∈ files, ∀ g ∈ files, ¬NamesJourney f g := by
  obtain ⟨htest, honce⟩ := testFiles_spec htidy hroot h
  refine and_congr ⟨fun hpair => ?_, fun hpair => ?_⟩ ?_
  · refine hpair.imp_of_mem ?_
    intro f g hf hg hne hclash
    exact hne (((htest f hf).sameFile_journey_iff (htest g hg)).mpr (.inr hclash))
  · refine (honce.and hpair).imp_of_mem ?_
    intro f g hf hg hne hsame
    exact (((htest f hf).sameFile_journey_iff (htest g hg)).mp hsame).elim hne.1 hne.2
  · refine forall₂_congr fun f hf => forall₂_congr fun g hg => not_congr ?_
    exact (htest f hf).sameFile_journey_left_iff (htest g hg)

/-- Two files with clashing names in different directories. -/
theorem journeys_distinct_iff_directories :
    let fs : FileSystem :=
      ⟨[.file (Path.bytesOf "a.test.ts") [],
        .directory (Path.bytesOf "d") [.file (Path.bytesOf "a.spec.ts") [], .file (Path.bytesOf "readme.md") []]], []⟩
    let files := [Path.ofString "./a.test.ts", Path.ofString "./d/a.spec.ts"]
    testFiles fs (Path.ofString ".") none = .ok files ∧
      files.Pairwise (fun f g => ¬NamesClash f g) ∧ ∀ f ∈ files, ∀ g ∈ files, ¬NamesJourney f g := by
  intro fs files
  have hfound : testFiles fs (Path.ofString ".") none = .ok files := by
    rw [testFiles_of_locate (by decide +kernel), inOrder_of_pairwise (by decide +kernel)]
    simp only [fs, filesAmong, filesIn]
    rw [inOrder_of_pairwise (by decide +kernel)]
    decide +kernel
  refine ⟨hfound, ?_⟩
  refine (journeys_distinct_iff fs _ files (by decide +kernel) (by decide +kernel) hfound).mp ⟨?_, ?_⟩
  · decide +kernel
  · decide +kernel

/-- Two test files of one directory that have one journey, and a test file that is the journey of another. -/
theorem journeys_not_distinct :
    let fs : FileSystem :=
      ⟨[.file (Path.bytesOf "a.spec.ts") [], .file (Path.bytesOf "a.test.ts") [],
        .file (Path.bytesOf "journey.spec.ts") [], .file (Path.bytesOf "test.spec.ts") []], []⟩
    FileSystem.areTidy fs.entries = true ∧
      testFiles fs (Path.ofString ".") none =
        .ok [Path.ofString "./a.spec.ts", Path.ofString "./a.test.ts", Path.ofString "./journey.spec.ts",
          Path.ofString "./test.spec.ts"] ∧
      (Path.ofString "./a.spec.ts").journey = (Path.ofString "./a.test.ts").journey ∧
      (Path.ofString "./test.spec.ts").journey = Path.ofString "./journey.spec.ts" := by
  intro fs
  refine ⟨by decide +kernel, ?_, by decide +kernel, by decide +kernel⟩
  rw [testFiles_of_locate (by decide +kernel), inOrder_of_pairwise (by decide +kernel)]
  decide +kernel

end Discovery

end JourneyMigration
