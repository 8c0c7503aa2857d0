import JourneyMigration.Files.Discovery
import JourneyMigration.Proofs.Updates

/-!
# Search results — which files a search returns, and in which order.

A search goes down a tree and puts the results of siblings in order. What it finds is compared with what stands at the
locations of the tree: a location is found exactly if a file stands there, the pattern admits it and no directory on the
way down is left out. Siblings have different names and every result below one of them begins with its name, so putting
siblings in order puts all results in order, name by name. What a pattern admits is left open: the results are described
for every way to read patterns. Main result: `testFiles_exact`.
-/

namespace JourneyMigration

open JourneyMigration.Path (slash)

/-! ## Siblings of different names -/

mutual

/-- Whether siblings have different names everywhere below an entry, and all names, its own included, are allowed. -/
def Entry.isOrderly (allows : Name → Bool) : Entry → Bool
  | .file name _ => allows name
  | .directory name es => allows name && FileSystem.areOrderly allows es

/-- The same for several entries of one directory, which are siblings. -/
def FileSystem.areOrderly (allows : Name → Bool) : List Entry → Bool
  | [] => true
  | e :: es => e.isOrderly allows && es.all (fun d => d.name != e.name) && FileSystem.areOrderly allows es

end

/-- Whether siblings have different names, among entries and everywhere below them. -/
def FileSystem.areDistinct (es : List Entry) : Bool := areOrderly (fun _ => true) es

namespace FileSystem

variable {allows : Name → Bool}

theorem areOrderly_cons {e : Entry} {es : List Entry} :
    areOrderly allows (e :: es) = true ↔
      e.isOrderly allows = true ∧ (∀ d ∈ es, d.name ≠ e.name) ∧ areOrderly allows es = true := by
  simp [areOrderly, and_assoc]

theorem isOrderly_of_mem {es : List Entry} (h : areOrderly allows es = true) {e : Entry} (he : e ∈ es) :
    e.isOrderly allows = true := by
  induction es with
  | nil => cases he
  | cons d es ih =>
    obtain ⟨hd, _, hes⟩ := areOrderly_cons.mp h
    rcases List.mem_cons.mp he with rfl | he
    · exact hd
    · exact ih hes he

theorem allows_of_isOrderly {e : Entry} (h : e.isOrderly allows = true) : allows e.name = true := by
  cases e with
  | file name content => exact h
  | directory name es =>
    rw [Entry.isOrderly, Bool.and_eq_true] at h
    exact h.1

theorem areOrderly_of_directory {name : Name} {es : List Entry}
    (h : (Entry.directory name es).isOrderly allows = true) : areOrderly allows es = true := by
  rw [Entry.isOrderly, Bool.and_eq_true] at h
  exact h.2

theorem nodup_names {es : List Entry} (h : areOrderly allows es = true) : (es.map Entry.name).Nodup := by
  induction es with
  | nil => exact List.nodup_nil
  | cons e es ih =>
    obtain ⟨_, hnames, hes⟩ := areOrderly_cons.mp h
    rw [List.map_cons, List.nodup_cons]
    refine ⟨?_, ih hes⟩
    intro hmem
    obtain ⟨d, hd, hname⟩ := List.mem_map.mp hmem
    exact hnames d hd hname

/-! ## Files at locations -/

/-- Whether a file stands at a location below entries. -/
def HasFile (es : List Entry) (loc : Location) : Prop := ∃ content, standingAt es loc = .file content

theorem not_hasFile_nil_entries (loc : Location) : ¬HasFile [] loc := by
  rintro ⟨content, h⟩
  cases loc with
  | nil => cases h
  | cons name loc =>
    rw [standingAt_cons] at h
    cases h

theorem not_hasFile_nil (es : List Entry) : ¬HasFile es [] := by
  rintro ⟨content, h⟩
  cases h

/-- A file alone is where its name says. -/
theorem hasFile_file {name : Name} {content : List UInt8} {loc : Location} :
    HasFile [.file name content] loc ↔ loc = [name] := by
  cases loc with
  | nil => simp [not_hasFile_nil]
  | cons n loc =>
    rw [HasFile, standingAt_cons]
    by_cases hname : name = n
    · by_cases hloc : loc = [] <;> simp [entryNamed?, Entry.name, hname, hloc]
    · simp [entryNamed?, Entry.name, hname, Ne.symm hname]

/-- The files of a directory are behind its name. -/
theorem hasFile_directory {name : Name} {es : List Entry} {loc : Location} :
    HasFile [.directory name es] loc ↔ ∃ rest, loc = name :: rest ∧ HasFile es rest := by
  cases loc with
  | nil => simp [not_hasFile_nil]
  | cons n loc =>
    rw [HasFile, standingAt_cons]
    by_cases hname : name = n
    · simp [entryNamed?, Entry.name, hname, HasFile]
    · simp [entryNamed?, Entry.name, hname, Ne.symm hname]

/-- Entries of different names do not hide one another. -/
theorem hasFile_cons {e : Entry} {es : List Entry} (h : ∀ d ∈ es, d.name ≠ e.name) {loc : Location} :
    HasFile (e :: es) loc ↔ HasFile [e] loc ∨ HasFile es loc := by
  cases loc with
  | nil => simp [not_hasFile_nil]
  | cons n loc =>
    simp only [HasFile, standingAt_cons, entryNamed?, List.find?_cons]
    by_cases hname : e.name = n
    · have hnone : es.find? (fun d => d.name == n) = none := by
        rw [List.find?_eq_none]
        intro d hd
        simpa [← hname] using h d hd
      simp [hname, hnone]
    · have hne : (e.name == n) = false := by simpa using hname
      simp [hne]

/-- The names on the way down to a file are names of entries. -/
theorem allows_of_hasFile {es : List Entry} {loc : Location} (h : areOrderly allows es = true)
    (hfile : HasFile es loc) : ∀ n ∈ loc, allows n = true := by
  induction loc generalizing es with
  | nil => nofun
  | cons name loc ih =>
    obtain ⟨content, hstands⟩ := hfile
    rw [standingAt_cons] at hstands
    cases hentry : entryNamed? name es with
    | none =>
      rw [hentry] at hstands
      cases hstands
    | some e =>
      have horderly := isOrderly_of_mem h (List.mem_of_find?_eq_some hentry)
      have hname : e.name = name := by simpa using List.find?_some hentry
      refine List.forall_mem_cons.mpr ⟨hname ▸ allows_of_isOrderly horderly, ?_⟩
      rw [hentry] at hstands
      cases e with
      | file n content' =>
        -- a file is the end of the way
        dsimp only at hstands
        split at hstands
        · next hloc => simp [hloc]
        · cases hstands
      | directory n inner => exact ih (areOrderly_of_directory horderly) ⟨content, hstands⟩

end FileSystem

namespace Discovery

open JourneyMigration.FileSystem (HasFile areOrderly areDistinct)

/-! ## What is found -/

theorem inOrder_perm (results : List (Name × List Location)) :
    (inOrder results).Perm (results.flatMap (·.2)) :=
  (List.mergeSort_perm results _).flatMap_right _

/-- A location below entries that a search returns: a file stands there that is admitted, and no directory on the way
down to it is left out. -/
structure IsResult (admits : Location → Bool) (es : List Entry) (loc : Location) : Prop where
  file : HasFile es loc
  admitted : admits loc = true
  searched : ∀ d ∈ loc.dropLast, isLeftOut d = false

variable {admits : Location → Bool} {allows : Name → Bool} {loc : Location}

theorem not_isResult_nil : ¬IsResult admits [] loc := fun h => FileSystem.not_hasFile_nil_entries loc h.file

theorem isResult_file {name : Name} {content : List UInt8} :
    IsResult admits [.file name content] loc ↔ loc = [name] ∧ admits [name] = true := by
  constructor
  · rintro ⟨hfile, hadmits, _⟩
    obtain rfl := FileSystem.hasFile_file.mp hfile
    exact ⟨rfl, hadmits⟩
  · rintro ⟨rfl, hadmits⟩
    exact ⟨FileSystem.hasFile_file.mpr rfl, hadmits, by simp⟩

theorem isResult_directory {name : Name} {es : List Entry} :
    IsResult admits [.directory name es] loc ↔
      isLeftOut name = false ∧ ∃ rest, loc = name :: rest ∧ IsResult (fun r => admits (name :: r)) es rest := by
  -- the name of the directory is on the way down to every file in it
  have hway : ∀ {rest : Location}, HasFile es rest → (name :: rest).dropLast = name :: rest.dropLast := by
    intro rest hfile
    refine List.dropLast_cons_of_ne_nil ?_
    rintro rfl
    exact FileSystem.not_hasFile_nil es hfile
  constructor
  · rintro ⟨hfile, hadmits, hsearched⟩
    obtain ⟨rest, rfl, hrest⟩ := FileSystem.hasFile_directory.mp hfile
    rw [hway hrest, List.forall_mem_cons] at hsearched
    exact ⟨hsearched.1, rest, rfl, hrest, hadmits, hsearched.2⟩
  · rintro ⟨hname, rest, rfl, hrest, hadmits, hsearched⟩
    refine ⟨FileSystem.hasFile_directory.mpr ⟨rest, rfl, hrest⟩, hadmits, ?_⟩
    rw [hway hrest]
    exact List.forall_mem_cons.mpr ⟨hname, hsearched⟩

theorem isResult_cons {e : Entry} {es : List Entry} (h : ∀ d ∈ es, d.name ≠ e.name) :
    IsResult admits (e :: es) loc ↔ IsResult admits [e] loc ∨ IsResult admits es loc := by
  constructor
  · rintro ⟨hfile, hadmits, hsearched⟩
    rcases (FileSystem.hasFile_cons h).mp hfile with hfile | hfile
    · exact .inl ⟨hfile, hadmits, hsearched⟩
    · exact .inr ⟨hfile, hadmits, hsearched⟩
  · rintro (⟨hfile, hadmits, hsearched⟩ | ⟨hfile, hadmits, hsearched⟩)
    · exact ⟨(FileSystem.hasFile_cons h).mpr (.inl hfile), hadmits, hsearched⟩
    · exact ⟨(FileSystem.hasFile_cons h).mpr (.inr hfile), hadmits, hsearched⟩

/-- A result below one entry begins with the name of the entry. -/
theorem IsResult.exists_cons {e : Entry} (h : IsResult admits [e] loc) : ∃ rest, loc = e.name :: rest := by
  cases e with
  | file name content => exact ⟨[], (isResult_file.mp h).1⟩
  | directory name es =>
    obtain ⟨_, rest, rfl, _⟩ := isResult_directory.mp h
    exact ⟨rest, rfl⟩

mutual

/-- A search of an entry finds its results, behind the location above it. -/
theorem mem_filesIn (admits : Location → Bool) (above : Location) : (e : Entry) → e.isOrderly allows = true →
    (loc : Location) → (loc ∈ filesIn admits above e ↔
      ∃ rest, loc = above ++ rest ∧ IsResult (fun r => admits (above ++ r)) [e] rest)
  | .file name content, _, loc => by
    rw [filesIn]
    simp only [isResult_file]
    split
    · next hadmits => simp [hadmits]
    · next hadmits => simp [hadmits]
  | .directory name es, h, loc => by
    have hinner := mem_filesAmong admits (above ++ [name]) es (FileSystem.areOrderly_of_directory h) loc
    rw [filesIn]
    simp only [isResult_directory]
    split
    · next hleft => simp [hleft]
    · next hleft =>
      rw [(inOrder_perm _).mem_iff, hinner]
      simp only [List.append_assoc, List.singleton_append]
      constructor
      · rintro ⟨rest, rfl, hrest⟩
        exact ⟨name :: rest, rfl, by simpa using hleft, rest, rfl, hrest⟩
      · rintro ⟨_, rfl, _, rest, rfl, hrest⟩
        exact ⟨rest, rfl, hrest⟩

/-- The same for several entries of one directory. -/
theorem mem_filesAmong (admits : Location → Bool) (above : Location) : (es : List Entry) → areOrderly allows es = true →
    (loc : Location) → (loc ∈ (filesAmong admits above es).flatMap (·.2) ↔
      ∃ rest, loc = above ++ rest ∧ IsResult (fun r => admits (above ++ r)) es rest)
  | [], _, loc => by simp [filesAmong, not_isResult_nil]
  | e :: es, h, loc => by
    obtain ⟨he, hnames, hes⟩ := FileSystem.areOrderly_cons.mp h
    rw [filesAmong, List.flatMap_cons, List.mem_append, mem_filesIn admits above e he,
      mem_filesAmong admits above es hes]
    simp only [isResult_cons hnames, and_or_left, exists_or]

end

/-! ## In which order -/

/-- Results of siblings of different names, each of them in order and behind its name, are in order altogether. -/
theorem inOrder_sorted {above : Location} {results : List (Name × List Location)} (hnames : (results.map (·.1)).Nodup)
    (heach : ∀ r ∈ results, r.2.Pairwise (· < ·) ∧ ∀ loc ∈ r.2, ∃ rest, loc = above ++ r.1 :: rest) :
    (inOrder results).Pairwise (· < ·) := by
  have hperm := List.mergeSort_perm results fun a b => FileSystem.nameLe a.1 b.1
  have hle : (results.mergeSort fun a b => FileSystem.nameLe a.1 b.1).Pairwise fun a b => a.1 ≤ b.1 := by
    refine (List.pairwise_mergeSort ?_ ?_ results).imp FileSystem.nameLe_iff.mp
    · intro a b c
      rw [FileSystem.nameLe_iff, FileSystem.nameLe_iff, FileSystem.nameLe_iff]
      exact List.le_trans
    · intro a b
      rw [Bool.or_eq_true, FileSystem.nameLe_iff, FileSystem.nameLe_iff]
      exact List.le_total _ _
  have hne : (results.mergeSort fun a b => FileSystem.nameLe a.1 b.1).Pairwise fun a b => a.1 ≠ b.1 :=
    List.pairwise_map.mp ((hperm.map Prod.fst).nodup_iff.mpr hnames)
  rw [inOrder, List.pairwise_flatMap]
  refine ⟨fun r hr => (heach r (hperm.mem_iff.mp hr)).1, (hle.and hne).imp_of_mem ?_⟩
  rintro r s hr hs ⟨hrs, hdiffer⟩ loc hloc loc' hloc'
  obtain ⟨rest, rfl⟩ := (heach r (hperm.mem_iff.mp hr)).2 loc hloc
  obtain ⟨rest', rfl⟩ := (heach s (hperm.mem_iff.mp hs)).2 loc' hloc'
  have hlt : r.1 < s.1 := Decidable.byContradiction fun h => hdiffer (List.le_antisymm hrs (List.not_lt.mp h))
  exact List.append_left_lt (List.cons_lt_cons_iff.mpr (.inl hlt))

theorem names_filesAmong (admits : Location → Bool) (above : Location) (es : List Entry) :
    (filesAmong admits above es).map (·.1) = es.map Entry.name := by
  induction es with
  | nil => rfl
  | cons e es ih => rw [filesAmong, List.map_cons, List.map_cons, ih]

mutual

/-- A search of an entry returns its results in order. -/
theorem filesIn_sorted (admits : Location → Bool) (above : Location) : (e : Entry) → e.isOrderly allows = true →
    (filesIn admits above e).Pairwise (· < ·)
  | .file name content, _ => by
    rw [filesIn]
    split
    · exact List.pairwise_singleton _ _
    · exact .nil
  | .directory name es, h => by
    have hes := FileSystem.areOrderly_of_directory h
    rw [filesIn]
    split
    · exact .nil
    · refine inOrder_sorted ?_ (filesAmong_sorted admits (above ++ [name]) es hes)
      rw [names_filesAmong]
      exact FileSystem.nodup_names hes

/-- Each of several entries of one directory has its results in order, behind its name. -/
theorem filesAmong_sorted (admits : Location → Bool) (above : Location) : (es : List Entry) →
    areOrderly allows es = true →
    ∀ r ∈ filesAmong admits above es, r.2.Pairwise (· < ·) ∧ ∀ loc ∈ r.2, ∃ rest, loc = above ++ r.1 :: rest
  | [], _ => by nofun
  | e :: es, h => by
    obtain ⟨he, _, hes⟩ := FileSystem.areOrderly_cons.mp h
    rw [filesAmong, List.forall_mem_cons]
    refine ⟨⟨filesIn_sorted admits above e he, ?_⟩, filesAmong_sorted admits above es hes⟩
    intro loc hloc
    obtain ⟨rest, rfl, hresult⟩ := (mem_filesIn admits above e he loc).mp hloc
    obtain ⟨rest', rfl⟩ := hresult.exists_cons
    exact ⟨rest', rfl⟩

end

/-- A search of entries finds their results, in order. -/
theorem inOrder_filesAmong (admits : Location → Bool) {es : List Entry} (h : areOrderly allows es = true) :
    (∀ loc, loc ∈ inOrder (filesAmong admits [] es) ↔ IsResult admits es loc) ∧
      (inOrder (filesAmong admits [] es)).Pairwise (· < ·) := by
  refine ⟨fun loc => ?_, inOrder_sorted ?_ (filesAmong_sorted admits [] es h)⟩
  · rw [(inOrder_perm _).mem_iff, mem_filesAmong _ _ _ h]
    simp
  · rw [names_filesAmong]
    exact FileSystem.nodup_names h

theorem IsResult.ne_nil {es : List Entry} (h : IsResult admits es loc) : loc ≠ [] := by
  rintro rfl
  exact FileSystem.not_hasFile_nil es h.file

/-! ## Searches -/

/-- A path that leads to a directory does not lead to a file. -/
theorem isFile_of_directory {fs : FileSystem} {root : Path} {es : List Entry} (h : fs.directory root = .ok es) :
    fs.isFile root = false := by
  rw [FileSystem.isFile]
  rw [FileSystem.directory] at h
  cases hloc : fs.locate root with
  | error fault => rfl
  | ok loc =>
    have hfault : FileSystem.directoryFault? fs.entries loc = none := by
      rw [hloc] at h
      simp only [bind, Except.bind] at h
      split at h
      · cases h
      · assumption
    rw [FileSystem.directoryFault?_eq] at hfault
    cases loc with
    | nil => rfl
    | cons name loc =>
      rw [FileSystem.standingAt] at hfault
      dsimp only
      split
      · next heq =>
        rw [heq] at hfault
        cases hfault
      · rfl

theorem join_injective (root : Path) {a b : List UInt8} (h : root.join a = root.join b) : a = b := by
  unfold Path.join at h
  split at h
  · simpa using h
  · simpa using h

/-- Locations by names without slashes are told apart by their paths. -/
theorem nodup_below (root : Path) {locs : List Location} (hlocs : locs.Nodup) (hne : ∀ loc ∈ locs, loc ≠ [])
    (hnames : ∀ loc ∈ locs, ∀ n ∈ loc, slash ∉ n) : (locs.map (below root)).Nodup := by
  refine List.pairwise_map.mpr (hlocs.imp_of_mem ?_)
  intro loc loc' hloc hloc' hdiffer heq
  apply hdiffer
  rw [← Path.splitSlashes_joinSlashes (hne loc hloc) (hnames loc hloc), join_injective root heq,
    Path.splitSlashes_joinSlashes (hne loc' hloc') (hnames loc' hloc')]

/-- A search below a directory takes the entries of the directory. -/
theorem testFilesBy_eq_ok {read? : String → Option (String → Bool)} {fs : FileSystem} {root : Path}
    {pattern : Option String} {files : List Path} (hroot : fs.isFile root = false) :
    testFilesBy read? fs root pattern = .ok files ↔
      ∃ test es, read? (pattern.getD defaultPattern) = some test ∧ fs.directory root = .ok es ∧
        (inOrder (filesAmong (admittedBy test) [] es)).map (below root) = files := by
  rw [testFilesBy, hroot, if_neg (by decide)]
  cases read? (pattern.getD defaultPattern) with
  | none => simp
  | some test => cases fs.directory root <;> simp

/-- However patterns are read, a search below a directory returns, by a valid pattern, exactly the files below it that
the pattern admits and that no directory left out contains. It returns them in the order of their locations, name by
name, so each location once. If no name holds a slash, then each path once as well. -/
theorem testFiles_exact (read? : String → Option (String → Bool)) (fs : FileSystem) (root : Path)
    (pattern : Option String) (test : String → Bool) (es : List Entry)
    (hroot : fs.directory root = .ok es) (hdistinct : areDistinct es = true)
    (hvalid : read? (pattern.getD defaultPattern) = some test) :
    ∃ locs : List Location, testFilesBy read? fs root pattern = .ok (locs.map (below root)) ∧
      (∀ loc, loc ∈ locs ↔ IsResult (admittedBy test) es loc) ∧ locs.Pairwise (· < ·) ∧
      ((∀ loc ∈ locs, ∀ n ∈ loc, slash ∉ n) → (locs.map (below root)).Nodup) := by
  obtain ⟨hmem, hsorted⟩ := inOrder_filesAmong (admittedBy test) hdistinct
  refine ⟨_, (testFilesBy_eq_ok (isFile_of_directory hroot)).mpr ⟨test, es, hvalid, hroot, rfl⟩, hmem, hsorted, ?_⟩
  refine nodup_below root (hsorted.imp ?_) fun loc hloc => ((hmem loc).mp hloc).ne_nil
  rintro loc _ hlt rfl
  exact List.lt_irrefl loc hlt

/-- A directory and a file whose name goes on where that of the directory ends, packages in two places, and a file that
is only named like them: the file in the directory comes first, and nothing of the packages is found. -/
theorem testFiles_exact_packages :
    let name := Path.bytesOf
    let es : List Entry :=
      [.file (name "a.ts") [], .directory (name "Node_Modules") [.file (name "x.ts") []],
        .file (name "node_modules") [],
        .directory (name "a") [.file (name "b.ts") [], .directory (name "node_modules") [.file (name "y.ts") []]]]
    let fs : FileSystem := ⟨es, []⟩
    let root := Path.ofString "."
    fs.directory root = .ok es ∧ areDistinct es = true ∧
      ∃ locs : List Location, testFiles fs root (some "s$") = .ok (locs.map (below root)) ∧
        (∀ loc ∈ [[name "a", name "b.ts"], [name "a.ts"], [name "node_modules"]], loc ∈ locs) ∧
        (∀ loc ∈ [[name "Node_Modules", name "x.ts"], [name "a", name "node_modules", name "y.ts"]], loc ∉ locs) ∧
        locs.Pairwise (· < ·) ∧ [name "a", name "b.ts"] < [name "a.ts"] := by
  intro name es fs root
  have hloc : fs.locate root = .ok [] := by decide +kernel
  have hroot : fs.directory root = .ok es := by
    rw [FileSystem.directory, hloc]
    rfl
  have hdistinct : areDistinct es = true := by decide +kernel
  obtain ⟨locs, hfound, hmem, hsorted, _⟩ := testFiles_exact Pattern.test? fs root (some "s$")
    ((Pattern.test? "s$").get (by decide +kernel)) es hroot hdistinct (Option.some_get _).symm
  refine ⟨hroot, hdistinct, locs, hfound, ?_, ?_, hsorted, by decide +kernel⟩
  · simp only [List.forall_mem_cons, hmem]
    refine ⟨⟨⟨[], ?_⟩, ?_, ?_⟩, ⟨⟨[], ?_⟩, ?_, ?_⟩, ⟨⟨[], ?_⟩, ?_, ?_⟩, by nofun⟩ <;> decide +kernel
  · simp only [List.forall_mem_cons, hmem]
    refine ⟨fun h => absurd h.searched (by decide +kernel), fun h => absurd h.searched (by decide +kernel), by nofun⟩

end Discovery

end JourneyMigration
