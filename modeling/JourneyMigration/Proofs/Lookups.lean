import JourneyMigration.Files.Batch
import JourneyMigration.Proofs.PathNames
import Mathlib.Data.List.Infix

/-!
# Lookups — what a file system answers, by what stands on the way.

At a location stands nothing, a file or a directory. Where a path leads, what is read there and whether a file
can be written there depend on what stands at the locations that the names of the path lead through, and on
nothing else: two file systems that agree along a path give the same answers and the same faults.
-/

namespace JourneyMigration

/-- What stands at a location. -/
inductive Standing where
  | nothing
  | file (content : List UInt8)
  | directory
deriving DecidableEq

namespace Standing

/-- Why it is no directory, if it is none. -/
def directoryFault? : Standing → Option FileFault
  | nothing => some .notFound
  | file _ => some .notDirectory
  | directory => none

/-- The text that is read there. -/
def text : Standing → Except FileFault String
  | nothing => .error .notFound
  | file content =>
    match Path.textOf? content with
    | some text => .ok text
    | none => .error .notText
  | directory => .error .isDirectory

end Standing

namespace FileSystem

open JourneyMigration.Path (dot isIdle splitSlashes)

/-! ## Locations -/

/-- What stands at a location below entries. -/
def standingAt (es : List Entry) (loc : Location) : Standing :=
  if loc.isEmpty then .directory
  else
    match entryAt? es loc with
    | none => .nothing
    | some (.file _ content) => .file content
    | some (.directory _ _) => .directory

@[simp] theorem standingAt_nil (es : List Entry) : standingAt es [] = .directory := rfl

/-- What stands at a location is found by its first name. -/
theorem standingAt_cons (es : List Entry) (name : Name) (loc : Location) :
    standingAt es (name :: loc) =
      match entryNamed? name es with
      | none => .nothing
      | some (.file _ content) => if loc = [] then .file content else .nothing
      | some (.directory _ inner) => standingAt inner loc := by
  cases loc with
  | nil =>
    simp only [standingAt, entryAt?]
    split <;> simp_all
  | cons next loc =>
    simp only [standingAt, entryAt?]
    rcases entryNamed? name es with _ | ⟨_ | _⟩ <;> simp

theorem isDirectoryAt_iff {es : List Entry} {loc : Location} :
    isDirectoryAt es loc = true ↔ standingAt es loc = .directory := by
  cases loc with
  | nil => simp [isDirectoryAt]
  | cons name loc =>
    simp only [isDirectoryAt, standingAt, List.isEmpty_cons, Bool.false_or, Bool.false_eq_true, if_false]
    rcases entryAt? es (name :: loc) with _ | ⟨_ | _⟩ <;> simp [Entry.isDirectory]

theorem directoryFault?_eq (es : List Entry) (loc : Location) :
    directoryFault? es loc = (standingAt es loc).directoryFault? := by
  cases loc with
  | nil => rfl
  | cons name loc =>
    simp only [directoryFault?, isDirectoryAt, standingAt, List.isEmpty_cons, Bool.false_or, Bool.false_eq_true,
      if_false]
    rcases entryAt? es (name :: loc) with _ | ⟨_ | _⟩ <;> rfl

/-- Where something stands, all above are directories. -/
theorem standingAt_above {es : List Entry} {loc rest : Location} (hrest : rest ≠ [])
    (h : standingAt es (loc ++ rest) ≠ .nothing) : standingAt es loc = .directory := by
  induction loc generalizing es with
  | nil => rfl
  | cons name loc ih =>
    rw [List.cons_append, standingAt_cons] at h
    rw [standingAt_cons]
    cases hentry : entryNamed? name es with
    | none => simp [hentry] at h
    | some e =>
      cases e with
      | file n content => simp [hentry, hrest] at h
      | directory n inner =>
        rw [hentry] at h
        exact ih h

/-! ## Walking -/

/-- Where a component leads from a directory. -/
def follow (loc : Location) (c : Name) : Except FileFault Location :=
  if isIdle c then .ok loc
  else if c = [dot, dot] then .ok loc.dropLast
  else if nameLimit < c.length then .error .tooLong
  else .ok (loc ++ [c])

theorem follow_of_isIdle {c : Name} (h : isIdle c = true) (loc : Location) : follow loc c = .ok loc := if_pos h

variable {es es' : List Entry} {loc w : Location}

/-- A component leads on from a directory only. -/
theorem walk_cons (es : List Entry) (loc : Location) (c : Name) (cs : List Name) :
    walk es loc (c :: cs) =
      match (standingAt es loc).directoryFault? with
      | some fault => .error fault
      | none => (follow loc c).bind fun next => walk es next cs := by
  rw [walk, directoryFault?_eq]
  cases (standingAt es loc).directoryFault? with
  | some fault => rfl
  | none =>
    show (if isIdle c = true then _ else _) = _
    rw [follow]
    split
    · rfl
    · simp only [beq_iff_eq]
      split
      · rfl
      · split <;> rfl

theorem walk_cons_eq_ok {c : Name} {cs : List Name} :
    walk es loc (c :: cs) = .ok w ↔
      standingAt es loc = .directory ∧ ∃ next, follow loc c = .ok next ∧ walk es next cs = .ok w := by
  rw [walk_cons]
  cases standingAt es loc with
  | nothing => simp [Standing.directoryFault?]
  | file content => simp [Standing.directoryFault?]
  | directory => cases follow loc c <;> simp [Standing.directoryFault?, Except.bind]

/-- Components that say nothing may be left out. -/
theorem walk_filter {cs : List Name} (h : walk es loc cs = .ok w) :
    walk es loc (cs.filter fun c => !isIdle c) = .ok w := by
  induction cs generalizing loc with
  | nil => exact h
  | cons c cs ih =>
    obtain ⟨hloc, next, hnext, hw⟩ := walk_cons_eq_ok.mp h
    cases hidle : isIdle c with
    | true =>
      obtain rfl : loc = next := Except.ok.inj ((follow_of_isIdle hidle loc).symm.trans hnext)
      rw [List.filter_cons_of_neg (by simp [hidle])]
      exact ih hw
    | false =>
      rw [List.filter_cons_of_pos (by simp [hidle])]
      exact walk_cons_eq_ok.mpr ⟨hloc, next, hnext, ih hw⟩

/-- What a walk finds depends on what stands at the locations that its names lead through. -/
theorem walk_congr {cs : List Name}
    (h : ∀ names, names <+: cs.filter (fun c => !isIdle c) → ∀ w, walk es loc names = .ok w →
      standingAt es' w = standingAt es w) : walk es' loc cs = walk es loc cs := by
  induction cs generalizing loc with
  | nil => rfl
  | cons c cs ih =>
    rw [walk_cons, walk_cons, h [] List.nil_prefix loc rfl]
    cases hstanding : standingAt es loc with
    | nothing => rfl
    | file content => rfl
    | directory =>
      cases hnext : follow loc c with
      | error fault => rfl
      | ok next =>
        apply ih
        intro names hnames w hw
        cases hidle : isIdle c with
        | true =>
          obtain rfl : loc = next := Except.ok.inj ((follow_of_isIdle hidle loc).symm.trans hnext)
          rw [List.filter_cons_of_neg (by simp [hidle])] at h
          exact h names hnames w hw
        | false =>
          rw [List.filter_cons_of_pos (by simp [hidle])] at h
          exact h (c :: names) (List.cons_prefix_cons.mpr ⟨rfl, hnames⟩) w
            (walk_cons_eq_ok.mpr ⟨hstanding, next, hnext, hw⟩)

/-- A walk along components is a walk along the first ones and then along the others. -/
theorem walk_append (es : List Entry) (loc : Location) (cs ds : List Name) :
    walk es loc (cs ++ ds) = (walk es loc cs).bind fun w => walk es w ds := by
  induction cs generalizing loc with
  | nil => rfl
  | cons c cs ih =>
    rw [List.cons_append, walk_cons, walk_cons]
    cases (standingAt es loc).directoryFault? with
    | some fault => rfl
    | none =>
      cases follow loc c with
      | error fault => rfl
      | ok next => exact ih next

/-- A walk whose last component is a name ends below a directory. -/
theorem walk_append_name {cs : List Name} {name : Name} (hidle : isIdle name = false)
    (hup : name ≠ [dot, dot]) (h : walk es loc (cs ++ [name]) = .ok w) :
    ∃ dir, w = dir ++ [name] ∧ standingAt es dir = .directory := by
  rw [walk_append] at h
  cases hdir : walk es loc cs with
  | error fault => rw [hdir] at h; cases h
  | ok dir =>
    rw [hdir] at h
    obtain ⟨hstanding, next, hnext, hw⟩ := walk_cons_eq_ok.mp h
    rw [follow, if_neg (by simp [hidle]), if_neg hup] at hnext
    split at hnext
    · cases hnext
    · cases hnext
      exact ⟨dir, (Except.ok.inj hw).symm, hstanding⟩

/-! ## Paths -/

/-- The location that a path begins at. -/
def startOf (fs : FileSystem) (p : Path) : Location := if p.isAbsolute then [] else fs.here

/-- Where names lead from the beginning of a path. -/
def reach (fs : FileSystem) (p : Path) (names : List Name) : Option Location :=
  (walk fs.entries (fs.startOf p) names).toOption

/-- The place that a path names, however its slashes and lone dots are written. -/
def placeOf? (fs : FileSystem) (p : Path) : Option Location := fs.reach p p.names

/-- The places above the one that a path names: those that fewer of its names lead to. -/
def placesAbove (fs : FileSystem) (p : Path) : List Location :=
  (p.names.inits.filter (· ≠ p.names)).filterMap (fs.reach p)

theorem reach_eq_some {fs : FileSystem} {p : Path} {names : List Name} :
    fs.reach p names = some w ↔ walk fs.entries (fs.startOf p) names = .ok w := by
  rw [reach]
  cases walk fs.entries (fs.startOf p) names <;> simp [Except.toOption]

/-- The names that a path begins with lead to the place it names or above it. -/
theorem placeOf?_or_placesAbove {fs : FileSystem} {p : Path} {names : List Name} (h : names <+: p.names)
    (hw : fs.reach p names = some w) : w ∈ fs.placeOf? p ∨ w ∈ fs.placesAbove p := by
  by_cases hall : names = p.names
  · subst hall
    exact .inl hw
  · refine .inr (List.mem_filterMap.mpr ⟨names, ?_, hw⟩)
    exact List.mem_filter.mpr ⟨(List.mem_inits _ _).mpr h, by simpa using hall⟩

theorem locate_eq (fs : FileSystem) (p : Path) :
    fs.locate p =
      match spellingFault? p with
      | some fault => .error fault
      | none => walk fs.entries (fs.startOf p) (splitSlashes p.bytes) := rfl

theorem placeOf?_of_locate {fs : FileSystem} {p : Path} (h : fs.locate p = .ok w) : fs.placeOf? p = some w := by
  rw [locate_eq] at h
  split at h
  · cases h
  · exact reach_eq_some.mpr (walk_filter h)

theorem readText_eq (fs : FileSystem) (p : Path) :
    fs.readText p = (fs.locate p).bind fun loc => (standingAt fs.entries loc).text := by
  rw [readText]
  cases fs.locate p with
  | error fault => rfl
  | ok loc =>
    simp only [bind, Except.bind]
    cases loc with
    | nil => rfl
    | cons name loc =>
      rw [standingAt]
      rcases entryAt? fs.entries (name :: loc) with _ | ⟨_ | _⟩ <;> rfl

/-! ## Writing -/

/-- Why a path leads to no directory, if it leads to none. -/
def directoryFaultAt? (fs : FileSystem) (p : Path) : Option FileFault :=
  match fs.locate p with
  | .error fault => some fault
  | .ok loc => (standingAt fs.entries loc).directoryFault?

/-- Why no file can be written by a path, whatever files there are. -/
def destinationFault? (p : Path) : Option FileFault :=
  let last := ((splitSlashes p.bytes).getLast?).getD []
  match spellingFault? p with
  | some fault => some fault
  | none =>
    if last == [dot] || last == [dot, dot] || !p.hasParent then some .busy
    else if last.isEmpty then some .notDirectory
    else none

/-- A location where a file can be put: below a directory, and itself none. -/
structure Writable (es : List Entry) (loc : Location) : Prop where
  notDirectory : standingAt es loc ≠ .directory
  below : ∃ dir name, loc = dir ++ [name] ∧ standingAt es dir = .directory

/-- Where a text is written by a path. -/
def target (fs : FileSystem) (p : Path) : Except Failure Location :=
  match fs.directoryFaultAt? (directoryOf p) with
  | some fault => .error (.badFile (directoryOf p) fault)
  | none =>
    match fs.destination p with
    | .error fault => .error (.badFile p fault)
    | .ok loc => .ok loc

theorem destination_eq (fs : FileSystem) (p : Path) :
    fs.destination p =
      match destinationFault? p with
      | some fault => .error fault
      | none => (fs.locate p).bind fun loc =>
          if standingAt fs.entries loc = .directory then .error .isDirectory else .ok loc := by
  simp only [destination, destinationFault?]
  cases spellingFault? p with
  | some fault => rfl
  | none =>
    simp only
    split
    · rfl
    · split
      · rfl
      · cases fs.locate p with
        | error fault => rfl
        | ok loc =>
          simp only [bind, Except.bind, ← isDirectoryAt_iff]
          rfl

theorem directory_of_fault {fs : FileSystem} {p : Path} {fault : FileFault}
    (h : fs.directoryFaultAt? p = some fault) : fs.directory p = .error fault := by
  rw [directoryFaultAt?] at h
  rw [directory]
  cases hloc : fs.locate p with
  | error fault' =>
    rw [hloc] at h
    cases h
    rfl
  | ok loc =>
    rw [hloc] at h
    simp only [bind, Except.bind, directoryFault?_eq, h]
    rfl

theorem directory_of_no_fault {fs : FileSystem} {p : Path} (h : fs.directoryFaultAt? p = none) :
    ∃ es, fs.directory p = .ok es := by
  rw [directoryFaultAt?] at h
  rw [directory]
  cases hloc : fs.locate p with
  | error fault =>
    rw [hloc] at h
    cases h
  | ok loc =>
    rw [hloc] at h
    simp only [bind, Except.bind, directoryFault?_eq, h]
    split
    · exact ⟨_, rfl⟩
    · exact ⟨_, rfl⟩

/-- Writing puts a file at one place, or fails. -/
theorem write_eq (fs : FileSystem) (p : Path) (code : String) :
    fs.write p code = (fs.target p).map fun loc => fs.put loc (Path.bytesOf code) := by
  rw [write, target]
  cases hfault : fs.directoryFaultAt? (directoryOf p) with
  | some fault =>
    simp only [directory_of_fault hfault]
    rfl
  | none =>
    obtain ⟨es, hes⟩ := directory_of_no_fault hfault
    simp only [hes]
    cases fs.destination p <;> rfl

theorem destination_eq_ok {fs : FileSystem} {p : Path} (h : fs.destination p = .ok loc) :
    destinationFault? p = none ∧ fs.locate p = .ok loc ∧ standingAt fs.entries loc ≠ .directory := by
  rw [destination_eq] at h
  cases hfault : destinationFault? p with
  | some fault => rw [hfault] at h; cases h
  | none =>
    cases hlocate : fs.locate p with
    | error fault => rw [hfault, hlocate] at h; cases h
    | ok w =>
      simp only [hfault, hlocate, Except.bind] at h
      split at h
      · cases h
      · next hstanding =>
        cases h
        exact ⟨rfl, rfl, hstanding⟩

/-- The last component of a path by which a file can be written is a name. -/
theorem last_of_no_fault {p : Path} (h : destinationFault? p = none) :
    ∃ init last, splitSlashes p.bytes = init ++ [last] ∧ isIdle last = false ∧ last ≠ [dot, dot] := by
  obtain ⟨init, last, hlast⟩ : ∃ init last, splitSlashes p.bytes = init ++ [last] :=
    ⟨_, _, (List.dropLast_append_getLast (Path.splitSlashes_ne_nil p.bytes)).symm⟩
  refine ⟨init, last, hlast, ?_⟩
  simp only [destinationFault?, hlast, List.getLast?_concat, Option.getD_some] at h
  split at h
  · cases h
  · split at h
    · cases h
    · next hbusy =>
      split at h
      · cases h
      · next hempty =>
        simp only [Bool.or_eq_true, beq_iff_eq, not_or] at hbusy
        rw [List.isEmpty_iff] at hempty
        exact ⟨by simp [isIdle, hempty, hbusy.1.1], hbusy.1.2⟩

theorem destination_of_target {fs : FileSystem} {p : Path} (h : fs.target p = .ok loc) :
    fs.destination p = .ok loc := by
  rw [target] at h
  split at h
  · cases h
  · split at h
    · cases h
    · next hdestination =>
      cases h
      exact hdestination

/-- A file is written where its path leads, below a directory, and never in the place of one. -/
theorem target_eq_ok {fs : FileSystem} {p : Path} (h : fs.target p = .ok loc) :
    fs.placeOf? p = some loc ∧ Writable fs.entries loc := by
  obtain ⟨hfault, hlocate, hstanding⟩ := destination_eq_ok (destination_of_target h)
  refine ⟨placeOf?_of_locate hlocate, hstanding, ?_⟩
  -- the last component is a name, so the walk came from the directory just above
  obtain ⟨init, last, hlast, hidle, hup⟩ := last_of_no_fault hfault
  rw [locate_eq, hlast] at hlocate
  split at hlocate
  · cases hlocate
  · obtain ⟨dir, hdir⟩ := walk_append_name hidle hup hlocate
    exact ⟨dir, last, hdir⟩

/-! ## Agreement along a path -/

/-- The directory of a path has all its names but the last. -/
theorem names_directoryOf {p : Path} (h : p.names ≠ []) :
    (∃ name, p.names = (directoryOf p).names ++ [name]) ∧ (directoryOf p).isAbsolute = p.isAbsolute := by
  have hparent : p.hasParent = true := by
    cases hparent : p.hasParent with
    | true => rfl
    | false => exact absurd (p.names_of_not_hasParent hparent) h
  have hlast : ∃ name, p.names = p.parent.names ++ [name] := ⟨_, p.names_eq_nil_or.resolve_left h⟩
  rw [directoryOf, hparent]
  by_cases hempty : p.parent.bytes = []
  · rw [hempty]
    obtain ⟨name, hname⟩ := hlast
    refine ⟨⟨name, ?_⟩, ?_⟩
    · rw [hname, Path.names, hempty]; rfl
    · rw [p.isAbsolute_of_parent_nil hempty]; rfl
  · rw [if_neg (by simpa using hempty)]
    exact ⟨hlast, p.isAbsolute_parent hempty⟩

/-- Two file systems that agree on what stands at every location on the way of a path. -/
structure AgreeAlong (fs fs' : FileSystem) (p : Path) : Prop where
  here : fs'.here = fs.here
  standing : ∀ names, names <+: p.names → ∀ w, fs.reach p names = some w →
    standingAt fs'.entries w = standingAt fs.entries w

namespace AgreeAlong

variable {fs fs' : FileSystem} {p : Path}

theorem startOf_eq (h : AgreeAlong fs fs' p) : fs'.startOf p = fs.startOf p := by rw [startOf, startOf, h.here]

theorem locate_eq (h : AgreeAlong fs fs' p) : fs'.locate p = fs.locate p := by
  rw [FileSystem.locate_eq, FileSystem.locate_eq, h.startOf_eq]
  split
  · rfl
  · exact walk_congr fun names hnames w hw => h.standing names hnames w (reach_eq_some.mpr hw)

theorem standingAt_eq (h : AgreeAlong fs fs' p) (hloc : fs.locate p = .ok loc) :
    standingAt fs'.entries loc = standingAt fs.entries loc :=
  h.standing p.names (List.prefix_refl _) loc (placeOf?_of_locate hloc)

theorem readText_eq (h : AgreeAlong fs fs' p) : fs'.readText p = fs.readText p := by
  rw [FileSystem.readText_eq, FileSystem.readText_eq, h.locate_eq]
  cases hloc : fs.locate p with
  | error fault => rfl
  | ok loc => simp only [Except.bind, h.standingAt_eq hloc]

theorem directoryFaultAt?_eq (h : AgreeAlong fs fs' p) : fs'.directoryFaultAt? p = fs.directoryFaultAt? p := by
  rw [directoryFaultAt?, directoryFaultAt?, h.locate_eq]
  cases hloc : fs.locate p with
  | error fault => rfl
  | ok loc => simp only [h.standingAt_eq hloc]

theorem destination_eq (h : AgreeAlong fs fs' p) : fs'.destination p = fs.destination p := by
  rw [FileSystem.destination_eq, FileSystem.destination_eq, h.locate_eq]
  cases destinationFault? p with
  | some fault => rfl
  | none =>
    cases hloc : fs.locate p with
    | error fault => rfl
    | ok loc => simp only [Except.bind, h.standingAt_eq hloc]

/-- The directory of a path lies on its way. -/
theorem directoryOf (h : AgreeAlong fs fs' p) (hnames : p.names ≠ []) : AgreeAlong fs fs' (directoryOf p) := by
  obtain ⟨⟨name, hname⟩, habsolute⟩ := names_directoryOf hnames
  refine ⟨h.here, fun names hprefix w hw => ?_⟩
  have hstart : fs.startOf (FileSystem.directoryOf p) = fs.startOf p := by rw [startOf, startOf, habsolute]
  apply h.standing names _ w
  · rwa [reach, hstart] at hw
  · exact hprefix.trans (hname ▸ List.prefix_append _ _)

end AgreeAlong

/-- A path without names leads to the directory where it begins. -/
theorem standingAt_of_names_nil {fs : FileSystem} {p : Path} (h : p.names = []) (hloc : fs.locate p = .ok loc) :
    standingAt fs.entries loc = .directory := by
  have hplace := placeOf?_of_locate hloc
  rw [placeOf?, h, reach_eq_some] at hplace
  obtain rfl : fs.startOf p = loc := Except.ok.inj hplace
  obtain ⟨c, cs, hcs⟩ := List.exists_cons_of_ne_nil (Path.splitSlashes_ne_nil p.bytes)
  rw [locate_eq, hcs] at hloc
  split at hloc
  · cases hloc
  · exact (walk_cons_eq_ok.mp hloc).1

/-- A path of which something is read has a name. -/
theorem names_ne_nil_of_readText {fs : FileSystem} {p : Path} {text : String} (h : fs.readText p = .ok text) :
    p.names ≠ [] := by
  intro hnil
  rw [readText_eq] at h
  cases hloc : fs.locate p with
  | error fault => rw [hloc] at h; cases h
  | ok loc =>
    simp only [hloc, Except.bind, standingAt_of_names_nil hnil hloc] at h
    cases h

end FileSystem

end JourneyMigration
