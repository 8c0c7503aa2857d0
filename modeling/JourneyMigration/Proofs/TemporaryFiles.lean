import JourneyMigration.Proofs.Updates

/-!
# Temporary files — a write in its single steps.

A text is written in three steps: a file of a new name is created in the directory of its path, it is filled with
the text, and it is moved to the path. Any step can fail for reasons that the file system does not show, and filling
can fail half way; then the new file is removed. Main statement: a write in steps either fails and leaves the file
system as it was, or does what a write in one step does. If nothing goes wrong from outside, it is the latter.

What carries it is that as long as the new file is there, the file system is the one of the beginning with this file
put, so removing it gives the beginning back, and no path to the directory leads through it.
-/

namespace JourneyMigration

open FileSystem

/-! ## Directories changed -/

/-- An entry with the entries below it changed, if it is the directory of a name. -/
def Entry.changeInner (f : List Entry → List Entry) (name : Name) : Entry → Entry
  | .directory n inner => if n == name then .directory n (f inner) else .directory n inner
  | other => other

namespace FileSystem

/-- Entries with those of the directory at a location changed. -/
def changeAt (f : List Entry → List Entry) : Location → List Entry → List Entry
  | [], es => f es
  | name :: rest, es => es.map (Entry.changeInner (changeAt f rest) name)

/-- The names in the directory at a location. -/
def namesIn : Location → List Entry → List Name
  | [], es => es.map (·.name)
  | name :: rest, es => es.flatMap fun e => if e.name == name then namesIn rest e.entries else []

/-- The names below an entry are among those of its directory. -/
theorem not_mem_namesIn_inner {d name : Name} {dir : Location} {es inner : List Entry}
    (h : name ∉ namesIn (d :: dir) es) (hmem : Entry.directory d inner ∈ es) : name ∉ namesIn dir inner := by
  intro hname
  refine h (List.mem_flatMap.mpr ⟨_, hmem, ?_⟩)
  simpa [Entry.name, Entry.entries] using hname

theorem changeAt_changeAt (f g : List Entry → List Entry) (dir : Location) (es : List Entry) :
    changeAt g dir (changeAt f dir es) = changeAt (fun inner => g (f inner)) dir es := by
  induction dir generalizing es with
  | nil => rfl
  | cons d dir ih =>
    rw [changeAt, changeAt, changeAt, List.map_map]
    refine List.map_congr_left fun e _ => ?_
    cases e with
    | file n content => rfl
    | directory n inner => by_cases hn : n = d <;> simp [Entry.changeInner, hn, ih]

/-- A change that does nothing to entries without a name does nothing where the name is new. -/
theorem changeAt_eq_self {f : List Entry → List Entry} {name : Name}
    (hf : ∀ inner : List Entry, name ∉ inner.map (·.name) → f inner = inner) {dir : Location} {es : List Entry}
    (h : name ∉ namesIn dir es) : changeAt f dir es = es := by
  induction dir generalizing es with
  | nil => exact hf es h
  | cons d dir ih =>
    rw [changeAt]
    refine (List.map_congr_left fun e he => ?_).trans (List.map_id es)
    cases e with
    | file n content => rfl
    | directory n inner =>
      by_cases hn : n = d
      · subst hn
        simp [Entry.changeInner, ih (not_mem_namesIn_inner h he)]
      · simp [Entry.changeInner, hn]

theorem putFile_eq_changeAt (content : List UInt8) (dir : Location) (name : Name) (es : List Entry) :
    putFile content es (dir ++ [name]) = changeAt (insertEntry (.file name content)) dir es := by
  induction dir generalizing es with
  | nil => rfl
  | cons d dir ih =>
    rw [List.cons_append, putFile_cons content es d (by simp), changeAt]
    refine List.map_congr_left fun e _ => ?_
    cases e with
    | file n content => rfl
    | directory n inner => simp only [Entry.putFile, Entry.changeInner, ih]

/-- Nothing stands at a new name. -/
theorem standingAt_of_not_mem_namesIn {dir : Location} {name : Name} {es : List Entry} (h : name ∉ namesIn dir es) :
    standingAt es (dir ++ [name]) = .nothing := by
  induction dir generalizing es with
  | nil =>
    have hnone : entryNamed? name es = none := by
      rw [entryNamed?, List.find?_eq_none]
      intro e he heq
      exact h (List.mem_map.mpr ⟨e, he, by simpa using heq⟩)
    rw [List.nil_append, standingAt_cons, hnone]
  | cons d dir ih =>
    rw [List.cons_append, standingAt_cons]
    cases hentry : entryNamed? d es with
    | none => rfl
    | some e =>
      cases e with
      | file n content => simp
      | directory n inner =>
        obtain rfl : n = d := name_of_entryNamed? hentry
        exact ih (not_mem_namesIn_inner h (List.mem_of_find?_eq_some hentry))

/-! ## Files removed -/

/-- Of two files of one name the second stays. -/
theorem insertEntry_insertEntry (name : Name) (content content' : List UInt8) (es : List Entry) :
    insertEntry (.file name content) (insertEntry (.file name content') es) =
      insertEntry (.file name content) es := by
  induction es with
  | nil => simp [insertEntry, Entry.name]
  | cons d ds ih => grind [insertEntry, Entry.name]

theorem filter_insertEntry (e : Entry) (es : List Entry) :
    (insertEntry e es).filter (·.name != e.name) = es.filter (·.name != e.name) := by
  induction es with
  | nil => simp [insertEntry]
  | cons d ds ih => grind [insertEntry]

/-- The file system without what has a name in a directory. -/
def remove (fs : FileSystem) (dir : Location) (name : Name) : FileSystem :=
  { fs with entries := changeAt (List.filter (·.name != name)) dir fs.entries }

variable {fs fs' : FileSystem} {dir : Location} {name : Name} {p : Path}

theorem put_put (fs : FileSystem) (dir : Location) (name : Name) (content content' : List UInt8) :
    (fs.put (dir ++ [name]) content').put (dir ++ [name]) content = fs.put (dir ++ [name]) content := by
  have hinsert : (fun inner => insertEntry (.file name content) (insertEntry (.file name content') inner)) =
      insertEntry (.file name content) := funext (insertEntry_insertEntry name content content')
  simp only [put, putFile_eq_changeAt, changeAt_changeAt, hinsert]

/-- A file put at a new name and removed leaves nothing behind. -/
theorem remove_put (h : name ∉ namesIn dir fs.entries) (content : List UInt8) :
    (fs.put (dir ++ [name]) content).remove dir name = fs := by
  have hself : changeAt (fun inner => (insertEntry (.file name content) inner).filter (·.name != name)) dir
      fs.entries = fs.entries := by
    refine changeAt_eq_self (fun inner hinner => ?_) h
    refine (filter_insertEntry (.file name content) inner).trans (List.filter_eq_self.mpr fun e he => ?_)
    rw [bne_iff_ne]
    rintro rfl
    exact hinner (List.mem_map_of_mem he)
  rw [remove, put, putFile_eq_changeAt, changeAt_changeAt, hself]

/-! ## Paths beside the new file -/

/-- The way to a directory leads through directories. -/
theorem standingAt_on_way (hloc : fs.locate p = .ok dir) (hdir : standingAt fs.entries dir = .directory)
    {names : List Name} (hnames : names <+: p.names) {w : Location} (hw : fs.reach p names = some w) :
    standingAt fs.entries w = .directory := by
  obtain ⟨rest, hrest⟩ := hnames
  have hplace := placeOf?_of_locate hloc
  rw [placeOf?, ← hrest, reach_eq_some, walk_append, reach_eq_some.mp hw] at hplace
  -- the names that are left lead on from here, and a name leads on from a directory only
  cases rest with
  | nil =>
    obtain rfl : w = dir := Except.ok.inj hplace
    exact hdir
  | cons c rest => exact (walk_cons_eq_ok.mp hplace).1

/-- A path by which a file can be written leads to the same place if all is the same on the way to its directory. -/
theorem AgreeAlong.locate_of_directoryOf (h : AgreeAlong fs fs' (FileSystem.directoryOf p))
    (hfault : destinationFault? p = none) : fs'.locate p = fs.locate p := by
  obtain ⟨init, last, hlast, hidle, _⟩ := last_of_no_fault hfault
  have hnames : p.names = init.filter (fun c => !Path.isIdle c) ++ [last] := by
    rw [Path.names, Path.namesOf, hlast, List.filter_append, List.filter_singleton]
    simp [hidle]
  obtain ⟨⟨name, hname⟩, habsolute⟩ := names_directoryOf (p := p) (by simp [hnames])
  have hdirectory : init.filter (fun c => !Path.isIdle c) = (FileSystem.directoryOf p).names :=
    (List.append_inj' (hnames.symm.trans hname) rfl).1
  have hstart : fs.startOf (FileSystem.directoryOf p) = fs.startOf p := by rw [startOf, startOf, habsolute]
  have hstart' : fs'.startOf p = fs.startOf p := by rw [startOf, startOf, h.here]
  have hstanding : ∀ names, names <+: init.filter (fun c => !Path.isIdle c) → ∀ w,
      walk fs.entries (fs.startOf p) names = .ok w → standingAt fs'.entries w = standingAt fs.entries w := by
    intro names hprefix w hw
    refine h.standing names (hdirectory ▸ hprefix) w (reach_eq_some.mpr ?_)
    rwa [hstart]
  rw [FileSystem.locate_eq, FileSystem.locate_eq, hstart', hlast, walk_append, walk_append, walk_congr hstanding]
  split
  · rfl
  · -- the last name is followed from the same directory
    cases hinit : walk fs.entries (fs.startOf p) init with
    | error fault => rfl
    | ok w =>
      have hw : standingAt fs'.entries w = standingAt fs.entries w :=
        hstanding _ (List.prefix_refl _) w (walk_filter hinit)
      simp only [Except.bind, walk_cons, hw]
      cases (standingAt fs.entries w).directoryFault? <;> rfl

/-- A new file in the directory of a path does not change where the path leads. -/
theorem destination_put (hloc : fs.locate (directoryOf p) = .ok dir)
    (hdir : standingAt fs.entries dir = .directory) (hname : name ∉ namesIn dir fs.entries)
    (content : List UInt8) : (fs.put (dir ++ [name]) content).destination p = fs.destination p := by
  have hnothing := standingAt_of_not_mem_namesIn hname
  have hwritable : Writable fs.entries (dir ++ [name]) := ⟨by rw [hnothing]; nofun, dir, name, rfl, hdir⟩
  have hiff : ∀ w, standingAt (fs.put (dir ++ [name]) content).entries w = .directory ↔
      standingAt fs.entries w = .directory := by
    intro w
    rw [hwritable.standingAt_put]
    split
    · next heq => simp [heq, hnothing]
    · rfl
  -- the new file is on the way to no directory; it may stand where the path itself leads
  have hagree : AgreeAlong fs (fs.put (dir ++ [name]) content) (directoryOf p) := by
    refine ⟨rfl, fun names hnames w hw => ?_⟩
    have hw := standingAt_on_way hloc hdir hnames hw
    rw [hw, (hiff w).mpr hw]
  rw [destination_eq, destination_eq]
  cases hfault : destinationFault? p with
  | some fault => rfl
  | none => simp only [hagree.locate_of_directoryOf hfault, hiff]

/-! ## Writing in steps -/

/-- The file system with a file moved from a directory to a path. -/
def move (fs : FileSystem) (dir : Location) (name : Name) (p : Path) : Except FileFault FileSystem :=
  match fs.destination p, standingAt fs.entries (dir ++ [name]) with
  | .error fault, _ => .error fault
  | .ok loc, .file content => .ok ((fs.remove dir name).put loc content)
  | .ok _, _ => .error .notFound

/-- Write a text to a path in one step. -/
def attempt (fs : FileSystem) (p : Path) (code : String) : Except Failure Unit × FileSystem :=
  match fs.write p code with
  | .error e => (.error e, fs)
  | .ok after => (.ok (), after)

/-- A write in one step by what stands in its way. -/
theorem attempt_eq (fs : FileSystem) (p : Path) (code : String) :
    fs.attempt p code =
      match fs.directoryFaultAt? (directoryOf p), fs.destination p with
      | some fault, _ => (.error (.badFile (directoryOf p) fault), fs)
      | none, .error fault => (.error (.badFile p fault), fs)
      | none, .ok loc => (.ok (), fs.put loc (Path.bytesOf code)) := by
  rw [attempt, write_eq, target]
  rcases fs.directoryFaultAt? (directoryOf p) with _ | fault
  · rcases fs.destination p with fault | loc <;> rfl
  · rfl

end FileSystem

/-- What the outside adds to the conversion of a file: the names that are tried for the temporary file, one after the
other, and the faults that each step meets. -/
structure Circumstances where
  candidates : List Name
  reading : Option FileFault
  creating : Option FileFault
  /-- How many bytes arrive before the fault. -/
  filling : Option (Nat × FileFault)
  moving : Option FileFault

namespace Circumstances

/-- The directory and the name of a new file in the directory that a path leads to. -/
def create (c : Circumstances) (fs : FileSystem) (p : Path) : Except FileFault (Location × Name) :=
  match fs.locate p with
  | .error fault => .error fault
  | .ok dir =>
    match (standingAt fs.entries dir).directoryFault?.or c.creating with
    | some fault => .error fault
    | none =>
      match c.candidates.find? (· ∉ namesIn dir fs.entries) with
      | some name => .ok (dir, name)
      | none => .error .busy

/-- Write a text to a path through a temporary file. -/
def write (c : Circumstances) (fs : FileSystem) (p : Path) (code : String) : Except Failure Unit × FileSystem :=
  match c.create fs (directoryOf p) with
  | .error fault => (.error (.badFile (directoryOf p) fault), fs)
  | .ok (dir, name) =>
    let created := fs.put (dir ++ [name]) []
    match c.filling with
    | some (count, fault) =>
      let torn := created.put (dir ++ [name]) ((Path.bytesOf code).take count)
      (.error (.badFile ((directoryOf p).join name) fault), torn.remove dir name)
    | none =>
      let filled := created.put (dir ++ [name]) (Path.bytesOf code)
      match c.moving with
      | some fault => (.error (.badFile p fault), filled.remove dir name)
      | none =>
        match filled.move dir name p with
        | .error fault => (.error (.badFile p fault), filled.remove dir name)
        | .ok moved => (.ok (), moved)

/-- Nothing goes wrong from outside when a text is written to a path, and a name can be found. -/
structure Calm (c : Circumstances) (fs : FileSystem) (p : Path) : Prop where
  reading : c.reading = none
  creating : c.creating = none
  filling : c.filling = none
  moving : c.moving = none
  newName : ∀ dir, fs.locate (directoryOf p) = .ok dir → ∃ name ∈ c.candidates, name ∉ namesIn dir fs.entries

section

variable {c : Circumstances} {fs : FileSystem} {p : Path} {dir : Location} {name : Name}

/-- A file is created at a new name in a directory. -/
theorem create_eq_ok (h : c.create fs p = .ok (dir, name)) :
    fs.locate p = .ok dir ∧ standingAt fs.entries dir = .directory ∧ name ∉ namesIn dir fs.entries := by
  rw [create] at h
  split at h
  · cases h
  · next loc hloc =>
    split at h
    · cases h
    · next hfault =>
      split at h
      · next found hfound =>
        cases h
        have hdir : standingAt fs.entries dir = .directory := by
          cases hstanding : standingAt fs.entries dir with
          | directory => rfl
          | nothing => simp [hstanding, Standing.directoryFault?] at hfault
          | file content => simp [hstanding, Standing.directoryFault?] at hfault
        exact ⟨hloc, hdir, by simpa using List.find?_some hfound⟩
      · cases h

/-- What a write does once its temporary file is created: whatever was in it is gone when it fails. -/
theorem write_of_create (h : c.create fs (directoryOf p) = .ok (dir, name)) (code : String) :
    c.write fs p code =
      match c.filling, c.moving, fs.destination p with
      | some (_, fault), _, _ => (.error (.badFile ((directoryOf p).join name) fault), fs)
      | none, some fault, _ => (.error (.badFile p fault), fs)
      | none, none, .error fault => (.error (.badFile p fault), fs)
      | none, none, .ok loc => (.ok (), fs.put loc (Path.bytesOf code)) := by
  obtain ⟨hloc, hdir, hname⟩ := create_eq_ok h
  have hfile : standingAt (fs.put (dir ++ [name]) (Path.bytesOf code)).entries (dir ++ [name]) =
      .file (Path.bytesOf code) := standingAt_putFile_self _ name hdir
  -- every failure takes the file away again, and no path leads elsewhere because of it
  rw [write, h]
  simp only [put_put, remove_put hname, move, hfile, destination_put hloc hdir hname]
  rcases c.filling with _ | ⟨count, fault⟩
  · rcases c.moving with _ | fault
    · rcases fs.destination p with fault | loc <;> rfl
    · rfl
  · rfl

/-- A write in steps fails and leaves all as before, or it is the write in one step. -/
theorem write_cases (c : Circumstances) (fs : FileSystem) (p : Path) (code : String) :
    (∃ e, c.write fs p code = (.error e, fs)) ∨ c.write fs p code = fs.attempt p code := by
  cases hcreate : c.create fs (directoryOf p) with
  | error fault =>
    left
    rw [write, hcreate]
    exact ⟨_, rfl⟩
  | ok created =>
    obtain ⟨dir, name⟩ := created
    obtain ⟨hloc, hdir, _⟩ := create_eq_ok hcreate
    -- the directory was there, so a write in one step gets as far as this one
    have hfault : fs.directoryFaultAt? (directoryOf p) = none := by
      simp only [directoryFaultAt?, hloc, hdir, Standing.directoryFault?]
    rw [write_of_create hcreate, attempt_eq, hfault]
    rcases c.filling with _ | ⟨count, fault⟩
    · rcases c.moving with _ | fault
      · right
        rcases fs.destination p with fault | loc <;> rfl
      · exact .inl ⟨_, rfl⟩
    · exact .inl ⟨_, rfl⟩

/-- If nothing goes wrong from outside, a write in steps is the write in one step, its faults included. -/
theorem Calm.write_eq (h : c.Calm fs p) (code : String) : c.write fs p code = fs.attempt p code := by
  rw [attempt_eq]
  cases hloc : fs.locate (directoryOf p) with
  | error fault => simp only [write, create, directoryFaultAt?, hloc]
  | ok dir =>
    cases hfault : (standingAt fs.entries dir).directoryFault? with
    | some fault => simp only [write, create, directoryFaultAt?, hloc, hfault, Option.some_or]
    | none =>
      obtain ⟨name, hmem, hname⟩ := h.newName dir hloc
      obtain ⟨found, hfound⟩ : ∃ found, c.candidates.find? (· ∉ namesIn dir fs.entries) = some found :=
        Option.isSome_iff_exists.mp (List.find?_isSome.mpr ⟨name, hmem, by simpa using hname⟩)
      have hcreate : c.create fs (directoryOf p) = .ok (dir, found) := by
        simp only [create, hloc, hfault, h.creating, Option.none_or, hfound]
      simp only [write_of_create hcreate, h.filling, h.moving, directoryFaultAt?, hloc, hfault]
      rcases fs.destination p with fault | loc <;> rfl

end

end Circumstances

end JourneyMigration
