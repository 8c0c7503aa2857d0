import JourneyMigration.Proofs.Lookups
import Mathlib.Data.List.Nodup
import Mathlib.Data.List.Perm.Basic

/-!
# Updates — what a file put at a location changes.

A file put where no directory is, below one that is, stands there afterwards, and everywhere else stands what
stood there before. Files put at different places end up in the same file system in whatever order they are put.
-/

namespace JourneyMigration

open FileSystem

/-! ## Order of names -/

namespace FileSystem

theorem nameLe_iff {a b : Name} : nameLe a b = true ↔ a ≤ b := by
  induction a generalizing b with
  | nil => simp [nameLe]
  | cons x xs ih =>
    cases b with
    | nil => simp [nameLe]
    | cons y ys => simp [nameLe, List.cons_le_cons_iff, ih]

/-! ## Entries -/

/-- The entry of a name after another entry was put in. -/
theorem entryNamed?_insertEntry (name : Name) (e : Entry) (es : List Entry) :
    entryNamed? name (insertEntry e es) = if e.name = name then some e else entryNamed? name es := by
  induction es with
  | nil => simp [insertEntry, entryNamed?]
  | cons d ds ih =>
    simp only [entryNamed?] at ih ⊢
    rw [insertEntry]
    split
    · grind
    · split <;> grind

/-- Entries of different names may be put in in either order. -/
theorem insertEntry_comm {e f : Entry} (h : e.name ≠ f.name) (es : List Entry) :
    insertEntry e (insertEntry f es) = insertEntry f (insertEntry e es) := by
  -- of the two names, exactly one comes first
  have htotal : nameLe e.name f.name = true ∨ nameLe f.name e.name = true := by
    rw [nameLe_iff, nameLe_iff]
    exact List.le_total _ _
  have hantisymm : ¬(nameLe e.name f.name = true ∧ nameLe f.name e.name = true) := by
    rw [nameLe_iff, nameLe_iff]
    rintro ⟨hef, hfe⟩
    exact h (List.le_antisymm hef hfe)
  have htrans : ∀ a b c : Name, nameLe a b = true → nameLe b c = true → nameLe a c = true := by
    intro a b c
    rw [nameLe_iff, nameLe_iff, nameLe_iff]
    exact List.le_trans
  induction es with
  | nil => grind [insertEntry]
  | cons d ds ih => grind [insertEntry]

end FileSystem

/-- An entry with a file put below it, if it is the directory of a name. -/
def Entry.putFile (content : List UInt8) (name : Name) (rest : Location) : Entry → Entry
  | .directory n inner =>
    if n == name then .directory n (FileSystem.putFile content inner rest) else .directory n inner
  | other => other

theorem Entry.name_putFile (content : List UInt8) (name : Name) (rest : Location) (e : Entry) :
    (e.putFile content name rest).name = e.name := by
  cases e with
  | file n c => rfl
  | directory n inner =>
    rw [Entry.putFile]
    split <;> rfl

theorem Entry.putFile_directory (content : List UInt8) (name : Name) (rest : Location) (inner : List Entry) :
    (Entry.directory name inner).putFile content name rest =
      .directory name (FileSystem.putFile content inner rest) := by
  simp [Entry.putFile]

theorem Entry.putFile_of_ne (content : List UInt8) {name : Name} (rest : Location) {e : Entry}
    (h : e.name ≠ name) : e.putFile content name rest = e := by
  cases e with
  | file n c => rfl
  | directory n inner => exact if_neg (by simpa [Entry.name] using h)

namespace FileSystem

theorem putFile_singleton (content : List UInt8) (es : List Entry) (name : Name) :
    putFile content es [name] = insertEntry (.file name content) es := rfl

theorem putFile_cons (content : List UInt8) (es : List Entry) (name : Name) {rest : Location} (h : rest ≠ []) :
    putFile content es (name :: rest) = es.map (Entry.putFile content name rest) := by
  cases rest with
  | nil => exact absurd rfl h
  | cons next rest => rfl

theorem entryNamed?_map_putFile (content : List UInt8) (name m : Name) (rest : Location) (es : List Entry) :
    entryNamed? m (es.map (Entry.putFile content name rest)) =
      (entryNamed? m es).map (Entry.putFile content name rest) := by
  rw [entryNamed?, List.find?_map]
  simp only [Function.comp_def, Entry.name_putFile]
  rfl

theorem name_of_entryNamed? {m : Name} {es : List Entry} {e : Entry} (h : entryNamed? m es = some e) :
    e.name = m := by
  simpa using List.find?_some h

/-! ## What stands where -/

/-- A file that is put changes nothing elsewhere, unless it takes the place of a directory. -/
theorem standingAt_putFile_of_ne (content : List UInt8) {es : List Entry} {w loc : Location}
    (hw : standingAt es w ≠ .directory) (hloc : loc ≠ w) :
    standingAt (putFile content es w) loc = standingAt es loc := by
  induction w generalizing es loc with
  | nil => exact absurd rfl hw
  | cons name rest ih =>
    cases loc with
    | nil => rfl
    | cons m loc =>
      rw [standingAt_cons] at hw
      rw [standingAt_cons, standingAt_cons]
      by_cases hrest : rest = []
      · subst hrest
        rw [putFile_singleton, entryNamed?_insertEntry]
        by_cases hm : name = m
        · -- nothing is below the file, nor was below what stood there
          subst hm
          have hbelow : loc ≠ [] := by
            rintro rfl
            exact hloc rfl
          rcases hentry : entryNamed? name es with _ | ⟨_ | _⟩ <;> simp_all [Entry.name]
        · rw [if_neg (show ¬(Entry.file name content).name = m from hm)]
      · rw [putFile_cons content es name hrest, entryNamed?_map_putFile]
        cases hentry : entryNamed? m es with
        | none => rfl
        | some e =>
          cases e with
          | file n c => rfl
          | directory n inner =>
            obtain rfl : n = m := name_of_entryNamed? hentry
            rw [Option.map_some]
            by_cases hn : n = name
            · subst hn
              rw [hentry] at hw
              rw [Entry.putFile_directory]
              exact ih hw (fun h => hloc (by rw [h]))
            · rw [Entry.putFile_of_ne content rest (show (Entry.directory n inner).name ≠ name from hn)]

/-- A file put below a directory stands there. -/
theorem standingAt_putFile_self (content : List UInt8) {es : List Entry} {dir : Location} (name : Name)
    (h : standingAt es dir = .directory) :
    standingAt (putFile content es (dir ++ [name])) (dir ++ [name]) = .file content := by
  induction dir generalizing es with
  | nil => simp [putFile, standingAt_cons, entryNamed?_insertEntry, Entry.name]
  | cons d dir ih =>
    rw [standingAt_cons] at h
    have hrest : dir ++ [name] ≠ [] := by simp
    rw [List.cons_append, putFile_cons content es d hrest, standingAt_cons, entryNamed?_map_putFile]
    cases hentry : entryNamed? d es with
    | none => simp [hentry] at h
    | some e =>
      cases e with
      | file n c =>
        rw [hentry] at h
        simp only at h
        split at h <;> cases h
      | directory n inner =>
        obtain rfl : n = d := name_of_entryNamed? hentry
        rw [hentry] at h
        rw [Option.map_some, Entry.putFile_directory]
        exact ih h

/-! ## Order of updates -/

theorem map_insertEntry {g : Entry → Entry} (hg : ∀ e, (g e).name = e.name) (e : Entry) (es : List Entry) :
    (insertEntry e es).map g = insertEntry (g e) (es.map g) := by
  induction es with
  | nil => rfl
  | cons d ds ih =>
    simp only [insertEntry, List.map_cons, hg]
    split
    · rfl
    · split
      · rfl
      · rw [List.map_cons, ih]

/-- Files at locations of which neither lies below the other may be put in either order. -/
theorem putFile_comm (content content' : List UInt8) {w w' : Location} (h : ¬w <+: w') (h' : ¬w' <+: w)
    (es : List Entry) :
    putFile content (putFile content' es w') w = putFile content' (putFile content es w) w' := by
  induction w generalizing es w' with
  | nil => exact absurd List.nil_prefix h
  | cons name rest ih =>
    cases w' with
    | nil => exact absurd List.nil_prefix h'
    | cons name' rest' =>
      by_cases hrest : rest = [] <;> by_cases hrest' : rest' = []
      · subst hrest hrest'
        apply insertEntry_comm
        rintro rfl
        exact h (List.prefix_refl _)
      · subst hrest
        rw [putFile_cons _ _ _ hrest', putFile_cons _ _ _ hrest', putFile_singleton, putFile_singleton]
        exact (map_insertEntry (Entry.name_putFile content' name' rest') (.file name content) es).symm
      · subst hrest'
        rw [putFile_cons _ _ _ hrest, putFile_cons _ _ _ hrest, putFile_singleton, putFile_singleton]
        exact map_insertEntry (Entry.name_putFile content name rest) (.file name' content') es
      · rw [putFile_cons _ _ _ hrest, putFile_cons _ _ _ hrest', putFile_cons _ _ _ hrest,
          putFile_cons _ _ _ hrest', List.map_map, List.map_map]
        apply List.map_congr_left
        intro e _
        show (e.putFile content' name' rest').putFile content name rest =
          (e.putFile content name rest).putFile content' name' rest'
        by_cases hname : e.name = name
        · by_cases hname' : e.name = name'
          · -- both files go below this entry
            cases e with
            | file n c => rfl
            | directory n inner =>
              obtain rfl : n = name := hname
              obtain rfl : n = name' := hname'
              rw [List.cons_prefix_cons] at h h'
              simp only [Entry.putFile_directory, ih (fun hp => h ⟨rfl, hp⟩) (fun hp => h' ⟨rfl, hp⟩)]
          · rw [Entry.putFile_of_ne content' rest' hname', Entry.putFile_of_ne content' rest']
            rwa [Entry.name_putFile]
        · rw [Entry.putFile_of_ne content rest hname, Entry.putFile_of_ne content rest]
          rwa [Entry.name_putFile]

/-! ## Several files -/

variable {fs : FileSystem} {w w' : Location}

/-- What stands where after a file was put at a writable location. -/
theorem Writable.standingAt_put (h : Writable fs.entries w) (content : List UInt8) (loc : Location) :
    standingAt (fs.put w content).entries loc = if loc = w then .file content else standingAt fs.entries loc := by
  split
  · next heq =>
    obtain ⟨dir, name, hdir, hstanding⟩ := h.below
    rw [heq, hdir]
    exact standingAt_putFile_self content name hstanding
  · next hne => exact standingAt_putFile_of_ne content h.notDirectory hne

/-- A writable location stays writable when files are put. -/
theorem Writable.put (h : Writable fs.entries w) (content : List UInt8) (h' : Writable fs.entries w') :
    Writable (fs.put w content).entries w' := by
  constructor
  · rw [h.standingAt_put]
    split
    · nofun
    · exact h'.notDirectory
  · obtain ⟨dir, name, hdir, hstanding⟩ := h'.below
    refine ⟨dir, name, hdir, ?_⟩
    rw [h.standingAt_put, if_neg, hstanding]
    rintro rfl
    exact h.notDirectory hstanding

/-- Of two writable locations neither lies below the other. -/
theorem Writable.not_isPrefix {es : List Entry} (h : Writable es w) (h' : Writable es w') (hne : w ≠ w') :
    ¬w <+: w' := by
  rintro ⟨rest, rfl⟩
  obtain ⟨dir, name, hdir, hstanding⟩ := h'.below
  have hrest : rest ≠ [] := by
    rintro rfl
    exact hne (List.append_nil w).symm
  have hinit : dir = w ++ rest.dropLast := by
    rw [← List.dropLast_append_of_ne_nil hrest, hdir, List.dropLast_concat]
  rw [hinit] at hstanding
  by_cases hlast : rest.dropLast = []
  · rw [hlast, List.append_nil] at hstanding
    exact h.notDirectory hstanding
  · exact h.notDirectory (standingAt_above hlast (by rw [hstanding]; nofun))

/-- The file system with several files put, one after the other. -/
def putAll (fs : FileSystem) (files : List (Location × List UInt8)) : FileSystem :=
  files.foldl (fun fs f => fs.put f.1 f.2) fs

@[simp] theorem putAll_cons (fs : FileSystem) (f : Location × List UInt8) (files : List (Location × List UInt8)) :
    fs.putAll (f :: files) = (fs.put f.1 f.2).putAll files := rfl

@[simp] theorem here_putAll (fs : FileSystem) (files : List (Location × List UInt8)) :
    (fs.putAll files).here = fs.here := by
  induction files generalizing fs with
  | nil => rfl
  | cons f files ih => rw [putAll_cons, ih]; rfl

variable {files files' : List (Location × List UInt8)}

/-- Where no file is put, nothing changes. -/
theorem standingAt_putAll (h : ∀ f ∈ files, Writable fs.entries f.1) {loc : Location}
    (hloc : loc ∉ files.map (·.1)) : standingAt (fs.putAll files).entries loc = standingAt fs.entries loc := by
  induction files generalizing fs with
  | nil => rfl
  | cons f files ih =>
    rw [List.forall_mem_cons] at h
    rw [List.map_cons, List.mem_cons, not_or] at hloc
    rw [putAll_cons, ih (fun g hg => h.1.put f.2 (h.2 g hg)) hloc.2, h.1.standingAt_put, if_neg hloc.1]

/-- A file that is put stands where it was put. -/
theorem standingAt_putAll_of_mem (h : ∀ f ∈ files, Writable fs.entries f.1) (hnodup : (files.map (·.1)).Nodup)
    {f : Location × List UInt8} (hf : f ∈ files) : standingAt (fs.putAll files).entries f.1 = .file f.2 := by
  induction files generalizing fs with
  | nil => cases hf
  | cons g files ih =>
    rw [List.forall_mem_cons] at h
    rw [List.map_cons, List.nodup_cons] at hnodup
    have hrest : ∀ x ∈ files, Writable (fs.put g.1 g.2).entries x.1 := fun x hx => h.1.put g.2 (h.2 x hx)
    rw [putAll_cons]
    rcases List.mem_cons.mp hf with rfl | hf
    · rw [standingAt_putAll hrest hnodup.1, h.1.standingAt_put, if_pos rfl]
    · exact ih hrest hnodup.2 hf

/-- Files at different places may be put in any order. -/
theorem putAll_perm (hperm : files.Perm files') (h : ∀ f ∈ files, Writable fs.entries f.1)
    (hnodup : (files.map (·.1)).Nodup) : fs.putAll files = fs.putAll files' := by
  apply hperm.foldl_eq'
  intro f hf g hg z
  by_cases hfg : f = g
  · rw [hfg]
  · have hplaces : f.1 ≠ g.1 := fun heq => hfg (List.inj_on_of_nodup_map hnodup hf hg heq)
    have hwritable := (h f hf).not_isPrefix (h g hg) hplaces
    have hwritable' := (h g hg).not_isPrefix (h f hf) hplaces.symm
    simp only [FileSystem.put, putFile_comm g.2 f.2 hwritable' hwritable]

/-- Files put elsewhere do not change what a path leads to. -/
theorem agreeAlong_putAll {p : Path} (h : ∀ f ∈ files, Writable fs.entries f.1)
    (hp : ∀ f ∈ files, f.1 ∉ fs.placeOf? p ∧ f.1 ∉ fs.placesAbove p) : AgreeAlong fs (fs.putAll files) p := by
  refine ⟨here_putAll fs files, fun names hnames w hw => standingAt_putAll h ?_⟩
  intro hmem
  obtain ⟨f, hf, rfl⟩ := List.mem_map.mp hmem
  rcases placeOf?_or_placesAbove hnames hw with hplace | habove
  · exact (hp f hf).1 hplace
  · exact (hp f hf).2 habove

end FileSystem

end JourneyMigration
