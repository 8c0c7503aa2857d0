import JourneyMigration.Proofs.Anchors
import JourneyMigration.Proofs.CommentAccount

/-!
# Where comments are found again — under anchors of the file, for as long as these last.

Comments are filed under a statement that stays in its list, or at the end of a list in which none does.
When they are filed the position is an anchor. But the lists around are dealt with later, and what goes with
an item of theirs takes its anchors along. So whether a comment is found again is a matter of counting: the
anchor is there in the end just if it was lost fewer times than the file had it.

Main results: `convert_filed_anchors`, and `openingSuite_filed_lost`, a suite that loses a comment with the
statement it is filed behind.
-/

namespace JourneyMigration

open JourneyMigration.Tree

/-! ## Filing -/

namespace Progress

/-- Comments were filed under these anchors at most. -/
def FilesAt (p : Progress) (anchors : List Anchor) (q : Progress) : Prop :=
  ∀ a : Anchor, a.comments q.comments ≠ a.comments p.comments → a ∈ anchors

variable {p q r : Progress} {as bs : List Anchor}

theorem FilesAt.of_eq (h : q.comments = p.comments) : p.FilesAt as q := by
  intro a ha
  rw [h] at ha
  exact absurd rfl ha

theorem FilesAt.trans (hp : p.FilesAt as q) (hq : q.FilesAt as r) : p.FilesAt as r := by
  intro a ha
  by_cases hsame : a.comments q.comments = a.comments p.comments
  · exact hq a (hsame ▸ ha)
  · exact hp a hsame

theorem FilesAt.mono (h : p.FilesAt as q) (hsub : as ⊆ bs) : p.FilesAt bs q :=
  fun a ha => hsub (h a ha)

theorem FilesAt.addLeading (h : p.FilesAt as q) {pos : Nat} (hpos : .leading pos ∈ as)
    (cs : List Comment) : p.FilesAt as (q.addLeading pos cs) := by
  refine h.trans fun a ha => ?_
  cases a with
  | leading other =>
    by_cases hother : other = pos
    · exact hother ▸ hpos
    · refine absurd ?_ ha
      simp [Anchor.comments, Progress.addLeading, CommentStore.addLeading, CommentStore.leadingAt, hother]
  | trailing other => exact absurd rfl ha

theorem FilesAt.addTrailing (h : p.FilesAt as q) {pos : Nat} (hpos : .trailing pos ∈ as)
    (cs : List Comment) : p.FilesAt as (q.addTrailing pos cs) := by
  refine h.trans fun a ha => ?_
  cases a with
  | leading other => exact absurd rfl ha
  | trailing other =>
    by_cases hother : other = pos
    · exact hother ▸ hpos
    · refine absurd ?_ ha
      simp [Anchor.comments, Progress.addTrailing, CommentStore.addTrailing, CommentStore.trailingAt, hother]

/-- Names and waiting imports file nothing. -/
theorem FilesAt.withNames (h : p.FilesAt as q) {names : List String} {import? : Option Span}
    (hr : r = q.withNames names import?) : p.FilesAt as r := by
  subst hr
  exact h

/-- A report files nothing. -/
theorem FilesAt.report (h : p.FilesAt as q) (env : Setting) (finding : Finding) (s : Span) :
    p.FilesAt as ((q.markVisited s).report env finding s) :=
  h.trans (.of_eq (markVisited_comments s q))

end Progress

/-! ## Statement lists -/

namespace Listing

/-- A list in the making has filed under these anchors at most, and those of the items that stay are among
them. -/
structure Filed (p : Progress) (anchors : List Anchor) (l : Listing) : Prop where
  files : p.FilesAt anchors l.progress
  items : ∀ u ∈ l.items, u.kind.isItem = true ∧ u.nodeAnchors ⊆ anchors

variable {p : Progress} {as : List Anchor} {l : Listing}

theorem Filed.push (h : l.Filed p as) {item : Tree} (hitem : item.kind.isItem = true)
    (hsub : item.nodeAnchors ⊆ as) : (l.push item).Filed p as := by
  have hitems : ∀ u ∈ l.items ++ [item], u.kind.isItem = true ∧ u.nodeAnchors ⊆ as := by
    intro u hu
    rcases List.mem_append.mp hu with hu | hu
    · exact h.items u hu
    · obtain rfl := List.mem_singleton.mp hu
      exact ⟨hitem, hsub⟩
  unfold Listing.push
  dsimp only
  split
  · exact ⟨h.files, hitems⟩
  · rename_i hplace
    have hlo : item.span.lo ≠ 0 := by
      rw [Bool.or_eq_true, beq_iff_eq, not_or] at hplace
      exact hplace.2
    exact ⟨h.files.addLeading (hsub (leading_mem_nodeAnchors hitem hlo)) l.pending, hitems⟩

theorem Filed.foldl_push (h : l.Filed p as) {ts : List Tree}
    (hts : ∀ t ∈ ts, t.kind.isItem = true ∧ t.nodeAnchors ⊆ as) : (ts.foldl Listing.push l).Filed p as := by
  induction ts generalizing l with
  | nil => exact h
  | cons t ts ih =>
    obtain ⟨hitem, hsub⟩ := hts t List.mem_cons_self
    exact ih (h.push hitem hsub) fun u hu => hts u (List.mem_cons_of_mem t hu)

theorem Filed.comment (h : l.Filed p as) (cs : List Comment) : (l.comment cs).Filed p as := by
  unfold Listing.comment
  split
  · rename_i last hlast
    split
    · rename_i hplace
      obtain ⟨hitem, hsub⟩ := h.items last (List.mem_of_getLast? hlast)
      have hhi : last.span.hi ≠ 0 := bne_iff_ne.mp (Bool.and_eq_true_iff.mp hplace).1
      exact ⟨h.files.addTrailing (hsub (trailing_mem_nodeAnchors hitem hhi)) cs, h.items⟩
    · exact ⟨h.files, h.items⟩
  · exact ⟨h.files, h.items⟩

/-- Dealing with an item files under the anchors of the items at most. -/
theorem Filed.step (env : Setting) (h : l.Filed p as) {item : Tree} (hitem : item.kind.isItem = true)
    (hsub : item.anchors ⊆ as) : (l.step env item).Filed p as := by
  have hown : item.nodeAnchors ⊆ as := List.Subset.trans (nodeAnchors_subset item) hsub
  unfold Listing.step
  split
  · exact h.push hitem hown
  · split
    · exact h
    · split
      · rename_i cs q hcomment
        obtain ⟨s, m, rfl, _⟩ := commentOut?_replacement hcomment
        have hreported : Filed p as { l with progress := _ } :=
          ⟨h.files.report env (.unsupportedMatcher m) s, h.items⟩
        exact hreported.comment cs
      · split
        · -- the tests of a suite stand in it, so their anchors are among its own
          rename_i tests hsuite
          refine h.foldl_push fun t ht => ?_
          obtain ⟨s, e, rfl⟩ := exprStmt_of_mem_testsOfSuite? hsuite ht
          refine ⟨rfl, fun a ha => hsub ((testsOfSuite?_anchors hsuite).subset ?_)⟩
          exact List.mem_flatMap.mpr ⟨_, ht, nodeAnchors_subset _ ha⟩
        · exact h.push hitem hown

theorem Filed.foldl_step (env : Setting) (h : l.Filed p as) {items : List Tree}
    (hitems : ∀ u ∈ items, u.kind.isItem = true ∧ u.anchors ⊆ as) :
    (items.foldl (Listing.step env) l).Filed p as := by
  induction items generalizing l with
  | nil => exact h
  | cons item items ih =>
    obtain ⟨hitem, hsub⟩ := hitems item List.mem_cons_self
    exact ih (h.step env hitem hsub) fun u hu => hitems u (List.mem_cons_of_mem item hu)

end Listing

/-- A list files under the anchors of its items, or at the position of last resort. -/
theorem convertStatements_filesAt (env : Setting) {items : List Tree} {fallback : Nat} {as : List Anchor}
    (hitems : ∀ u ∈ items, u.kind.isItem = true ∧ u.anchors ⊆ as)
    (hfallback : fallback ≠ 0 → .leading fallback ∈ as) (p : Progress) :
    p.FilesAt as (convertStatements env items fallback p).2 := by
  have hstart : Listing.Filed p as ⟨[], [], p⟩ := ⟨.of_eq rfl, fun _ hu => nomatch hu⟩
  have hfiles := (hstart.foldl_step env hitems).files
  unfold convertStatements Listing.finish
  split
  · exact hfiles
  · rename_i hplace
    rw [Bool.or_eq_true, beq_iff_eq, not_or] at hplace
    exact hfiles.addLeading (hfallback hplace.2) _

/-! ## Nodes and trees -/

namespace Tree

variable {env : Setting}

/-- The list of a node files under the anchors of the node. -/
theorem listed_filesAt (env : Setting) {t : Tree} (fallback : Nat)
    (hanchors : t.anchors = t.nodeAnchors ++ t.listed.flatMap anchors)
    (ht : ∀ u ∈ t.listed, u.kind.isItem = true)
    (hfallback : fallback ≠ 0 → .leading fallback ∈ t.nodeAnchors) (p : Progress) :
    p.FilesAt t.anchors (convertStatements env t.listed fallback p).2 := by
  rw [hanchors]
  refine convertStatements_filesAt env (fun u hu => ⟨ht u hu, fun a ha => ?_⟩) (fun h => ?_) p
  · exact List.mem_append_right _ (List.mem_flatMap.mpr ⟨u, hu, ha⟩)
  · exact List.mem_append_left _ (hfallback h)

/-- A node files under its own anchors. -/
theorem convertNode_filesAt (env : Setting) {t : Tree} (ht : ∀ u ∈ t.listed, u.kind.isItem = true)
    (p : Progress) : p.FilesAt t.anchors (convertNode env t p).2 := by
  have hdiscard : ∀ {found : Option (String × Span)} {q : Progress},
      discard? env found p = some q → p.FilesAt t.anchors q := by
    intro found q h
    obtain ⟨hook, s, _, _, rfl⟩ := discard?_eq_some h
    exact Progress.FilesAt.report (.of_eq rfl) env (.unsupportedHook hook) s
  unfold convertNode
  split
  · rename_i interpreter s items
    have hlist := listed_filesAt env s.lo (anchors_program s interpreter items) ht
      (fun hlo => List.mem_filter.mpr ⟨List.mem_singleton_self _, bne_iff_ne.mpr hlo⟩) p
    obtain ⟨names, hnames⟩ := addDeferredImport_withNames env
      (convertStatements env items s.lo p).1 (convertStatements env items s.lo p).2
    exact hlist.withNames hnames
  · rename_i s stmts
    exact listed_filesAt env (closingBrace s) (anchors_block s stmts) ht
      (fun hbrace => List.mem_filter.mpr ⟨List.mem_singleton_self _, bne_iff_ne.mpr hbrace⟩) p
  · split
    · exact hdiscard ‹_›
    · exact .of_eq rfl
  · exact .of_eq rfl
  · split
    · split
      · exact hdiscard ‹_›
      · exact .of_eq rfl
    · exact .of_eq rfl

/-- An item stays one, if only as an empty statement. -/
theorem isItem_convert (env : Setting) {t : Tree} (ht : t.kind.isItem = true) (p : Progress) :
    (t.convert env p).1.kind.isItem = true := by
  refine convert_induction env (fun t _ t' _ => t.kind.isItem = true → t'.kind.isItem = true)
    (fun _ _ _ _ => True) ?awaited ?imported ?declared ?other ?nil ?cons t p ht
  case awaited => exact fun s e p t' q _ _ ht => nomatch ht
  case imported =>
    intro typeOnly phase s cs p t' q himport ht
    have hkind := convertImport_kind env typeOnly phase s cs p
    rw [himport] at hkind
    rw [show t'.kind = .importDecl typeOnly phase from hkind]
    exact ht
  case declared => exact fun definite s cs p claimed p' cs' q _ _ _ ht => nomatch ht
  case other =>
    intro k s cs p cs' q t' r _ _ _ _ hstep ht
    have hu : (node k s cs').kind.isItem = true := ht
    generalize node k s cs' = u at hstep hu
    cases hstep with
    | discard =>
      unfold remains
      split
      · cases hu
      · rfl
    | keep => exact hu
    | _ => cases hu
  case nil => exact fun _ => trivial
  case cons => exact fun _ _ _ _ _ _ _ _ _ _ => trivial

/-- The lists of a node hold items after its children are converted, if they did before. -/
theorem listed_isItem_convertAmong (env : Setting) {k : Kind} {s : Span} {cs : List Tree}
    (h : ∀ u ∈ (node k s cs).listed, u.kind.isItem = true) (p : Progress) :
    ∀ u ∈ (node k s (convertAmong env cs p).1).listed, u.kind.isItem = true := by
  -- a list in a converted node was a list, and its elements were items
  have hlist : ∀ {items : List Tree}, (convertAmong env cs p).1 = [list items] →
      (∀ ts, cs = [list ts] → ∀ u ∈ ts, u.kind.isItem = true) → ∀ u ∈ items, u.kind.isItem = true := by
    intro items hamong hts u hu
    obtain ⟨c, rfl, hc⟩ := convertAmong_eq_singleton hamong
    obtain ⟨ts, rfl, rfl⟩ := convert_eq_inert hc rfl
    obtain ⟨t, ht, q, rfl⟩ := mem_convertAmong hu
    exact isItem_convert env (hts ts rfl t ht) q
  intro u hu
  generalize hamong : (convertAmong env cs p).1 = cs' at hu
  unfold listed at hu
  split at hu
  · rename_i heq
    cases heq
    refine hlist hamong (fun ts hcs => ?_) u hu
    subst hcs
    exact h
  · rename_i heq
    cases heq
    refine hlist hamong (fun ts hcs => ?_) u hu
    subst hcs
    exact h
  · cases hu

theorem anchors_convert_subset (env : Setting) {t : Tree} (ht : ∀ u ∈ t.subtrees, u.isPlaced = true)
    (p : Progress) : (t.convert env p).1.anchors ⊆ t.anchors := by
  intro a ha
  have hcount := convert_count_anchors env ht p a
  have hpos := List.count_pos_iff.mpr ha
  have hpos' : 0 < t.anchors.count a := by omega
  exact List.count_pos_iff.mp hpos'

/-- A traversal files under the anchors of the tree. -/
theorem convert_filesAt (env : Setting) {t : Tree} (ht : ∀ u ∈ t.subtrees, u.isPlaced = true)
    (p : Progress) : p.FilesAt t.anchors (t.convert env p).2 := by
  refine dealings_induction env
    (fun t p _ q _ => (∀ u ∈ t.subtrees, u.isPlaced = true) → p.FilesAt t.anchors q)
    (fun cs p _ q _ => (∀ c ∈ cs, ∀ u ∈ c.subtrees, u.isPlaced = true) →
      p.FilesAt (cs.flatMap anchors) q)
    ?awaited ?imported ?declared ?other ?nil ?cons t p ht
  case awaited =>
    intro s e p t' q ds _ _ ih ht
    rw [anchors_await]
    exact ih (forall_subtrees_child ht e List.mem_cons_self)
  case imported =>
    intro typeOnly phase s cs p t' q himport _
    obtain ⟨names, waiting, hnames⟩ :=
      convertImport_withNames env (node (.importDecl typeOnly phase) s cs) p
    rw [himport] at hnames
    exact Progress.FilesAt.withNames (.of_eq rfl) hnames
  case declared =>
    intro definite s cs p claimed p' cs' q t' ds hclaim _ ih _ ht
    obtain ⟨names, hnames⟩ := claimByRequire_withNames env (node (.declarator definite) s cs) p
    rw [hclaim] at hnames
    rw [anchors_declarator]
    have hstart : p.FilesAt (cs.flatMap anchors) p' :=
      Progress.FilesAt.withNames (.of_eq rfl) hnames
    exact hstart.trans (ih (forall_subtrees_child ht))
  case other =>
    intro k s cs p cs' q t' r ds hk _ hamong ih hnode ht
    have hchildren := forall_subtrees_child ht
    have hplaced := ht _ (self_mem_subtrees _)
    obtain rfl : (convertAmong env cs p).1 = cs' := congrArg Prod.fst hamong
    have hitems := listed_isItem_convertAmong env
      (List.all_eq_true.mp (Bool.and_eq_true_iff.mp hplaced).2) p
    have hstep := convertNode_filesAt env hitems q
    rw [hnode] at hstep
    -- the node with converted children has no anchors but its own
    have hsub : (node k s (convertAmong env cs p).1).anchors ⊆ (node k s cs).anchors := by
      rw [anchors_of_not_isImport hk, anchors_of_not_isImport hk, nodeAnchors_convertAmong env hplaced]
      refine List.append_subset.mpr ⟨List.subset_append_left _ _, fun a ha => ?_⟩
      obtain ⟨u, hu, ha⟩ := List.mem_flatMap.mp ha
      obtain ⟨c, hc, q', rfl⟩ := mem_convertAmong hu
      have hmem := anchors_convert_subset env (hchildren c hc) q' ha
      exact List.mem_append_right _ (List.mem_flatMap.mpr ⟨c, hc, hmem⟩)
    refine Progress.FilesAt.trans ((ih hchildren).mono ?_) (hstep.mono hsub)
    rw [anchors_of_not_isImport hk]
    exact List.subset_append_right _ _
  case nil => exact fun p _ => .of_eq rfl
  case cons =>
    intro c cs p c' q cs' r ds ds' _ hc hcs ht
    rw [List.flatMap_cons]
    have hhead := hc (ht c List.mem_cons_self)
    have htail := hcs fun d hd => ht d (List.mem_cons_of_mem c hd)
    exact (hhead.mono (List.subset_append_left _ _)).trans (htail.mono (List.subset_append_right _ _))

/-- Every comment that a conversion files is filed under an anchor of the file. The anchor is one of the
converted file just if it was lost fewer times than the file had it, and no dealing loses anchors but those
of an assertion that it comments out, of a suite around its tests, of the callee of a renamed hook, or of a
node that answers for an unsupported hook. -/
theorem convert_filed_anchors (env : Setting) (file : Tree) (p : Progress)
    (hplaced : ∀ u ∈ file.subtrees, u.isPlaced = true) (a : Anchor)
    (hfiled : a.comments (file.convert env p).2.comments ≠ a.comments p.comments) :
    let lost := (file.dealings env p).flatMap Dealing.anchorsLost
    a ∈ file.anchors ∧
    (a ∈ (file.convert env p).1.anchors ↔ lost.count a < file.anchors.count a) ∧
    ∀ d ∈ file.dealings env p, a ∈ d.anchorsLost → a ∈ d.before.atRisk := by
  intro lost
  refine ⟨convert_filesAt env hplaced p a hfiled, ?_, ?_⟩
  · have hcount : _ + lost.count a = _ := convert_count_anchors env hplaced p a
    rw [← List.count_pos_iff]
    omega
  · exact fun d hd ha => atRisk_of_mem_anchorsLost env file p d hd a ha

theorem convert_filed_anchors_listFile :
    let env : Setting :=
      { filename := "a.ts", source := .ofString "open();expect(a).toBeOK();{expect(a).toBeOK();}" }
    let q := (listFile.convert env {}).2
    (∀ u ∈ listFile.subtrees, u.isPlaced = true) ∧
    ∀ a ∈ [Anchor.trailing 8, .leading 47], a.comments q.comments ≠ [] ∧ a ∈ listFile.anchors ∧
      a ∈ (listFile.convert env {}).1.anchors := by
  intro env q
  have hplaced : ∀ u ∈ listFile.subtrees, u.isPlaced = true := by decide +kernel
  have hfiled : ∀ a ∈ [Anchor.trailing 8, .leading 47], a.comments q.comments ≠ [] := by decide +kernel
  refine ⟨hplaced, fun a ha => ⟨hfiled a ha, ?_⟩⟩
  have hsame : ∀ a : Anchor, a.comments ({} : Progress).comments = [] := by
    intro a
    cases a <;> rfl
  obtain ⟨hmem, hfound, _⟩ :=
    convert_filed_anchors env listFile {} hplaced a (by rw [hsame]; exact hfiled a ha)
  refine ⟨hmem, hfound.mpr ?_⟩
  rcases List.mem_pair.mp ha with rfl | rfl <;> decide +kernel

/-- `test.describe(() => {open();expect(a).toBeOK();test();});` -/
def openingSuite : Tree :=
  program ⟨1, 58⟩ none
    [exprStmt ⟨1, 58⟩
      (call ⟨1, 57⟩ (member ⟨1, 14⟩ (ident ⟨1, 5⟩ "test" false) (name ⟨6, 14⟩ "describe"))
        [arg none (arrow ⟨15, 56⟩ false false (list [])
          (block ⟨21, 56⟩
            [openingAt 22, assertionAt 29,
              exprStmt ⟨48, 55⟩ (call ⟨48, 54⟩ (ident ⟨48, 52⟩ "test" false) [] absent)])
          absent absent)]
        absent)]

/-- No unsupported hook is called, all statements have places of their own, and still the comments in place
of the assertion are filed where nothing is left: they stand behind `open();`, and only the test of the suite
stays. -/
theorem openingSuite_filed_lost :
    let env : Setting := { filename := "a.ts",
                           source := .ofString "test.describe(() => {open();expect(a).toBeOK();test();});" }
    let places := (openingSuite.subtrees.filter (·.kind.isItem)).map span
    (∀ u ∈ openingSuite.subtrees, u.isPlaced = true ∧ u.unsupportedHook? = none) ∧
    places.Nodup ∧ Span.dummy ∉ places ∧
    (Anchor.trailing 29).comments (openingSuite.convert env {}).2.comments =
      Comment.inPlaceOf "await response.status()" (some "expect(a).toBeOK();") ∧
    .trailing 29 ∉ (openingSuite.convert env {}).1.anchors := by
  decide +kernel

end Tree

end JourneyMigration
