import JourneyMigration.Proofs.Recognition
import JourneyMigration.Proofs.RunInvariants

/-!
# Findings — a diagnostic is about something that stands in the file, and none is made twice.

What is reported is found on a tree that was already converted below. So every report has to be read back:
a hook to a call of the file, which is what the account of places does, and an assertion to a statement of
the file that makes it in its own code. For the latter every statement is read off with the unsupported
matchers that it uses itself (`assertions`), and conversion only ever takes from this list.

Marks and reports keep step: a place is marked exactly if it is reported, and a place that was marked is
reported no more.
-/

namespace JourneyMigration

open JourneyMigration.Tree

namespace Tree

variable {env : Setting}

/-! ## Assertions of a tree -/

/-- The unsupported matchers that a statement uses in its own code, with the place of the statement. -/
def nodeAssertions : Tree → List (Span × String)
  | exprStmt s e => (e.ownCalls.filterMap unsupportedMatcher?).map fun found => (s, found.1)
  | _ => []

/-- The unsupported matchers that the statements of a tree use, in visiting order. -/
def assertions (t : Tree) : List (Span × String) := t.subtrees.flatMap nodeAssertions

theorem mem_nodeAssertions_exprStmt {s : Span} {e : Tree} {x : Span × String} :
    x ∈ nodeAssertions (exprStmt s e) ↔
      x.1 = s ∧ ∃ u ∈ e.ownCalls, ∃ suggestion, u.unsupportedMatcher? = some (x.2, suggestion) := by
  constructor
  · intro hx
    obtain ⟨found, hfound, rfl⟩ := List.mem_map.mp hx
    obtain ⟨u, hu, hmatcher⟩ := List.mem_filterMap.mp hfound
    exact ⟨rfl, u, hu, found.2, hmatcher⟩
  · rintro ⟨rfl, u, hu, suggestion, hmatcher⟩
    exact List.mem_map.mpr ⟨_, List.mem_filterMap.mpr ⟨u, hu, hmatcher⟩, rfl⟩

theorem nodeAssertions_of_ne {k : Kind} (s : Span) (cs : List Tree) (hk : k ≠ .exprStmt) :
    nodeAssertions (node k s cs) = [] := by
  unfold nodeAssertions
  split
  · rename_i heq
    cases heq
    exact absurd rfl hk
  · rfl

theorem assertions_node (k : Kind) (s : Span) (cs : List Tree) :
    (node k s cs).assertions = nodeAssertions (node k s cs) ++ cs.flatMap assertions := by
  unfold assertions
  rw [subtrees_node, List.flatMap_cons, List.flatMap_assoc]

/-- Only an expression statement adds something to what its children assert. -/
theorem assertions_of_ne {k : Kind} (s : Span) (cs : List Tree) (hk : k ≠ .exprStmt) :
    (node k s cs).assertions = cs.flatMap assertions := by
  rw [assertions_node, nodeAssertions_of_ne s cs hk, List.nil_append]

theorem assertions_listed (k : Kind) (s : Span) (ts : List Tree) (hk : k ≠ .exprStmt) :
    (node k s [list ts]).assertions = ts.flatMap assertions := by
  rw [assertions_of_ne s _ hk, List.flatMap_singleton, assertions_of_ne _ ts (by nofun)]

/-! ## What moves, and what is made up -/

theorem testsOfSuite?_assertions {stmt : Tree} {tests : List Tree} (h : stmt.testsOfSuite? = some tests) :
    List.Sublist (tests.flatMap assertions) stmt.assertions := by
  refine testsOfSuite?_sublist (c := ()) (fun _ => True) (fun _ => assertions) ?_ ?_ trivial h
  · intro c _ k s cs _
    refine ⟨c, trivial, ?_⟩
    rw [assertions_node]
    exact List.sublist_append_right _ _
  · exact fun _ _ _ _ _ _ => rfl

theorem sift_assertions (env : Setting) (items : List Tree) (p : Progress) :
    (sift env items p).1.flatMap assertions ⊆ items.flatMap assertions :=
  (sift_sublist testsOfSuite?_assertions env items p).subset

theorem assertions_of_isImportPart (k : Kind) (s : Span) (cs : List Tree) (hk : k.isImportPart = true) :
    (node k s cs).assertions = cs.flatMap assertions := by
  apply assertions_of_ne
  rintro rfl
  cases hk

theorem importOfNeeded_assertions (env : Setting) (names : List String) :
    (importOfNeeded env names).assertions = [] := by
  unfold importOfNeeded
  simp [assertions_of_ne, neededSpecifiers_reading assertions_of_isImportPart]

theorem convertImport_assertions (env : Setting) (t : Tree) (p : Progress) :
    (convertImport env t p).1.assertions = t.assertions := by
  apply convertImport_reading assertions_of_isImportPart
  intro typeOnly phase s cs cs' h
  rw [assertions_of_ne s cs (by nofun), assertions_of_ne s cs' (by nofun), h]

theorem claimed_assertions (claimed : Option (List String)) (t : Tree) :
    ((claimed.map fun names => t.takeUp names).getD t).assertions = t.assertions := by
  cases claimed with
  | none => rfl
  | some names =>
    apply takeUp_reading
    intro k s cs hk
    apply assertions_of_ne
    rintro rfl
    cases hk

/-- A converted expression makes no assertion itself that the expression does not make. -/
theorem unsupportedMatcher?_of_convert {e u : Tree} {p : Progress} {found : String × String}
    (hu : u ∈ (e.convert env p).1.ownCalls) (hfound : u.unsupportedMatcher? = some found) :
    ∃ w ∈ e.ownCalls, w.unsupportedMatcher? = some found := by
  by_contra hnone
  push Not at hnone
  -- the check for this one assertion is passed by no call of the expression, hence by none afterwards
  have hcheck : MemberCheck env fun t => t.unsupportedMatcher?.filter (· == found) := by
    refine ⟨fun _ _ _ _ _ _ => rfl, fun s cs q h => ?_⟩
    rw [Option.filter_eq_none_iff] at h ⊢
    exact fun a ha => h a (unsupportedMatcher?_of_convertAmong ha)
  have hbefore : e.Uncalled fun t => t.unsupportedMatcher?.filter (· == found) := by
    intro w hw
    rw [Option.filter_eq_none_iff]
    intro a ha heq
    exact hnone w hw (by rw [ha, eq_of_beq heq])
  have hafter := convert_uncalled hcheck hbefore p u hu
  simp [hfound] at hafter

/-- A statement with a converted expression asserts what it asserted before. -/
theorem nodeAssertions_convertAmong (env : Setting) (k : Kind) (s : Span) (cs : List Tree) (p : Progress) :
    nodeAssertions (node k s (convertAmong env cs p).1) ⊆ nodeAssertions (node k s cs) := by
  intro x hx
  by_cases hstmt : ∃ e', node k s (convertAmong env cs p).1 = exprStmt s e'
  · obtain ⟨e', heq⟩ := hstmt
    rw [heq, mem_nodeAssertions_exprStmt] at hx
    injection heq with hk _ hcs
    obtain ⟨e, rfl, rfl⟩ := convertAmong_eq_singleton hcs
    obtain ⟨hspan, u, hu, suggestion, hfound⟩ := hx
    obtain ⟨w, hw, hw'⟩ := unsupportedMatcher?_of_convert hu hfound
    rw [hk]
    exact mem_nodeAssertions_exprStmt.mpr ⟨hspan, w, hw, suggestion, hw'⟩
  · unfold nodeAssertions at hx
    split at hx
    · rename_i heq
      injection heq with hk _ hcs
      exact absurd ⟨_, by rw [hk, hcs]⟩ hstmt
    · cases hx

end Tree

/-! ## Reports of assertions -/

namespace Progress

/-- What was reported in between as an unsupported assertion is among the assertions given. -/
def ReportsAmong (asserted : List (Span × String)) (p q : Progress) : Prop :=
  ∀ d ∈ q.diagnostics, d ∈ p.diagnostics ∨
    ∀ matcher, d.finding = .unsupportedMatcher matcher → (d.span, matcher) ∈ asserted

namespace ReportsAmong

variable {asserted more : List (Span × String)} {p q r : Progress}

theorem of_eq (h : q.diagnostics = p.diagnostics) : ReportsAmong asserted p q := by
  intro d hd
  rw [h] at hd
  exact Or.inl hd

theorem mono (h : ReportsAmong asserted p q) (hsub : asserted ⊆ more) : ReportsAmong more p q := by
  intro d hd
  rcases h d hd with hold | hnew
  · exact Or.inl hold
  · exact Or.inr fun matcher hm => hsub (hnew matcher hm)

theorem trans (h : ReportsAmong asserted p q) (h' : ReportsAmong asserted q r) :
    ReportsAmong asserted p r := by
  intro d hd
  rcases h' d hd with hold | hnew
  · exact h d hold
  · exact Or.inr hnew

/-- A new report is as good as what it reports. -/
theorem report (env : Setting) (finding : Finding) (s : Span)
    (h : ∀ matcher, finding = .unsupportedMatcher matcher → (s, matcher) ∈ asserted) :
    ReportsAmong asserted p ((p.markVisited s).report env finding s) := by
  intro d hd
  have hd : d ∈ (p.markVisited s).diagnostics ++ [env.diagnose finding s] := hd
  rw [markVisited_diagnostics] at hd
  rcases List.mem_append.mp hd with hd | hd
  · exact Or.inl hd
  · obtain rfl := List.mem_singleton.mp hd
    exact Or.inr h

end ReportsAmong

end Progress

open Progress (ReportsAmong)

theorem SiftStep.reportsAmong {env : Setting} {item : Tree} {kept : List Tree} {p q : Progress}
    (h : SiftStep env item p kept q) : ReportsAmong item.assertions p q := by
  cases h with
  | assertion s e _ matcher suggestion found =>
    apply ReportsAmong.report
    rintro _ ⟨⟩
    rw [findCallInStatement?_exprStmt, findCall?_eq] at found
    obtain ⟨u, hu, hmatcher⟩ := List.exists_of_findSome?_eq_some found
    rw [assertions_node]
    apply List.mem_append_left
    exact mem_nodeAssertions_exprStmt.mpr ⟨rfl, u, hu, suggestion, hmatcher⟩
  | stay => exact .of_eq rfl
  | empty => exact .of_eq rfl
  | suite => exact .of_eq rfl

theorem sift_reportsAmong (env : Setting) (items : List Tree) (p : Progress) :
    ReportsAmong (items.flatMap assertions) p (sift env items p).2 := by
  induction items generalizing p with
  | nil => exact .of_eq rfl
  | cons item rest ih =>
    rw [List.flatMap_cons]
    have hitem := (siftItem_step env item p).reportsAmong
    exact (hitem.mono (List.subset_append_left _ _)).trans ((ih _).mono (List.subset_append_right _ _))

namespace Tree

/-- A step of a node asserts nothing new, and reports what the node asserts. -/
theorem NodeStep.assertions {env : Setting} {u t : Tree} {p q : Progress} (h : NodeStep env u p t q) :
    t.assertions ⊆ u.assertions ∧ ReportsAmong u.assertions p q := by
  cases h with
  | file s interpreter items before added after _ _ split imports _ diagnostics =>
    have hadded : added.flatMap Tree.assertions = [] := by
      refine List.flatMap_eq_nil_iff.mpr fun w hw => ?_
      obtain ⟨names, rfl⟩ := imports w hw
      exact importOfNeeded_assertions env names
    have hkept := sift_assertions env items p
    rw [assertions_listed _ s items (by nofun), assertions_listed _ s _ (by nofun)]
    refine ⟨?_, (sift_reportsAmong env items p).trans (.of_eq diagnostics)⟩
    rw [List.flatMap_append, List.flatMap_append, hadded, List.append_nil, ← List.flatMap_append, ← split]
    exact hkept
  | block s stmts _ _ _ diagnostics =>
    rw [assertions_listed _ s stmts (by nofun), assertions_listed _ s _ (by nofun)]
    exact ⟨sift_assertions env stmts p, (sift_reportsAmong env stmts p).trans (.of_eq diagnostics)⟩
  | rename s ms ns object y args types hook =>
    refine ⟨?_, .of_eq rfl⟩
    rw [assertions_of_ne s _ (by nofun), assertions_of_ne s _ (by nofun), List.flatMap_cons,
      List.flatMap_cons, assertions_of_ne ms [] (by nofun)]
    exact List.subset_append_right _ _
  | redirect =>
    refine ⟨?_, .of_eq rfl⟩
    simp [assertions_of_ne]
  | discard _ _ hook s =>
    refine ⟨?_, .report env _ s nofun⟩
    unfold remains
    split <;> simp [assertions_of_ne]
  | keep => exact ⟨List.Subset.refl _, .of_eq rfl⟩

/-- A converted tree asserts nothing new, and what is reported as an assertion was asserted in the tree. -/
theorem convert_assertions (env : Setting) (t : Tree) (p : Progress) :
    (t.convert env p).1.assertions ⊆ t.assertions ∧
      ReportsAmong t.assertions p (t.convert env p).2 := by
  refine convert_induction env
    (fun t p t' q => t'.assertions ⊆ t.assertions ∧ ReportsAmong t.assertions p q)
    (fun cs p cs' q => cs'.flatMap assertions ⊆ cs.flatMap assertions ∧
      ReportsAmong (cs.flatMap assertions) p q)
    ?awaited ?imported ?declared ?other ?nil ?cons t p
  case awaited =>
    intro s e p t' q _ ih
    rw [assertions_of_ne s _ (by nofun), List.flatMap_singleton]
    exact ih
  case imported =>
    intro typeOnly phase s cs p t' q h
    have hsame := convertImport_assertions env (node (.importDecl typeOnly phase) s cs) p
    have hdiagnostics := (convertImport_progress env (node (.importDecl typeOnly phase) s cs) p).2
    rw [h] at hsame hdiagnostics
    rw [hsame]
    exact ⟨List.Subset.refl _, .of_eq hdiagnostics⟩
  case declared =>
    intro definite s cs p claimed p' cs' q hclaim _ ih
    have hdiagnostics := (claimByRequire_progress env (node (.declarator definite) s cs) p).2
    rw [hclaim] at hdiagnostics
    rw [claimed_assertions, assertions_of_ne s _ (by nofun), assertions_of_ne s _ (by nofun)]
    exact ⟨ih.1, .trans (.of_eq hdiagnostics) ih.2⟩
  case other =>
    intro k s cs p cs' q t' r _ _ hamong ih hstep
    obtain ⟨hkept, hreports⟩ := hstep.assertions
    -- the node asserts with its converted children what it asserted before
    have hself := nodeAssertions_convertAmong env k s cs p
    rw [hamong] at hself
    have hnode : (node k s cs').assertions ⊆ (node k s cs).assertions := by
      rw [assertions_node, assertions_node]
      exact List.append_subset.mpr ⟨List.subset_append_of_subset_left _ hself,
        List.subset_append_of_subset_right _ ih.1⟩
    have hchildren : cs.flatMap assertions ⊆ (node k s cs).assertions := by
      rw [assertions_node]
      exact List.subset_append_right _ _
    exact ⟨List.Subset.trans hkept hnode, (ih.2.mono hchildren).trans (hreports.mono hnode)⟩
  case nil => exact fun p => ⟨List.Subset.refl _, .of_eq rfl⟩
  case cons =>
    intro c cs p c' q cs' r _ hc hcs
    rw [List.flatMap_cons, List.flatMap_cons]
    refine ⟨List.append_subset.mpr ⟨List.subset_append_of_subset_left _ hc.1,
      List.subset_append_of_subset_right _ hcs.1⟩, ?_⟩
    exact (hc.2.mono (List.subset_append_left _ _)).trans (hcs.2.mono (List.subset_append_right _ _))

end Tree

/-! ## Marks and reports in step -/

namespace Progress

/-- The positions of what was reported, in the order of the reports. -/
def reportedSpans (p : Progress) : List Span :=
  (p.diagnostics.map Diagnostic.span).filter fun s => !s.isDummy

/-- No position is reported twice, the positions reported are those marked, and every report names the file
and the lines of its place. -/
structure InStep (env : Setting) (p : Progress) : Prop where
  once : p.reportedSpans.Nodup
  marked : ∀ s, s ∈ p.visited ↔ s ∈ p.reportedSpans
  located : ∀ d ∈ p.diagnostics, d = env.diagnose d.finding d.span

theorem diagnostics_report (env : Setting) (finding : Finding) (s : Span) (p : Progress) :
    ((p.markVisited s).report env finding s).diagnostics = p.diagnostics ++ [env.diagnose finding s] := by
  show (p.markVisited s).diagnostics ++ _ = _
  rw [markVisited_diagnostics]

theorem reportedSpans_report (env : Setting) (finding : Finding) (s : Span) (p : Progress) :
    ((p.markVisited s).report env finding s).reportedSpans =
      p.reportedSpans ++ if s.isDummy then [] else [s] := by
  have hspan : (env.diagnose finding s).span = s := rfl
  rw [reportedSpans, diagnostics_report, List.map_append, List.filter_append, List.map_singleton, hspan]
  cases hs : s.isDummy <;> simp [reportedSpans, hs]

theorem mem_visited_report {env : Setting} {finding : Finding} {s x : Span} {p : Progress} :
    x ∈ ((p.markVisited s).report env finding s).visited ↔
      x ∈ p.visited ∨ x ∈ if s.isDummy then [] else [s] := by
  show x ∈ (p.markVisited s).visited ↔ _
  unfold markVisited
  cases s.isDummy <;> simp [or_comm]

/-- A place that is new was not reported yet, so that its report keeps marks and reports in step. -/
theorem InStep.report {env : Setting} {p : Progress} (h : p.InStep env) (finding : Finding) {s : Span}
    (hnew : p.isNew s = true) : ((p.markVisited s).report env finding s).InStep env := by
  refine ⟨?once, ?marked, ?located⟩
  case once =>
    rw [reportedSpans_report]
    cases hs : s.isDummy with
    | true => simpa using h.once
    | false =>
      have hfresh : s ∉ p.reportedSpans := by
        rw [← h.marked]
        simpa [isNew, hs] using hnew
      rw [if_neg Bool.false_ne_true, List.nodup_append]
      refine ⟨h.once, List.pairwise_singleton _ _, ?_⟩
      rintro a ha b hb rfl
      exact hfresh (List.mem_singleton.mp hb ▸ ha)
  case marked =>
    intro x
    rw [mem_visited_report, reportedSpans_report, List.mem_append, h.marked]
  case located =>
    intro d hd
    rw [diagnostics_report] at hd
    rcases List.mem_append.mp hd with hd | hd
    · exact h.located d hd
    · obtain rfl := List.mem_singleton.mp hd
      rfl

theorem runInvariant_inStep (env : Setting) : RunInvariant env (InStep env) where
  congr := by
    rintro p q hvisited hdiagnostics ⟨once, marked, located⟩
    have hspans : q.reportedSpans = p.reportedSpans := by rw [reportedSpans, hdiagnostics, reportedSpans]
    exact ⟨hspans ▸ once, fun s => by rw [hvisited, hspans, marked], hdiagnostics ▸ located⟩
  report finding s hnew h := h.report finding hnew

end Progress

/-! ## Diagnostics -/

/-- Whether a diagnostic is about something of the file: the name of an unsupported hook where the file calls
it, or a statement that uses an unsupported matcher of `expect` in its own code. -/
def Diagnostic.JustifiedIn (file : Tree) (d : Diagnostic) : Prop :=
  match d.finding with
  | .unsupportedHook hook =>
    Vocabulary.isUnsupportedHook hook = true ∧ ∃ u ∈ file.subtrees, u.calledMember? = some (hook, d.span)
  | .unsupportedMatcher matcher =>
    ∃ e, exprStmt d.span e ∈ file.subtrees ∧ ∃ s ms ns object args types,
      call s (member ms object (name ns matcher)) args types ∈ e.ownCalls ∧
        object.withoutParens.isCallTo "expect" = true ∧ (Vocabulary.suggestion? matcher).isSome

namespace Tree

theorem unsupportedHook?_of_mem_places {t : Tree} {hook : String} {s : Span}
    (h : Place.hook hook s ∈ t.places) : ∃ u ∈ t.subtrees, u.unsupportedHook? = some (hook, s) := by
  obtain ⟨u, hu, hplace⟩ := List.mem_flatMap.mp h
  refine ⟨u, hu, ?_⟩
  unfold nodePlaces at hplace
  split at hplace
  · simp at hplace
  · rw [Option.mem_toList, Option.map_eq_some_iff] at hplace
    obtain ⟨found, hfound, heq⟩ := hplace
    cases heq
    exact hfound

theorem expect_of_mem_assertions {t : Tree} {s : Span} {matcher : String}
    (h : (s, matcher) ∈ t.assertions) :
    ∃ e, exprStmt s e ∈ t.subtrees ∧ ∃ cs ms ns object args types,
      call cs (member ms object (name ns matcher)) args types ∈ e.ownCalls ∧
        object.withoutParens.isCallTo "expect" = true ∧ (Vocabulary.suggestion? matcher).isSome := by
  obtain ⟨u, hu, hnode⟩ := List.mem_flatMap.mp h
  by_cases hstmt : ∃ s' e, u = exprStmt s' e
  · obtain ⟨s', e, rfl⟩ := hstmt
    obtain ⟨rfl, c, hc, suggestion, hfound⟩ := mem_nodeAssertions_exprStmt.mp hnode
    obtain ⟨cs, ms, ns, object, args, types, rfl, hexpect, hsuggestion⟩ := unsupportedMatcher?_eq_some hfound
    exact ⟨e, hu, cs, ms, ns, object, args, types, hc, hexpect, by rw [hsuggestion]; rfl⟩
  · unfold nodeAssertions at hnode
    split at hnode
    · exact absurd ⟨_, _, rfl⟩ hstmt
    · cases hnode

/-- The diagnostics of a conversion that starts afresh are about pieces of the file as it was written. -/
theorem diagnostics_justified (env : Setting) (file : Tree) {p : Progress} (hstart : p.diagnostics = []) :
    ∀ d ∈ (file.convert env p).2.diagnostics, d.JustifiedIn file := by
  intro d hd
  unfold Diagnostic.JustifiedIn
  split
  · rename_i hook hfinding
    have hplace : Place.hook hook d.span ∈ (file.convert env p).2.reported := by
      refine List.mem_map.mpr ⟨d, hd, ?_⟩
      rw [Diagnostic.place, hfinding]
    -- what is reported was a place of the file, since nothing was reported before
    have hcount := convert_places env file p (.hook hook d.span)
    have hbefore : p.reported = [] := by rw [Progress.reported, hstart, List.map_nil]
    have hpos := List.count_pos_iff.mpr hplace
    rw [hbefore, List.count_nil] at hcount
    obtain ⟨u, hu, hfound⟩ := unsupportedHook?_of_mem_places (List.count_pos_iff.mp
      (show 0 < file.places.count (.hook hook d.span) by omega))
    obtain ⟨hmember, hunsupported⟩ := unsupportedHook?_eq_some hfound
    exact ⟨hunsupported, u, hu, hmember⟩
  · rename_i matcher hfinding
    rcases (convert_assertions env file p).2 d hd with hold | hnew
    · simp [hstart] at hold
    · exact expect_of_mem_assertions (hnew matcher hfinding)

/-- Diagnostics are sound and never repeated. A conversion that starts afresh reports only what the file holds
as it was written; no position is reported twice, and those reported are the ones marked; and every
diagnostic names the file and the lines of its span. -/
theorem convert_diagnostics (env : Setting) (file : Tree) (bindings : List String)
    (deferred : Option Span) (comments : CommentStore) :
    let q := (file.convert env { bindings, deferred, comments }).2
    (∀ d ∈ q.diagnostics, d.JustifiedIn file) ∧
      ((q.diagnostics.map Diagnostic.span).filter fun s => !s.isDummy).Nodup ∧
      (∀ s, s ∈ q.visited ↔ s ≠ Span.dummy ∧ ∃ d ∈ q.diagnostics, d.span = s) ∧
      ∀ d ∈ q.diagnostics,
        d.filename = env.filename ∧ (d.startLine, d.endLine) = env.source.lineRange d.span := by
  intro q
  have hstart : Progress.InStep env { bindings, deferred, comments } :=
    ⟨List.nodup_nil, fun _ => Iff.rfl, fun _ hd => nomatch hd⟩
  have hstep : q.InStep env := (Progress.runInvariant_inStep env).convert file hstart
  refine ⟨diagnostics_justified env file rfl, hstep.once, fun s => ?_, fun d hd => ?_⟩
  · rw [hstep.marked, Progress.reportedSpans, List.mem_filter, List.mem_map, and_comm]
    simp [Span.isDummy]
  · rw [hstep.located d hd]
    exact ⟨rfl, rfl⟩

end Tree

end JourneyMigration
