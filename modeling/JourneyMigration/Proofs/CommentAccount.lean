import JourneyMigration.Proofs.Dealings
import Mathlib.Data.List.Perm.Basic

/-!
# The account of comments — none is lost, made up or filed twice.

The comments in place of an assertion are filed at once if a statement stays in front of it. Otherwise they
wait, for the first statement that stays or for the end of the list. The law is that the comments filed and
the comments that wait are together a permutation of what the reported assertions stand for. It holds after
every item of every list, and when a list comes to an end nothing waits any more, provided the list has a
position of last resort: the start of the file, or the closing brace of the block.
-/

namespace JourneyMigration

open JourneyMigration.Tree

/-! ## Stores that grow -/

namespace CommentStore

/-- Every comment of a store. -/
def all (s : CommentStore) : List Comment := (s.leading ++ s.trailing).map Prod.snd

theorem append_empty (s : CommentStore) : s.append empty = s := by
  simp [append, empty]

theorem append_assoc (s t u : CommentStore) : (s.append t).append u = s.append (t.append u) := by
  simp [append]

theorem all_append (s t : CommentStore) : (s.append t).all.Perm (s.all ++ t.all) := by
  unfold all append
  simp only [List.map_append, List.append_assoc]
  -- the leading comments of the second store come before the trailing ones of the first
  exact List.Perm.append_left _ (List.perm_append_comm_assoc _ _ _)

theorem addLeading_eq (pos : Nat) (cs : List Comment) (s : CommentStore) :
    s.addLeading pos cs = s.append ⟨cs.map (pos, ·), []⟩ := by
  simp [addLeading, CommentList.add, append]

theorem addTrailing_eq (pos : Nat) (cs : List Comment) (s : CommentStore) :
    s.addTrailing pos cs = s.append ⟨[], cs.map (pos, ·)⟩ := by
  simp [addTrailing, CommentList.add, append]

theorem all_leading (pos : Nat) (cs : List Comment) : all ⟨cs.map (pos, ·), []⟩ = cs := by
  simp [all, Function.comp_def]

theorem all_trailing (pos : Nat) (cs : List Comment) : all ⟨[], cs.map (pos, ·)⟩ = cs := by
  simp [all, Function.comp_def]

theorem leadingAt_append (pos : Nat) (s t : CommentStore) :
    (s.append t).leadingAt pos = s.leadingAt pos ++ t.leadingAt pos := by
  simp [leadingAt, CommentList.commentsAt, append]

theorem trailingAt_append (pos : Nat) (s t : CommentStore) :
    (s.append t).trailingAt pos = s.trailingAt pos ++ t.trailingAt pos := by
  simp [trailingAt, CommentList.commentsAt, append]

end CommentStore

/-! ## What a report stands for -/

/-- The comments that a report stands for: those in place of the assertion, none for a hook. -/
def Setting.replacement (env : Setting) (d : Diagnostic) : List Comment :=
  match d.finding with
  | .unsupportedMatcher m =>
    (Vocabulary.suggestion? m).toList.flatMap fun suggestion =>
      Comment.inPlaceOf suggestion (env.source.snippet? d.span)
  | .unsupportedHook _ => []

/-- A statement that is commented out gives way to what its report stands for. -/
theorem Tree.commentOut?_replacement {env : Setting} {t : Tree} {p q : Progress} {cs : List Comment}
    (h : t.commentOut? env p = some (cs, q)) :
    ∃ s m, q = (p.markVisited s).report env (.unsupportedMatcher m) s ∧
      cs = env.replacement (env.diagnose (.unsupportedMatcher m) s) := by
  unfold commentOut? at h
  split at h
  · rename_i s e
    split at h
    · rename_i m suggestion hfound
      split at h
      · cases h
        -- the search has looked the suggestion up under the name of the matcher
        rw [findCallInStatement?_eq] at hfound
        obtain ⟨u, _, hu⟩ := List.exists_of_findSome?_eq_some hfound
        obtain ⟨_, _, _, _, _, _, _, _, hsuggestion⟩ := unsupportedMatcher?_eq_some hu
        refine ⟨s, m, rfl, ?_⟩
        simp only [Setting.replacement, Setting.diagnose, hsuggestion, Option.toList_some,
          List.flatMap_singleton]
      · cases h
    · cases h
  · cases h

/-! ## The account -/

namespace Progress

/-- What was filed since, together with what waits, is what the reports since then stand for. -/
def Accounts (env : Setting) (p q : Progress) (waiting : List Comment) : Prop :=
  ∃ filed reports, q.comments = p.comments.append filed ∧ q.diagnostics = p.diagnostics ++ reports ∧
    (filed.all ++ waiting).Perm (reports.flatMap env.replacement)

variable {env : Setting} {p q r : Progress} {waiting : List Comment}

theorem Accounts.refl (env : Setting) (p : Progress) : p.Accounts env p [] := by
  refine ⟨.empty, [], ?_, ?_, ?_⟩
  · rw [CommentStore.append_empty]
  · rw [List.append_nil]
  · exact .refl _

theorem Accounts.trans (hp : p.Accounts env q []) (hq : q.Accounts env r waiting) :
    p.Accounts env r waiting := by
  obtain ⟨filed, reports, hcomments, hdiagnostics, hperm⟩ := hp
  obtain ⟨filed', reports', hcomments', hdiagnostics', hperm'⟩ := hq
  rw [List.append_nil] at hperm
  refine ⟨filed.append filed', reports ++ reports', ?_, ?_, ?_⟩
  · rw [hcomments', hcomments, CommentStore.append_assoc]
  · rw [hdiagnostics', hdiagnostics, List.append_assoc]
  · rw [List.flatMap_append]
    calc ((filed.append filed').all ++ waiting).Perm ((filed.all ++ filed'.all) ++ waiting) :=
          (CommentStore.all_append filed filed').append_right waiting
      _ = filed.all ++ (filed'.all ++ waiting) := List.append_assoc _ _ _
      _ |>.Perm (reports.flatMap env.replacement ++ reports'.flatMap env.replacement) :=
          hperm.append hperm'

/-- Names and waiting imports do not count. -/
theorem Accounts.withNames (h : p.Accounts env q waiting) {names : List String} {import? : Option Span}
    (hr : r = q.withNames names import?) : p.Accounts env r waiting := by
  subst hr
  exact h

/-- What waits can be added to the store in any way that keeps it together. -/
theorem Accounts.file (h : p.Accounts env q waiting) {more : CommentStore}
    (hcomments : r.comments = q.comments.append more) (hmore : more.all = waiting)
    (hdiagnostics : r.diagnostics = q.diagnostics) : p.Accounts env r [] := by
  obtain ⟨filed, reports, hq, hreports, hperm⟩ := h
  refine ⟨filed.append more, reports, ?_, ?_, ?_⟩
  · rw [hcomments, hq, CommentStore.append_assoc]
  · rw [hdiagnostics, hreports]
  · rw [List.append_nil]
    exact (CommentStore.all_append filed more).trans (hmore ▸ hperm)

theorem Accounts.addLeading (h : p.Accounts env q waiting) (pos : Nat) :
    p.Accounts env (q.addLeading pos waiting) [] :=
  h.file (CommentStore.addLeading_eq pos waiting q.comments) (CommentStore.all_leading pos waiting) rfl

theorem Accounts.addTrailing (h : p.Accounts env q waiting) (pos : Nat) :
    p.Accounts env (q.addTrailing pos waiting) [] :=
  h.file (CommentStore.addTrailing_eq pos waiting q.comments) (CommentStore.all_trailing pos waiting) rfl

/-- With a report, what it stands for has to wait. -/
theorem Accounts.report (h : p.Accounts env q waiting) (finding : Finding) (s : Span) :
    p.Accounts env ((q.markVisited s).report env finding s)
      (waiting ++ env.replacement (env.diagnose finding s)) := by
  obtain ⟨filed, reports, hq, hreports, hperm⟩ := h
  refine ⟨filed, reports ++ [env.diagnose finding s], ?_, ?_, ?_⟩
  · exact (markVisited_comments s q).trans hq
  · show (q.markVisited s).diagnostics ++ [env.diagnose finding s] = _
    rw [markVisited_diagnostics, hreports, List.append_assoc]
  · rw [List.flatMap_append, List.flatMap_singleton, ← List.append_assoc]
    exact hperm.append_right _

end Progress

/-! ## Statement lists -/

namespace Listing

variable {env : Setting} {p : Progress}

theorem push_accounts {l : Listing} (h : p.Accounts env l.progress l.pending) (item : Tree) :
    p.Accounts env (l.push item).progress (l.push item).pending := by
  unfold push
  dsimp only
  split
  · exact h
  · exact h.addLeading item.span.lo

theorem foldl_push_accounts {l : Listing} (h : p.Accounts env l.progress l.pending)
    (ts : List Tree) :
    p.Accounts env (ts.foldl push l).progress (ts.foldl push l).pending := by
  induction ts generalizing l with
  | nil => exact h
  | cons t ts ih => exact ih (push_accounts h t)

theorem comment_accounts {l : Listing} {cs : List Comment}
    (h : p.Accounts env l.progress (l.pending ++ cs)) :
    p.Accounts env (l.comment cs).progress (l.comment cs).pending := by
  unfold comment
  split
  · rename_i last _
    split
    · -- the comments go behind the last statement only if none waits in front of them
      rename_i hlast
      have hempty : l.pending = [] := List.isEmpty_iff.mp (Bool.and_eq_true_iff.mp hlast).2
      rw [hempty, List.nil_append] at h
      show p.Accounts env (l.progress.addTrailing last.span.hi cs) l.pending
      rw [hempty]
      exact h.addTrailing last.span.hi
    · exact h
  · exact h

/-- Dealing with an item keeps the account. -/
theorem step_accounts {l : Listing} (h : p.Accounts env l.progress l.pending) (item : Tree) :
    p.Accounts env (l.step env item).progress (l.step env item).pending := by
  unfold step
  split
  · exact push_accounts h item
  · split
    · exact h
    · split
      · rename_i cs q hcomment
        obtain ⟨s, m, rfl, rfl⟩ := commentOut?_replacement hcomment
        exact comment_accounts (h.report (.unsupportedMatcher m) s)
      · split
        · exact foldl_push_accounts h _
        · exact push_accounts h item

theorem foldl_step_accounts {l : Listing} (h : p.Accounts env l.progress l.pending)
    (items : List Tree) :
    p.Accounts env (items.foldl (step env) l).progress (items.foldl (step env) l).pending := by
  induction items generalizing l with
  | nil => exact h
  | cons item items ih => exact ih (step_accounts h item)

end Listing

/-- A list with a position of last resort ends with nothing waiting. -/
theorem convertStatements_accounts (env : Setting) (items : List Tree) {fallback : Nat}
    (hfallback : fallback ≠ 0) (p : Progress) :
    p.Accounts env (convertStatements env items fallback p).2 [] := by
  have h := Listing.foldl_step_accounts (l := ⟨[], [], p⟩) (Progress.Accounts.refl env p) items
  unfold convertStatements Listing.finish
  split
  · rename_i hnone
    have hempty : (items.foldl (Listing.step env) ⟨[], [], p⟩).pending = [] := by
      simpa [hfallback] using hnone
    rw [hempty] at h
    exact h
  · exact h.addLeading fallback

/-! ## Nodes and trees -/

namespace Tree

/-- Whether a node that holds a statement list has a position of last resort: a file that starts somewhere,
a block with a closing brace. -/
def hasResort (t : Tree) : Bool :=
  match t.kind with
  | .program _ => t.ownSpan.lo != 0
  | .block => 1 < t.ownSpan.hi
  | _ => true

theorem closingBrace_ne_zero {s : Span} (h : 1 < s.hi) : closingBrace s ≠ 0 := by
  have hreal : s ≠ Span.dummy := by
    rintro rfl
    exact absurd h (by decide)
  unfold closingBrace
  rw [if_neg (mt (Span.isDummy_iff s).mp hreal)]
  omega

theorem discard?_accounts {env : Setting} {found : Option (String × Span)} {p q : Progress}
    (h : discard? env found p = some q) : p.Accounts env q [] := by
  obtain ⟨hook, s, _, _, rfl⟩ := discard?_eq_some h
  exact (Progress.Accounts.refl env p).report (.unsupportedHook hook) s

/-- A node that has a position of last resort keeps the account. -/
theorem convertNode_accounts (env : Setting) {t : Tree} (ht : t.hasResort = true) (p : Progress) :
    p.Accounts env (convertNode env t p).2 [] := by
  unfold convertNode
  split
  · rename_i interpreter s items
    have hlist := convertStatements_accounts env items (bne_iff_ne.mp ht) p
    obtain ⟨names, hnames⟩ := addDeferredImport_withNames env
      (convertStatements env items s.lo p).1 (convertStatements env items s.lo p).2
    exact hlist.withNames hnames
  · rename_i s stmts
    exact convertStatements_accounts env stmts (closingBrace_ne_zero (of_decide_eq_true ht)) p
  · split
    · exact discard?_accounts ‹_›
    · exact .refl env p
  · exact .refl env p
  · split
    · split
      · exact discard?_accounts ‹_›
      · exact .refl env p
    · exact .refl env p

/-- A traversal of a tree in which every list has a position of last resort keeps the account. -/
theorem convert_accounts (env : Setting) (t : Tree) (p : Progress)
    (ht : ∀ u ∈ t.subtrees, u.hasResort = true) : p.Accounts env (t.convert env p).2 [] := by
  refine dealings_induction env
    (fun t p _ q _ => (∀ u ∈ t.subtrees, u.hasResort = true) → p.Accounts env q [])
    (fun cs p _ q _ => (∀ c ∈ cs, ∀ u ∈ c.subtrees, u.hasResort = true) → p.Accounts env q [])
    ?awaited ?imported ?declared ?other ?nil ?cons t p ht
  case awaited =>
    intro s e p t' q ds _ _ ih ht
    exact ih (forall_subtrees_child ht e List.mem_cons_self)
  case imported =>
    intro typeOnly phase s cs p t' q h _
    obtain ⟨names, waiting, hnames⟩ :=
      convertImport_withNames env (node (.importDecl typeOnly phase) s cs) p
    rw [h] at hnames
    exact (Progress.Accounts.refl env p).withNames hnames
  case declared =>
    intro definite s cs p claimed p' cs' q t' ds hclaim _ ih _ ht
    obtain ⟨names, hnames⟩ := claimByRequire_withNames env (node (.declarator definite) s cs) p
    rw [hclaim] at hnames
    have hstart : p.Accounts env p' [] := (Progress.Accounts.refl env p).withNames hnames
    exact hstart.trans (ih (forall_subtrees_child ht))
  case other =>
    intro k s cs p cs' q t' r ds _ _ _ ih hnode ht
    -- having a resort is a matter of kind and span, and both are as they were
    have hresort : (node k s cs').hasResort = true := ht (node k s cs) (self_mem_subtrees _)
    have hstep := convertNode_accounts env hresort q
    rw [hnode] at hstep
    exact (ih (forall_subtrees_child ht)).trans hstep
  case nil => exact fun p _ => .refl env p
  case cons =>
    intro c cs p c' q cs' r ds ds' _ hc hcs ht
    refine (hc (ht c List.mem_cons_self)).trans (hcs fun d hd => ht d (List.mem_cons_of_mem c hd))

/-- Converting a file takes no comment away. What it adds at a position comes behind what was there, and
all that it adds is, in some order, what the assertions it reports stand for. -/
theorem convert_comments (env : Setting) (file : Tree) (p : Progress)
    (hresort : ∀ u ∈ file.subtrees, u.hasResort = true) :
    let q := (file.convert env p).2
    (∀ pos, p.comments.leadingAt pos <+: q.comments.leadingAt pos ∧
      p.comments.trailingAt pos <+: q.comments.trailingAt pos) ∧
    ∃ reports, q.diagnostics = p.diagnostics ++ reports ∧
      q.comments.all.Perm (p.comments.all ++ reports.flatMap env.replacement) := by
  intro q
  obtain ⟨filed, reports, hcomments, hdiagnostics, hperm⟩ := convert_accounts env file p hresort
  rw [List.append_nil] at hperm
  refine ⟨fun pos => ⟨?_, ?_⟩, reports, hdiagnostics, ?_⟩
  · rw [hcomments, CommentStore.leadingAt_append]
    exact List.prefix_append _ _
  · rw [hcomments, CommentStore.trailingAt_append]
    exact List.prefix_append _ _
  · rw [hcomments]
    exact (CommentStore.all_append p.comments filed).trans (hperm.append_left _)

/-- `open();` -/
def openingAt (lo : Nat) : Tree :=
  exprStmt ⟨lo, lo + 7⟩ (call ⟨lo, lo + 6⟩ (ident ⟨lo, lo + 4⟩ "open" false) [] absent)

/-- `expect(a).toBeOK();` -/
def assertionAt (lo : Nat) : Tree :=
  exprStmt ⟨lo, lo + 19⟩
    (call ⟨lo, lo + 18⟩
      (member ⟨lo, lo + 16⟩
        (call ⟨lo, lo + 9⟩ (ident ⟨lo, lo + 6⟩ "expect" false)
          [arg none (ident ⟨lo + 7, lo + 8⟩ "a" false)] absent)
        (name ⟨lo + 10, lo + 16⟩ "toBeOK")) [] absent)

/-- `open();expect(a).toBeOK();{expect(a).toBeOK();}` -/
def listFile : Tree :=
  program ⟨1, 48⟩ none [openingAt 1, assertionAt 8, blockStmt (block ⟨27, 48⟩ [assertionAt 28])]

theorem convert_comments_listFile :
    (∀ u ∈ listFile.subtrees, u.hasResort = true) ∧
      let env : Setting :=
        { filename := "a.ts", source := .ofString "open();expect(a).toBeOK();{expect(a).toBeOK();}" }
      let q := (listFile.convert env {}).2
      q.diagnostics.length = 2 ∧
      q.comments.trailingAt 8 =
        Comment.inPlaceOf "await response.status()" (some "expect(a).toBeOK();") ∧
      q.comments.leadingAt 47 =
        Comment.inPlaceOf "await response.status()" (some "expect(a).toBeOK();") ∧
      q.comments.all.Perm (q.diagnostics.flatMap env.replacement) := by
  refine ⟨by decide, by decide +kernel, by decide +kernel, by decide +kernel, ?_⟩
  obtain ⟨_, reports, hreports, hperm⟩ := convert_comments
    { filename := "a.ts", source := .ofString "open();expect(a).toBeOK();{expect(a).toBeOK();}" }
    listFile {} (by decide)
  rw [hreports]
  exact hperm

end Tree

end JourneyMigration
