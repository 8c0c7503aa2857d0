import JourneyMigration.Conversion.Traversal
import JourneyMigration.Proofs.Subtrees

/-!
# Traversal steps — all that the conversion of a list, of a node and of a tree can do.

Each part of the traversal is opened here once. A statement list is sifted item by item (`sift`), comments
apart; a node whose children are converted takes one of six steps (`NodeStep`); and a whole traversal is an
induction over these (`convert_induction`), from which every invariant of a run follows.
-/

namespace JourneyMigration

open JourneyMigration.Tree

/-! ## Progress, comments apart -/

namespace Progress

/-- The same progress with other comments. -/
def withComments (c : CommentStore) (p : Progress) : Progress := { p with comments := c }

@[simp]
theorem withComments_withComments (c d : CommentStore) (p : Progress) :
    (p.withComments c).withComments d = p.withComments d := rfl

theorem withComments_self (p : Progress) : p.withComments p.comments = p := rfl

theorem markVisited_diagnostics (s : Span) (p : Progress) :
    (p.markVisited s).diagnostics = p.diagnostics := by
  unfold markVisited
  split <;> rfl

theorem markVisited_comments (s : Span) (p : Progress) :
    (p.markVisited s).comments = p.comments := by
  unfold markVisited
  split <;> rfl

/-- A place is not new exactly if it has a position and was marked. -/
theorem isNew_eq_false_iff {p : Progress} {s : Span} :
    p.isNew s = false ↔ s ≠ Span.dummy ∧ s ∈ p.visited := by
  simp [isNew, Span.isDummy]

end Progress

/-- Filing comments apart, commenting out a statement does not look at the comments there are. -/
theorem Tree.commentOut?_withComments (env : Setting) (t : Tree) (c : CommentStore) (p : Progress) :
    t.commentOut? env (p.withComments c) =
      (t.commentOut? env p).map fun r => (r.1, r.2.withComments c) := by
  have hnew : ∀ s, (p.withComments c).isNew s = p.isNew s := fun _ => rfl
  have hmark : ∀ s m, ((p.withComments c).markVisited s).report env m s =
      ((p.markVisited s).report env m s).withComments c := by
    intro s m
    unfold Progress.markVisited
    cases s.isDummy <;> rfl
  unfold commentOut?
  split
  · split
    · rw [hnew, hmark]
      split <;> rfl
    · rfl
  · rfl

/-! ## One item after the other -/

/-- What becomes of one item of a statement list, and what progress it makes. -/
def siftItem (env : Setting) (item : Tree) (p : Progress) : List Tree × Progress :=
  if !item.kind.isStatement then ([item], p)
  else if item.isPlaceholder then ([], p)
  else
    match item.commentOut? env p with
    | some (_, q) => ([], q)
    | none =>
      match item.testsOfSuite? with
      | some tests => (tests, p)
      | none => ([item], p)

/-- What becomes of a statement list, comments apart. -/
def sift (env : Setting) : List Tree → Progress → List Tree × Progress
  | [], p => ([], p)
  | item :: rest, p =>
    ((siftItem env item p).1 ++ (sift env rest (siftItem env item p).2).1,
      (sift env rest (siftItem env item p).2).2)

/-- The steps that an item of a statement list can take: what is kept of it, and the progress. -/
inductive SiftStep (env : Setting) : Tree → Progress → List Tree → Progress → Prop
  /-- An item that asks for nothing stays. -/
  | stay (item : Tree) (p : Progress) (solid : item.isPlaceholder = false)
      (spared : item.commentOut? env p = none) (plain : item.testsOfSuite? = none) :
      SiftStep env item p [item] p
  /-- A placeholder goes. -/
  | empty (item : Tree) (p : Progress) (placeholder : item.isPlaceholder = true) :
      SiftStep env item p [] p
  /-- An unsupported assertion goes and is reported. -/
  | assertion (s : Span) (e : Tree) (p : Progress) (matcher suggestion : String)
      (found : (exprStmt s e).findCallInStatement? unsupportedMatcher? = some (matcher, suggestion))
      (new : p.isNew s = true) :
      SiftStep env (exprStmt s e) p [] ((p.markVisited s).report env (.unsupportedMatcher matcher) s)
  /-- A suite gives way to its tests. -/
  | suite (item : Tree) (p : Progress) (tests : List Tree) (found : item.testsOfSuite? = some tests) :
      SiftStep env item p tests p

/-- Only an expression statement is commented out, for an assertion whose place is new. -/
theorem Tree.commentOut?_eq_some {env : Setting} {t : Tree} {p q : Progress} {cs : List Comment}
    (h : t.commentOut? env p = some (cs, q)) :
    ∃ s e matcher suggestion, t = exprStmt s e ∧
      t.findCallInStatement? unsupportedMatcher? = some (matcher, suggestion) ∧
      p.isNew s = true ∧ q = (p.markVisited s).report env (.unsupportedMatcher matcher) s := by
  unfold commentOut? at h
  split at h
  · split at h
    · split at h
      · cases h
        exact ⟨_, _, _, _, rfl, ‹_›, ‹_›, rfl⟩
      · cases h
    · cases h
  · cases h

theorem Tree.isStatement_of_isPlaceholder {t : Tree} (h : t.isPlaceholder = true) :
    t.kind.isStatement = true := by
  unfold isPlaceholder at h
  split at h
  · rfl
  · cases h

theorem Tree.statementCall?_eq_some {stmt e : Tree} :
    stmt.statementCall? = some e ↔ ∃ s inner, stmt = exprStmt s inner ∧ inner.withoutAwaits = e ∧
      ∃ cs callee args types, e = call cs callee args types := by
  constructor
  · intro h
    unfold statementCall? at h
    split at h
    · split at h
      · rename_i heq
        cases h
        exact ⟨_, _, rfl, heq, _, _, _, _, rfl⟩
      · cases h
    · cases h
  · rintro ⟨s, inner, rfl, hinner, cs, callee, args, types, rfl⟩
    unfold statementCall?
    dsimp only
    rw [hinner]
    rfl

/-- A suite is an expression statement that calls `x.describe(...)` on functions with tests in them. -/
theorem Tree.testsOfSuite?_eq_some {stmt : Tree} {tests : List Tree}
    (h : stmt.testsOfSuite? = some tests) :
    ∃ s inner cs callee args types, stmt = exprStmt s inner ∧
      inner.withoutAwaits = call cs callee args types ∧
      (call cs callee args types).calledHook? = some .describe ∧
      tests = args.flatMap testsOfArgument := by
  unfold testsOfSuite? at h
  split at h
  · rename_i cs callee args types hcall
    obtain ⟨s, inner, hstmt, hinner, _⟩ := statementCall?_eq_some.mp hcall
    split at h
    · rename_i hhook
      dsimp only at h
      split at h
      · cases h
      · cases h
        exact ⟨s, inner, cs, callee, args, types, hstmt, hinner, hhook, rfl⟩
    · cases h
  · cases h

theorem Tree.isStatement_of_testsOfSuite? {t : Tree} {tests : List Tree}
    (h : t.testsOfSuite? = some tests) : t.kind.isStatement = true := by
  obtain ⟨_, _, _, _, _, _, rfl, _⟩ := testsOfSuite?_eq_some h
  rfl

/-- What is not a statement is no placeholder, no assertion and no suite. -/
theorem Tree.of_not_isStatement {item : Tree} (h : item.kind.isStatement = false) (env : Setting) (p : Progress) :
    item.isPlaceholder = false ∧ item.commentOut? env p = none ∧ item.testsOfSuite? = none := by
  refine ⟨?_, ?_, ?_⟩
  · cases hplaceholder : item.isPlaceholder with
    | false => rfl
    | true =>
      rw [isStatement_of_isPlaceholder hplaceholder] at h
      cases h
  · cases hcomment : item.commentOut? env p with
    | none => rfl
    | some r =>
      obtain ⟨s, e, _, _, rfl, _⟩ := commentOut?_eq_some hcomment
      cases h
  · cases hsuite : item.testsOfSuite? with
    | none => rfl
    | some tests =>
      rw [isStatement_of_testsOfSuite? hsuite] at h
      cases h

/-- Sifting an item is one of the steps. -/
theorem siftItem_step (env : Setting) (item : Tree) (p : Progress) :
    SiftStep env item p (siftItem env item p).1 (siftItem env item p).2 := by
  unfold siftItem
  cases hstatement : item.kind.isStatement with
  | false =>
    obtain ⟨hsolid, hspared, hplain⟩ := of_not_isStatement hstatement env p
    exact .stay item p hsolid hspared hplain
  | true =>
    cases hplaceholder : item.isPlaceholder with
    | true => exact .empty item p hplaceholder
    | false =>
      cases hcomment : item.commentOut? env p with
      | some r =>
        obtain ⟨s, e, matcher, suggestion, rfl, hfound, hnew, hq⟩ := commentOut?_eq_some hcomment
        dsimp only
        rw [hq]
        exact .assertion s e p matcher suggestion hfound hnew
      | none =>
        cases hsuite : item.testsOfSuite? with
        | some tests => exact .suite item p tests hsuite
        | none => exact .stay item p hplaceholder hcomment hsuite

namespace Listing

theorem push_items (l : Listing) (item : Tree) : (l.push item).items = l.items ++ [item] := by
  unfold push
  dsimp only
  split <;> rfl

theorem push_progress (l : Listing) (item : Tree) :
    ∃ c, (l.push item).progress = l.progress.withComments c := by
  unfold push
  dsimp only
  split
  · exact ⟨l.progress.comments, rfl⟩
  · exact ⟨_, rfl⟩

theorem foldl_push (ts : List Tree) (l : Listing) :
    (ts.foldl push l).items = l.items ++ ts ∧
      ∃ c, (ts.foldl push l).progress = l.progress.withComments c := by
  induction ts generalizing l with
  | nil => exact ⟨(List.append_nil _).symm, l.progress.comments, rfl⟩
  | cons t ts ih =>
    obtain ⟨hitems, c, hprogress⟩ := ih (l.push t)
    obtain ⟨d, hpush⟩ := push_progress l t
    refine ⟨?_, c, ?_⟩
    · rw [List.foldl_cons, hitems, push_items, List.append_assoc, List.singleton_append]
    · rw [List.foldl_cons, hprogress, hpush, Progress.withComments_withComments]

theorem comment_items (l : Listing) (cs : List Comment) : (l.comment cs).items = l.items := by
  unfold comment
  split
  · split <;> rfl
  · rfl

theorem comment_progress (l : Listing) (cs : List Comment) :
    ∃ c, (l.comment cs).progress = l.progress.withComments c := by
  unfold comment
  split
  · split
    · exact ⟨_, rfl⟩
    · exact ⟨l.progress.comments, rfl⟩
  · exact ⟨l.progress.comments, rfl⟩

/-- Dealing with an item of the old list is sifting it, comments apart. -/
theorem step_sift (env : Setting) (l : Listing) (item : Tree) (c : CommentStore) (p : Progress)
    (hp : l.progress = p.withComments c) :
    (l.step env item).items = l.items ++ (siftItem env item p).1 ∧
      ∃ d, (l.step env item).progress = (siftItem env item p).2.withComments d := by
  have hpush : (l.push item).items = l.items ++ [item] ∧
      ∃ d, (l.push item).progress = p.withComments d := by
    obtain ⟨d, hd⟩ := push_progress l item
    exact ⟨push_items l item, d, by rw [hd, hp, Progress.withComments_withComments]⟩
  -- both go the same four ways; the list files comments on top
  unfold step siftItem
  rw [hp, commentOut?_withComments]
  split
  · exact hpush
  · split
    · exact ⟨(List.append_nil _).symm, c, hp⟩
    · cases item.commentOut? env p with
      | some r =>
        obtain ⟨d, hd⟩ := comment_progress { l with progress := r.2.withComments c } r.1
        refine ⟨?_, d, hd⟩
        exact (comment_items _ _).trans (List.append_nil _).symm
      | none =>
        cases item.testsOfSuite? with
        | some tests =>
          obtain ⟨hitems, d, hd⟩ := foldl_push tests l
          rw [hp, Progress.withComments_withComments] at hd
          exact ⟨hitems, d, hd⟩
        | none => exact hpush

theorem foldl_step_sift (env : Setting) (items : List Tree) (l : Listing) (c : CommentStore)
    (p : Progress) (hp : l.progress = p.withComments c) :
    (items.foldl (step env) l).items = l.items ++ (sift env items p).1 ∧
      ∃ d, (items.foldl (step env) l).progress = (sift env items p).2.withComments d := by
  induction items generalizing l c p with
  | nil => exact ⟨(List.append_nil _).symm, c, hp⟩
  | cons item rest ih =>
    obtain ⟨hitems, d, hd⟩ := step_sift env l item c p hp
    obtain ⟨hrest, e, he⟩ := ih (l.step env item) d (siftItem env item p).2 hd
    refine ⟨?_, e, he⟩
    rw [List.foldl_cons, hrest, hitems, List.append_assoc]
    rfl

end Listing

/-- Converting a statement list is sifting it, comments apart. -/
theorem convertStatements_sift (env : Setting) (items : List Tree) (fallback : Nat) (p : Progress) :
    ∃ c, convertStatements env items fallback p =
      ((sift env items p).1, (sift env items p).2.withComments c) := by
  obtain ⟨hitems, c, hc⟩ :=
    Listing.foldl_step_sift env items ⟨[], [], p⟩ p.comments p p.withComments_self.symm
  unfold convertStatements Listing.finish
  split
  · exact ⟨c, by rw [hitems, hc, List.nil_append]⟩
  · exact ⟨_, by rw [hitems, hc, List.nil_append]; rfl⟩

/-! ## Names that are taken up -/

theorem Progress.claim_eq (names : List String) (p : Progress) :
    (p.claim names).2 = { p with bindings := (p.claim names).2.bindings } := by
  induction names generalizing p with
  | nil => rfl
  | cons n names ih =>
    rw [Progress.claim]
    split
    · exact ih p
    · exact ih (p.bind n)

@[simp]
theorem Progress.claim_visited (names : List String) (p : Progress) :
    (p.claim names).2.visited = p.visited := by
  rw [Progress.claim_eq]

@[simp]
theorem Progress.claim_diagnostics (names : List String) (p : Progress) :
    (p.claim names).2.diagnostics = p.diagnostics := by
  rw [Progress.claim_eq]

namespace Tree

/-- The import that is added for needed names. -/
def importOfNeeded (env : Setting) (names : List String) : Tree :=
  importDecl Span.dummy false .evaluation (names.map neededSpecifier)
    (str Span.dummy env.vocabulary.targetPackage none) absent

theorem insertIdx_split {α : Type} (i : Nat) (x : α) (l : List α) :
    ∃ before added after, l = before ++ after ∧ l.insertIdx i x = before ++ added ++ after ∧
      ∀ u ∈ added, u = x := by
  induction l generalizing i with
  | nil =>
    cases i with
    | zero => exact ⟨[], [x], [], rfl, rfl, fun _ hu => List.mem_singleton.mp hu⟩
    | succ i => exact ⟨[], [], [], rfl, rfl, fun _ hu => nomatch hu⟩
  | cons y l ih =>
    cases i with
    | zero => exact ⟨[], [x], y :: l, rfl, rfl, fun _ hu => List.mem_singleton.mp hu⟩
    | succ i =>
      obtain ⟨before, added, after, hl, hinsert, hadded⟩ := ih i
      refine ⟨y :: before, added, after, congrArg (y :: ·) hl, ?_, hadded⟩
      rw [List.insertIdx_succ_cons, hinsert]
      rfl

/-- The import that waited, if any, is put among the items, which stay in order. -/
theorem addDeferredImport_split (env : Setting) (items : List Tree) (p : Progress) :
    ∃ before added after, items = before ++ after ∧
      (addDeferredImport env items p).1 = before ++ added ++ after ∧
      ∀ u ∈ added, ∃ names, u = importOfNeeded env names := by
  unfold addDeferredImport
  split
  · exact ⟨items, [], [], (List.append_nil _).symm, by simp, fun _ hu => nomatch hu⟩
  · dsimp only
    split
    · exact ⟨items, [], [], (List.append_nil _).symm, by simp, fun _ hu => nomatch hu⟩
    · obtain ⟨before, added, after, hsplit, hinsert, hadded⟩ := insertIdx_split _ _ items
      exact ⟨before, added, after, hsplit, hinsert, fun u hu => ⟨_, hadded u hu⟩⟩

/-- Adding an import marks and reports nothing. -/
theorem addDeferredImport_progress (env : Setting) (items : List Tree) (p : Progress) :
    (addDeferredImport env items p).2.visited = p.visited ∧
      (addDeferredImport env items p).2.diagnostics = p.diagnostics := by
  unfold addDeferredImport
  split
  · exact ⟨rfl, rfl⟩
  · dsimp only
    split
    · exact ⟨Progress.claim_visited _ _, Progress.claim_diagnostics _ _⟩
    · exact ⟨Progress.claim_visited _ _, Progress.claim_diagnostics _ _⟩

/-- An import marks and reports nothing. -/
theorem convertImport_progress (env : Setting) (t : Tree) (p : Progress) :
    (convertImport env t p).2.visited = p.visited ∧
      (convertImport env t p).2.diagnostics = p.diagnostics := by
  unfold convertImport
  split
  · split
    · dsimp only
      split
      · exact ⟨rfl, rfl⟩
      · split
        · exact ⟨rfl, rfl⟩
        · exact ⟨Progress.claim_visited _ _, Progress.claim_diagnostics _ _⟩
    · exact ⟨rfl, rfl⟩
  · exact ⟨rfl, rfl⟩

/-- A declarator that claims names marks and reports nothing. -/
theorem claimByRequire_progress (env : Setting) (t : Tree) (p : Progress) :
    (t.claimByRequire env p).2.visited = p.visited ∧
      (t.claimByRequire env p).2.diagnostics = p.diagnostics := by
  unfold claimByRequire
  split
  · split
    · exact ⟨Progress.claim_visited _ _, Progress.claim_diagnostics _ _⟩
    · exact ⟨rfl, rfl⟩
  · exact ⟨rfl, rfl⟩

/-! ## One node -/

/-- Whether a node goes, should one of its own calls be an unsupported hook: a statement that is not empty,
or the lone expression of an arrow function. -/
def answersForCalls : Tree → Bool
  | concise _ => true
  | t => t.kind.isStatement && t.kind != .emptyStmt

/-- What stands in the place of a node that went. -/
def remains : Tree → Tree
  | concise _ => block Span.dummy []
  | _ => emptyStmt Span.dummy

/-- The items of a file, or the statements of a block. -/
def listed : Tree → List Tree
  | program _ _ items => items
  | block _ stmts => stmts
  | _ => []

theorem findCallInStatement?_concise {α : Type} (check : Tree → Option α) (e : Tree) :
    (concise e).findCallInStatement? check = e.findCall? check := by
  rw [findCallInStatement?_eq, findCall?_eq]
  simp

theorem findCallInStatement?_exprStmt {α : Type} (check : Tree → Option α) (s : Span) (e : Tree) :
    (exprStmt s e).findCallInStatement? check = e.findCall? check := by
  rw [findCallInStatement?_eq, findCall?_eq, children_node, List.flatMap_singleton]

/-- The steps that a node whose children are converted can take. -/
inductive NodeStep (env : Setting) : Tree → Progress → Tree → Progress → Prop
  /-- A file sifts its items, and may import what it still needs among them. -/
  | file (s : Span) (interpreter : Option String) (items before added after : List Tree) (p q : Progress)
      (split : (sift env items p).1 = before ++ after)
      (imports : ∀ u ∈ added, ∃ names, u = importOfNeeded env names)
      (visited : q.visited = (sift env items p).2.visited)
      (diagnostics : q.diagnostics = (sift env items p).2.diagnostics) :
      NodeStep env (program s interpreter items) p (program s interpreter (before ++ added ++ after)) q
  /-- A block sifts its statements. -/
  | block (s : Span) (stmts : List Tree) (p q : Progress)
      (visited : q.visited = (sift env stmts p).2.visited)
      (diagnostics : q.diagnostics = (sift env stmts p).2.diagnostics) :
      NodeStep env (block s stmts) p (block s (sift env stmts p).1) q
  /-- A hook is called by its bare name. -/
  | rename (s ms ns : Span) (object : Tree) (y : String) (args : List Tree) (types : Tree) (h : Hook)
      (p : Progress) (named : Hook.ofName? y = some h) (changed : h ≠ .describe) :
      NodeStep env (call s (member ms object (name ns y)) args types) p
        (call s (ident ms (Vocabulary.rename h.name) false) args types) p
  /-- A require of the test package requires the journey package. -/
  | redirect (s fs ss : Span) (optional : Bool) (raw : Option String) (args : List Tree) (types : Tree)
      (p : Progress) :
      NodeStep env
        (call s (ident fs "require" optional)
          (arg none (str ss env.vocabulary.sourcePackage raw) :: args) types) p
        (call s (ident fs "require" optional)
          (arg none (str ss env.vocabulary.targetPackage none) :: args) types) p
  /-- A node that calls an unsupported hook goes, and the hook is reported. -/
  | discard (t : Tree) (p : Progress) (hook : String) (s : Span) (answers : t.answersForCalls = true)
      (found : t.findCallInStatement? unsupportedHook? = some (hook, s)) (new : p.isNew s = true) :
      NodeStep env t p t.remains ((p.markVisited s).report env (.unsupportedHook hook) s)
  /-- Any other node stays; an unsupported hook that it calls was dealt with before. -/
  | keep (t : Tree) (p : Progress) (unlisted : t.listed = [])
      (unhooked : ∀ h, t.calledHook? = some h → h = .describe)
      (unrequired : t.isRequireOf env.vocabulary.sourcePackage = false)
      (dealt : t.answersForCalls = true → ∀ hook s,
        t.findCallInStatement? unsupportedHook? = some (hook, s) → p.isNew s = false) :
      NodeStep env t p t p

/-- A discard notes and reports the hook found, if its place is new. -/
theorem discard?_eq_some {env : Setting} {found : Option (String × Span)} {p q : Progress}
    (h : discard? env found p = some q) :
    ∃ hook s, found = some (hook, s) ∧ p.isNew s = true ∧
      q = (p.markVisited s).report env (.unsupportedHook hook) s := by
  unfold discard? at h
  split at h
  · split at h
    · exact ⟨_, _, rfl, ‹_›, (Option.some.inj h).symm⟩
    · cases h
  · cases h

theorem discard?_eq_none {env : Setting} {found : Option (String × Span)} {p : Progress}
    (h : discard? env found p = none) {hook : String} {s : Span} (hfound : found = some (hook, s)) :
    p.isNew s = false := by
  subst hfound
  unfold discard? at h
  cases hnew : p.isNew s with
  | true => simp [hnew] at h
  | false => rfl

theorem calledMember?_eq_some {t : Tree} {y : String} {ns : Span} (h : t.calledMember? = some (y, ns)) :
    ∃ s ms object args types, t = call s (member ms object (name ns y)) args types := by
  unfold calledMember? at h
  split at h
  · cases h
    exact ⟨_, _, _, _, _, rfl⟩
  · cases h

theorem calledHook?_eq_some {t : Tree} {h : Hook} (hh : t.calledHook? = some h) :
    ∃ s ms ns object y args types,
      t = call s (member ms object (name ns y)) args types ∧ Hook.ofName? y = some h := by
  obtain ⟨⟨y, ns⟩, hm, hy⟩ := Option.bind_eq_some_iff.mp hh
  obtain ⟨s, ms, object, args, types, rfl⟩ := calledMember?_eq_some hm
  exact ⟨s, ms, ns, object, y, args, types, rfl, hy⟩

theorem unsupportedMatcher?_eq_some {t : Tree} {found : String × String}
    (h : t.unsupportedMatcher? = some found) :
    ∃ s ms ns object args types, t = call s (member ms object (name ns found.1)) args types ∧
      object.withoutParens.isCallTo "expect" = true ∧
      Vocabulary.suggestion? found.1 = some found.2 := by
  unfold unsupportedMatcher? at h
  split at h
  · split at h
    · rename_i hexpect
      obtain ⟨suggestion, hsuggestion, rfl⟩ := Option.map_eq_some_iff.mp h
      exact ⟨_, _, _, _, _, _, rfl, hexpect, hsuggestion⟩
    · cases h
  · cases h

/-- What requires a package is a call of `require` with the package's name as first argument. -/
theorem isRequireOf_eq_true {package : String} {t : Tree} (h : t.isRequireOf package = true) :
    ∃ s fs ss optional raw args types,
      t = call s (ident fs "require" optional) (arg none (str ss package raw) :: args) types := by
  unfold isRequireOf at h
  split at h
  · obtain ⟨hf, hv⟩ := Bool.and_eq_true_iff.mp h
    rw [eq_of_beq hf, eq_of_beq hv]
    exact ⟨_, _, _, _, _, _, _, rfl⟩
  · cases h

theorem isRequireOf_ident {package f : String} (hf : f ≠ "require") (s fs : Span) (optional : Bool)
    (args : List Tree) (types : Tree) :
    (call s (ident fs f optional) args types).isRequireOf package = false := by
  cases hr : (call s (ident fs f optional) args types).isRequireOf package with
  | false => rfl
  | true =>
    obtain ⟨_, _, _, _, _, _, _, heq⟩ := isRequireOf_eq_true hr
    cases heq
    exact absurd rfl hf

theorem rename_ne_require {h : Hook} (hh : h ≠ .describe) : Vocabulary.rename h.name ≠ "require" := by
  cases h with
  | describe => exact absurd rfl hh
  | _ => decide

theorem redirectRequire_of_not_isRequireOf {env : Setting} {t : Tree}
    (h : t.isRequireOf env.vocabulary.sourcePackage = false) : redirectRequire env t = t := by
  unfold redirectRequire
  rw [h]
  rfl

theorem renameHook_of_forall {t : Tree} (h : ∀ hook, t.calledHook? = some hook → hook = .describe) :
    renameHook t = t := by
  unfold renameHook
  split
  · rename_i hook hh
    exact if_pos (h _ hh)
  · rfl

/-- A call is renamed, redirected or kept. -/
theorem convertedCall_step (env : Setting) (s : Span) (callee : Tree) (args : List Tree) (types : Tree)
    (p : Progress) :
    NodeStep env (call s callee args types) p
      (redirectRequire env (renameHook (call s callee args types))) p := by
  -- a hook under its bare name is no require, so at most one of the two changes is made
  by_cases hhook : ∀ h, (call s callee args types).calledHook? = some h → h = .describe
  · rw [renameHook_of_forall hhook]
    cases hr : (call s callee args types).isRequireOf env.vocabulary.sourcePackage with
    | false =>
      rw [redirectRequire_of_not_isRequireOf hr]
      exact .keep _ p rfl hhook hr fun ha => nomatch ha
    | true =>
      obtain ⟨_, fs, ss, optional, raw, rest, _, heq⟩ := isRequireOf_eq_true hr
      cases heq
      unfold redirectRequire
      rw [if_pos hr]
      exact .redirect s fs ss optional raw rest types p
  · obtain ⟨h, hh, hdescribe⟩ : ∃ h, (call s callee args types).calledHook? = some h ∧ h ≠ .describe := by
      push Not at hhook
      exact hhook
    obtain ⟨_, ms, ns, object, y, _, _, heq, hy⟩ := calledHook?_eq_some hh
    cases heq
    have hrename : renameHook (call s (member ms object (name ns y)) args types) =
        call s (ident ms (Vocabulary.rename h.name) false) args types := by
      unfold renameHook
      rw [hh]
      exact if_neg hdescribe
    rw [hrename, redirectRequire_of_not_isRequireOf
      (isRequireOf_ident (rename_ne_require hdescribe) s ms false args types)]
    exact .rename s ms ns object y args types h p hy hdescribe

/-- A node that answers for its calls goes if one of them is an unsupported hook at a new place, and stays
otherwise. -/
theorem answering_step (env : Setting) {t : Tree} (p : Progress) (answers : t.answersForCalls = true)
    (unlisted : t.listed = []) (unhooked : ∀ h, t.calledHook? = some h → h = .describe)
    (unrequired : t.isRequireOf env.vocabulary.sourcePackage = false) :
    let r := match discard? env (t.findCallInStatement? unsupportedHook?) p with
      | some q => (t.remains, q)
      | none => (t, p)
    NodeStep env t p r.1 r.2 := by
  intro r
  cases hdiscard : discard? env (t.findCallInStatement? unsupportedHook?) p with
  | some q =>
    have hr : r = (t.remains, q) := by
      simp only [r, hdiscard]
    obtain ⟨hook, s, hfound, hnew, rfl⟩ := discard?_eq_some hdiscard
    rw [hr]
    exact .discard t p hook s answers hfound hnew
  | none =>
    have hr : r = (t, p) := by
      simp only [r, hdiscard]
    rw [hr]
    exact .keep t p unlisted unhooked unrequired fun _ _ _ hfound => discard?_eq_none hdiscard hfound

section OtherNodes

/-! Nodes that are neither a file nor a block, a lone expression or a call. -/

variable {t : Tree} (hfile : ∀ interpreter s items, t ≠ program s interpreter items)
  (hblock : ∀ s stmts, t ≠ block s stmts) (hconcise : ∀ e, t ≠ concise e)
  (hcall : ∀ s callee args types, t ≠ call s callee args types)

include hfile hblock in
theorem listed_of_other : t.listed = [] := by
  unfold listed
  split
  · exact absurd rfl (hfile _ _ _)
  · exact absurd rfl (hblock _ _)
  · rfl

include hcall in
theorem calledHook?_of_other : t.calledHook? = none := by
  cases h : t.calledHook? with
  | none => rfl
  | some hook =>
    obtain ⟨_, _, _, _, _, _, _, heq, _⟩ := calledHook?_eq_some h
    exact absurd heq (hcall _ _ _ _)

include hcall in
theorem isRequireOf_of_other (package : String) : t.isRequireOf package = false := by
  cases h : t.isRequireOf package with
  | false => rfl
  | true =>
    obtain ⟨_, _, _, _, _, _, _, heq⟩ := isRequireOf_eq_true h
    exact absurd heq (hcall _ _ _ _)

include hconcise in
theorem answersForCalls_of_other :
    t.answersForCalls = (t.kind.isStatement && t.kind != .emptyStmt) := by
  unfold answersForCalls
  split
  · exact absurd rfl (hconcise _)
  · rfl

include hconcise in
theorem remains_of_other : t.remains = emptyStmt Span.dummy := by
  unfold remains
  split
  · exact absurd rfl (hconcise _)
  · rfl

end OtherNodes

/-- Every conversion of a node is one of the steps. -/
theorem convertNode_step (env : Setting) (t : Tree) (p : Progress) :
    NodeStep env t p (convertNode env t p).1 (convertNode env t p).2 := by
  unfold convertNode
  split
  · rename_i interpreter s items
    obtain ⟨c, hc⟩ := convertStatements_sift env items s.lo p
    rw [hc]
    obtain ⟨before, added, after, hsplit, hitems, hadded⟩ := addDeferredImport_split env
      (sift env items p).1 ((sift env items p).2.withComments c)
    obtain ⟨hvisited, hdiagnostics⟩ := addDeferredImport_progress env
      (sift env items p).1 ((sift env items p).2.withComments c)
    dsimp only
    rw [hitems]
    exact .file s interpreter items before added after p _ hsplit hadded hvisited hdiagnostics
  · rename_i s stmts
    obtain ⟨c, hc⟩ := convertStatements_sift env stmts (closingBrace s) p
    rw [hc]
    exact .block s stmts p _ rfl rfl
  · rename_i e
    have hstep := answering_step (t := concise e) env p rfl rfl (fun _ hh => nomatch hh) rfl
    rw [findCallInStatement?_concise] at hstep
    exact hstep
  · exact convertedCall_step env _ _ _ _ p
  · rename_i hfile hblock hconcise hcall
    have hhook : ∀ h, t.calledHook? = some h → h = .describe := by
      intro h hh
      cases (calledHook?_of_other hcall).symm.trans hh
    have hlisted := listed_of_other hfile hblock
    have hrequire := isRequireOf_of_other hcall env.vocabulary.sourcePackage
    have hanswers := answersForCalls_of_other hconcise
    split
    · rename_i hstatement
      have hstep := answering_step env p (hanswers.trans hstatement) hlisted hhook hrequire
      rw [remains_of_other hconcise] at hstep
      exact hstep
    · rename_i hstatement
      exact .keep t p hlisted hhook hrequire fun h => absurd (hanswers.symm.trans h) hstatement

/-! ## A whole traversal -/

theorem convert_awaitedStep (env : Setting) (s : Span) {e : Tree} (p : Progress)
    (h : e.isStepCall = true) : (await s e).convert env p = e.convert env p := by
  rw [convert, if_pos h]

theorem convert_importDecl (env : Setting) (typeOnly : Bool) (phase : ImportPhase) (s : Span)
    (cs : List Tree) (p : Progress) :
    (node (.importDecl typeOnly phase) s cs).convert env p =
      convertImport env (node (.importDecl typeOnly phase) s cs) p := by
  rw [convert]

theorem convert_declarator (env : Setting) (definite : Bool) (s : Span) (cs : List Tree)
    (p : Progress) :
    (node (.declarator definite) s cs).convert env p =
      let claimed := claimByRequire env (node (.declarator definite) s cs) p
      let converted := convertAmong env cs claimed.2
      ((claimed.1.map fun names => (node (.declarator definite) s converted.1).takeUp names).getD
        (node (.declarator definite) s converted.1), converted.2) := by
  rw [convert]
  dsimp only
  cases (claimByRequire env (node (.declarator definite) s cs) p).1 <;> rfl

/-- Any other node is converted behind its children. -/
theorem convert_node (env : Setting) {k : Kind} (s : Span) {cs : List Tree} (p : Progress)
    (himport : k.isImport = false) (hdeclarator : ∀ definite, k ≠ .declarator definite)
    (hawait : ∀ e, k = .await → cs = [e] → e.isStepCall = false) :
    (node k s cs).convert env p =
      convertNode env (node k s (convertAmong env cs p).1) (convertAmong env cs p).2 := by
  by_cases h : ∃ e, k = .await ∧ cs = [e]
  · obtain ⟨e, rfl, rfl⟩ := h
    rw [convert, hawait e rfl rfl]
    rfl
  · rw [convert]
    · intro e hk hcs
      exact h ⟨e, hk, hcs⟩
    · intro typeOnly phase hk
      rw [hk] at himport
      cases himport
    · exact hdeclarator

/-- The four ways into a node: an awaited step, an import, a declarator, and any other node. -/
theorem traversal_cases (k : Kind) (cs : List Tree) :
    (∃ e, k = .await ∧ cs = [e] ∧ e.isStepCall = true) ∨
      (∃ typeOnly phase, k = .importDecl typeOnly phase) ∨ (∃ definite, k = .declarator definite) ∨
      k.isImport = false ∧ (∀ definite, k ≠ .declarator definite) ∧
        ∀ e, k = .await → cs = [e] → e.isStepCall = false := by
  by_cases hawait : ∃ e, k = .await ∧ cs = [e] ∧ e.isStepCall = true
  · exact Or.inl hawait
  · by_cases himport : ∃ typeOnly phase, k = .importDecl typeOnly phase
    · exact Or.inr (Or.inl himport)
    · by_cases hdeclarator : ∃ definite, k = .declarator definite
      · exact Or.inr (Or.inr (Or.inl hdeclarator))
      · refine Or.inr (Or.inr (Or.inr ⟨?_, fun d hd => hdeclarator ⟨d, hd⟩, fun e hk hcs => ?_⟩))
        · unfold Kind.isImport
          split
          · exact absurd ⟨_, _, rfl⟩ himport
          · rfl
        · cases hstep : e.isStepCall with
          | true => exact absurd ⟨e, hk, hcs, hstep⟩ hawait
          | false => rfl

/-- Induction over a traversal: what holds of every step, and of lists when it holds of their elements,
holds of the conversion of every tree. -/
theorem convert_induction (env : Setting) (one : Tree → Progress → Tree → Progress → Prop)
    (many : List Tree → Progress → List Tree → Progress → Prop)
    (awaited : ∀ s e p t q, e.isStepCall = true → one e p t q → one (await s e) p t q)
    (imported : ∀ typeOnly phase s cs p t q,
      convertImport env (node (.importDecl typeOnly phase) s cs) p = (t, q) →
      one (node (.importDecl typeOnly phase) s cs) p t q)
    (declared : ∀ definite s cs p claimed p' cs' q,
      claimByRequire env (node (.declarator definite) s cs) p = (claimed, p') →
      convertAmong env cs p' = (cs', q) → many cs p' cs' q →
      one (node (.declarator definite) s cs) p
        ((claimed.map fun names => (node (.declarator definite) s cs').takeUp names).getD
          (node (.declarator definite) s cs')) q)
    (other : ∀ k s cs p cs' q t r, k.isImport = false →
      (∀ e, k = .await → cs = [e] → e.isStepCall = false) →
      convertAmong env cs p = (cs', q) → many cs p cs' q → NodeStep env (node k s cs') q t r →
      one (node k s cs) p t r)
    (nil : ∀ p, many [] p [] p)
    (cons : ∀ c cs p c' q cs' r, c.convert env p = (c', q) → one c p c' q → many cs q cs' r →
      many (c :: cs) p (c' :: cs') r) (t : Tree) :
    ∀ p, one t p (t.convert env p).1 (t.convert env p).2 := by
  induction t with
  | node k s cs ih =>
    intro p
    have hmany : ∀ p, many cs p (convertAmong env cs p).1 (convertAmong env cs p).2 := by
      clear imported declared other awaited
      induction cs with
      | nil => exact nil
      | cons c cs ihcs =>
        intro p
        have htail := ihcs (fun d hd => ih d (List.mem_cons_of_mem c hd))
        exact cons c cs p _ _ _ _ rfl (ih c List.mem_cons_self p) (htail _)
    rcases traversal_cases k cs with ⟨e, rfl, rfl, hstep⟩ | ⟨typeOnly, phase, rfl⟩ | ⟨definite, rfl⟩ |
      ⟨hnotImport, hnotDeclarator, hnotStep⟩
    · rw [convert_awaitedStep env s p hstep]
      exact awaited s e p _ _ hstep (ih e List.mem_cons_self p)
    · rw [convert_importDecl]
      exact imported typeOnly phase s cs p _ _ rfl
    · rw [convert_declarator]
      exact declared definite s cs p _ _ _ _ rfl rfl (hmany _)
    · rw [convert_node env s p hnotImport hnotDeclarator hnotStep]
      exact other k s cs p _ _ _ _ hnotImport hnotStep rfl (hmany p) (convertNode_step env _ _)

end Tree

end JourneyMigration
