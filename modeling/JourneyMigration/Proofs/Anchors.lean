import JourneyMigration.Proofs.Dealings
import JourneyMigration.Proofs.Moves
import JourneyMigration.Proofs.Shapes
import Mathlib.Data.List.Count

/-!
# Anchors — the positions of a tree that comments can be filed under.

A comment is printed with what starts or ends at its position, so it can be found only as long as something
does: a statement or an item of the file, the closing brace of a block, the start of the file. These are the
anchors of a tree, each counted as often as it occurs. Conversion never makes an anchor. A dealing can take
some away (`Dealing.anchorsLost`), but only those that `Tree.atRisk` names.
-/

namespace JourneyMigration

open JourneyMigration.Tree

/-- A position at which comments are filed, and the side on which they are. -/
inductive Anchor where
  | leading (pos : Nat)
  | trailing (pos : Nat)
deriving DecidableEq, Repr

namespace Anchor

def pos : Anchor → Nat
  | leading pos => pos
  | trailing pos => pos

/-- The comments that are filed there. -/
def comments (s : CommentStore) : Anchor → List Comment
  | leading pos => s.leadingAt pos
  | trailing pos => s.trailingAt pos

end Anchor

namespace Kind

/-- Whether a node of this kind is a statement or stands directly in a file. -/
def isItem (k : Kind) : Bool := k.isStatement || k.isModuleItem

/-- Whether comments can be filed under a position of a node of this kind. -/
def givesAnchors : Kind → Bool
  | program _ | block => true
  | k => k.isItem

/-- Whether a node of this kind has a span of its own, unlike the wrappers that take it from a child. -/
def hasOwnSpan : Kind → Bool
  | declStmt | blockStmt | concise | functionDecl _ | classDecl _ | functionExpr | arg _ | keyPat
  | expression .classExpr | part .methodProp | part .keyValue => false
  | _ => true

/-- Whether a node of this kind keeps its kind and its span in a traversal. -/
def isSteady (k : Kind) : Bool := !k.isStatement && k != .await && k != .concise

end Kind

namespace Tree

/-- The anchors that a node gives. What was made up has no position and gives none. -/
def nodeAnchors (t : Tree) : List Anchor :=
  let given : List Anchor := match t.kind with
    | .program _ => [.leading t.ownSpan.lo]
    | .block => [.leading (closingBrace t.ownSpan)]
    | k => if k.isItem then [.leading t.span.lo, .trailing t.span.hi] else []
  given.filter fun a => a.pos != 0

/-- The anchors of a tree, in visiting order. -/
def anchors (t : Tree) : List Anchor := t.reached.flatMap nodeAnchors

/-- Whether the span of a declaration, or of a block, is written on a node that keeps it. -/
def hasSteadySpan : Tree → Bool
  | node (.functionDecl _) _ [_, f] => f.kind.isSteady && f.kind.hasOwnSpan
  | node (.classDecl _) _ [_, c] => c.kind.isSteady && c.kind.hasOwnSpan
  | t => t.kind.isSteady && t.kind.hasOwnSpan

/-- Whether a node is built the way a file is read: a statement around a declaration or a block has its
place in it, and lists hold statements and items of files. -/
def isPlaced (t : Tree) : Bool :=
  (match t with
    | node .declStmt _ [d] => d.hasSteadySpan
    | node .blockStmt _ [b] => b.hasSteadySpan
    | _ => true) &&
  t.listed.all fun u => u.kind.isItem

end Tree

/-- The anchors that were there before a dealing and are gone after it. -/
def Dealing.anchorsLost (d : Dealing) : List Anchor := d.before.anchors.diff d.after.anchors

namespace Tree

variable {env : Setting}

/-! ## Reading anchors -/

theorem anchors_node (k : Kind) (s : Span) (cs : List Tree) :
    (node k s cs).anchors =
      (node k s cs).nodeAnchors ++ if k.isImport then [] else cs.flatMap anchors := by
  rw [anchors, reached, List.flatMap_cons]
  split
  · rfl
  · rw [reachedAmong_eq, List.flatMap_assoc]
    rfl

theorem anchors_of_not_isImport {k : Kind} (hk : k.isImport = false) (s : Span) (cs : List Tree) :
    (node k s cs).anchors = (node k s cs).nodeAnchors ++ cs.flatMap anchors := by
  rw [anchors_node, hk]
  rfl

/-- A node of another kind has the anchors of its children. -/
theorem anchors_of_not_givesAnchors {k : Kind} (hk : k.givesAnchors = false) (s : Span) (cs : List Tree) :
    (node k s cs).anchors = cs.flatMap anchors := by
  have himport : k.isImport = false := by
    refine Bool.eq_false_iff.mpr fun h => ?_
    obtain ⟨typeOnly, phase, rfl⟩ := Kind.eq_importDecl h
    cases hk
  have hnone : (node k s cs).nodeAnchors = [] := by
    unfold nodeAnchors
    split
    · rename_i heq
      cases heq
      cases hk
    · rename_i heq
      cases heq
      cases hk
    · rename_i hfile hblock
      have hitem : k.isItem = false := by
        unfold Kind.givesAnchors at hk
        split at hk
        · cases hk
        · cases hk
        · exact hk
      rw [kind_node, hitem]
      rfl
  rw [anchors_of_not_isImport himport, hnone, List.nil_append]

theorem nodeAnchors_congr {t u : Tree} (hkind : t.kind = u.kind) (hown : t.ownSpan = u.ownSpan)
    (hspan : t.span = u.span) : t.nodeAnchors = u.nodeAnchors := by
  unfold nodeAnchors
  rw [hkind, hown, hspan]

theorem nodeAnchors_of_isItem {t : Tree} (ht : t.kind.isItem = true) :
    t.nodeAnchors = [Anchor.leading t.span.lo, .trailing t.span.hi].filter fun a => a.pos != 0 := by
  unfold nodeAnchors
  split
  · rename_i heq
    rw [heq] at ht
    cases ht
  · rename_i heq
    rw [heq] at ht
    cases ht
  · rw [ht]
    rfl

theorem leading_mem_nodeAnchors {t : Tree} (ht : t.kind.isItem = true) (hlo : t.span.lo ≠ 0) :
    .leading t.span.lo ∈ t.nodeAnchors := by
  rw [nodeAnchors_of_isItem ht]
  exact List.mem_filter.mpr ⟨List.mem_cons_self, bne_iff_ne.mpr hlo⟩

theorem trailing_mem_nodeAnchors {t : Tree} (ht : t.kind.isItem = true) (hhi : t.span.hi ≠ 0) :
    .trailing t.span.hi ∈ t.nodeAnchors := by
  rw [nodeAnchors_of_isItem ht]
  exact List.mem_filter.mpr ⟨List.mem_cons_of_mem _ List.mem_cons_self, bne_iff_ne.mpr hhi⟩

theorem nodeAnchors_subset (t : Tree) : t.nodeAnchors ⊆ t.anchors := by
  intro a ha
  exact List.mem_flatMap.mpr ⟨t, self_mem_reached t, ha⟩

theorem span_of_hasOwnSpan {t : Tree} (h : t.kind.hasOwnSpan = true) : t.span = t.ownSpan := by
  unfold span
  split
  all_goals first | rfl | cases h

/-! ## Places that stay -/

theorem convertImport_ownSpan (env : Setting) (t : Tree) (p : Progress) :
    (convertImport env t p).1.ownSpan = t.ownSpan := by
  unfold convertImport
  split
  · split
    · dsimp only
      split
      · rfl
      · split <;> rfl
    · rfl
  · rfl

theorem takeUp_ownSpan (names : List String) (t : Tree) : (t.takeUp names).ownSpan = t.ownSpan := by
  unfold takeUp
  split <;> rfl

theorem answersForCalls_of_isSteady {t : Tree} (ht : t.kind.isSteady = true) :
    t.answersForCalls = false := by
  obtain ⟨⟨hstatement, _⟩, hconcise⟩ :
      (t.kind.isStatement = false ∧ t.kind ≠ .await) ∧ t.kind ≠ .concise := by
    simpa [Kind.isSteady] using ht
  unfold answersForCalls
  split
  · exact absurd rfl hconcise
  · rw [hstatement]
    rfl

/-- A node that is steady keeps its kind and its span. -/
theorem convert_place (env : Setting) {t : Tree} (ht : t.kind.isSteady = true) (p : Progress) :
    (t.convert env p).1.kind = t.kind ∧ (t.convert env p).1.ownSpan = t.ownSpan := by
  refine convert_induction env
    (fun t _ t' _ => t.kind.isSteady = true → t'.kind = t.kind ∧ t'.ownSpan = t.ownSpan)
    (fun _ _ _ _ => True) ?awaited ?imported ?declared ?other ?nil ?cons t p ht
  case awaited => exact fun s e p t' q _ _ ht => nomatch ht
  case imported =>
    intro typeOnly phase s cs p t' q himport _
    have hkind := convertImport_kind env typeOnly phase s cs p
    have hspan := convertImport_ownSpan env (node (.importDecl typeOnly phase) s cs) p
    rw [himport] at hkind hspan
    exact ⟨hkind, hspan⟩
  case declared =>
    intro definite s cs p claimed p' cs' q _ _ _ _
    cases claimed with
    | none => exact ⟨rfl, rfl⟩
    | some names => exact ⟨takeUp_kind names _, takeUp_ownSpan names _⟩
  case other =>
    intro k s cs p cs' q t' r _ _ _ _ hstep ht
    have hanswers : (node k s cs').answersForCalls = false := answersForCalls_of_isSteady ht
    show t'.kind = (node k s cs').kind ∧ t'.ownSpan = (node k s cs').ownSpan
    generalize node k s cs' = u at hstep hanswers ⊢
    cases hstep with
    | discard _ _ _ _ answers => cases hanswers.symm.trans answers
    | _ => exact ⟨rfl, rfl⟩
  case nil => exact fun _ => trivial
  case cons => exact fun _ _ _ _ _ _ _ _ _ _ => trivial

theorem span_convert_of_isSteady {t : Tree} (ht : t.kind.isSteady = true)
    (hspan : t.kind.hasOwnSpan = true) (p : Progress) : (t.convert env p).1.span = t.span := by
  obtain ⟨hkind, hown⟩ := convert_place env ht p
  rw [span_of_hasOwnSpan (t := (t.convert env p).1) (by rw [hkind]; exact hspan), hown,
    span_of_hasOwnSpan hspan]

/-- The span of a declaration stays where it is. -/
theorem span_convert {t : Tree} (ht : t.hasSteadySpan = true) (p : Progress) :
    (t.convert env p).1.span = t.span := by
  -- a function or class gives its place to its declaration, which is passed through
  have hpair : ∀ {k : Kind} (s : Span) (n f : Tree), k.isPassive = true →
      (∀ definite, k ≠ .declarator definite) → k ≠ .await →
      (f.kind.isSteady && f.kind.hasOwnSpan) = true →
      ∃ n' f', ((node k s [n, f]).convert env p).1 = node k s [n', f'] ∧ f'.span = f.span := by
    intro k s n f hk hdeclarator hawait hf
    obtain ⟨hsteady, hspan⟩ := Bool.and_eq_true_iff.mp hf
    rw [convert_of_isPassive env hk hdeclarator hawait]
    exact ⟨_, _, rfl, span_convert_of_isSteady hsteady hspan _⟩
  unfold hasSteadySpan at ht
  split at ht
  · rename_i isDeclare s n f
    obtain ⟨n', f', heq, hf⟩ :=
      hpair (k := .functionDecl isDeclare) s n f rfl (fun _ h => nomatch h) (fun h => nomatch h) ht
    rw [heq]
    exact hf
  · rename_i isDeclare s n c
    obtain ⟨n', c', heq, hc⟩ :=
      hpair (k := .classDecl isDeclare) s n c rfl (fun _ h => nomatch h) (fun h => nomatch h) ht
    rw [heq]
    exact hc
  · obtain ⟨hsteady, hspan⟩ := Bool.and_eq_true_iff.mp ht
    exact span_convert_of_isSteady hsteady hspan p

/-- A statement or item stands where it stood when its children are converted. -/
theorem span_convertAmong (env : Setting) {k : Kind} {s : Span} {cs : List Tree}
    (h : (node k s cs).isPlaced = true) (hitem : k.isItem = true) (p : Progress) :
    (node k s (convertAmong env cs p).1).span = (node k s cs).span := by
  have hplace := (Bool.and_eq_true_iff.mp h).1
  by_cases hdecl : k = .declStmt
  · subst hdecl
    rcases cs with _ | ⟨d, _ | ⟨e, rest⟩⟩
    · rfl
    · exact span_convert hplace p
    · rfl
  by_cases hblock : k = .blockStmt
  · subst hblock
    rcases cs with _ | ⟨b, _ | ⟨c, rest⟩⟩
    · rfl
    · exact span_convert hplace p
    · rfl
  · have hown : k.hasOwnSpan = true := by
      cases k <;> simp_all [Kind.isItem, Kind.isStatement, Kind.isModuleItem, Kind.hasOwnSpan]
    rw [span_of_hasOwnSpan (t := node k s (convertAmong env cs p).1) hown,
      span_of_hasOwnSpan (t := node k s cs) hown]
    rfl

/-- A node gives the same anchors when its children are converted. -/
theorem nodeAnchors_convertAmong (env : Setting) {k : Kind} {s : Span} {cs : List Tree}
    (h : (node k s cs).isPlaced = true) (p : Progress) :
    (node k s (convertAmong env cs p).1).nodeAnchors = (node k s cs).nodeAnchors := by
  cases hitem : k.isItem with
  | false =>
    -- its place is written on the node itself
    unfold nodeAnchors
    rw [kind_node, kind_node, ownSpan_node, ownSpan_node]
    split
    · rfl
    · rfl
    · rw [hitem]
      rfl
  | true => exact nodeAnchors_congr rfl rfl (span_convertAmong env h hitem p)

/-! ## What goes -/

theorem anchors_list (ts : List Tree) : (list ts).anchors = ts.flatMap anchors :=
  anchors_of_not_givesAnchors rfl Span.dummy ts

theorem anchors_program (s : Span) (interpreter : Option String) (items : List Tree) :
    (program s interpreter items).anchors =
      (program s interpreter items).nodeAnchors ++ items.flatMap anchors := by
  rw [anchors_of_not_isImport rfl, List.flatMap_singleton, anchors_list]

theorem anchors_block (s : Span) (stmts : List Tree) :
    (block s stmts).anchors = (block s stmts).nodeAnchors ++ stmts.flatMap anchors := by
  rw [anchors_of_not_isImport rfl, List.flatMap_singleton, anchors_list]

theorem anchors_call (s : Span) (callee : Tree) (args : List Tree) (types : Tree) :
    (call s callee args types).anchors = callee.anchors ++ (args.flatMap anchors ++ types.anchors) := by
  rw [anchors_of_not_givesAnchors rfl, List.flatMap_cons, List.flatMap_cons, List.flatMap_singleton,
    anchors_list]

theorem anchors_importOfNeeded (env : Setting) (names : List String) :
    (importOfNeeded env names).anchors = [] := by
  rw [importOfNeeded, anchors_node]
  rfl

theorem anchors_remains (t : Tree) : t.remains.anchors = [] := by
  unfold remains
  split <;> rfl

/-- The tests that a suite gives way to have no anchors but the suite's. -/
theorem testsOfSuite?_anchors {stmt : Tree} {tests : List Tree} (h : stmt.testsOfSuite? = some tests) :
    List.Sublist (tests.flatMap anchors) stmt.anchors := by
  refine testsOfSuite?_sublist (c := ()) (fun _ => True) (fun _ => anchors) ?_ ?_ trivial h
  · intro c _ k s cs hk
    refine ⟨c, trivial, ?_⟩
    rw [anchors_of_not_isImport hk]
    exact List.sublist_append_right _ _
  · exact fun _ _ _ _ _ _ => rfl

theorem takeUp_anchors (names : List String) (t : Tree) : (t.takeUp names).anchors = t.anchors := by
  refine takeUp_reading (fun k s cs hk => anchors_of_not_givesAnchors ?_ s cs) names t
  unfold Kind.isPatternPart at hk
  split at hk
  all_goals first | rfl | cases hk

theorem claimed_anchors (claimed : Option (List String)) (t : Tree) :
    ((claimed.map fun names => t.takeUp names).getD t).anchors = t.anchors := by
  cases claimed with
  | none => rfl
  | some names => exact takeUp_anchors names t

theorem convertImport_anchors (env : Setting) (typeOnly : Bool) (phase : ImportPhase) (s : Span)
    (cs : List Tree) (p : Progress) :
    (convertImport env (node (.importDecl typeOnly phase) s cs) p).1.anchors =
      (node (.importDecl typeOnly phase) s cs).anchors := by
  have hkind := convertImport_kind env typeOnly phase s cs p
  have hspan := convertImport_ownSpan env (node (.importDecl typeOnly phase) s cs) p
  generalize (convertImport env (node (.importDecl typeOnly phase) s cs) p).1 = t at hkind hspan ⊢
  cases t with
  | node k s' cs' =>
    -- nothing is reached below an import
    obtain rfl : k = .importDecl typeOnly phase := hkind
    obtain rfl : s' = s := hspan
    rw [anchors_node, anchors_node]
    rfl

/-- The anchors that an item can lose in its list: all those of an assertion that journeys lack, and those of
a suite that are not in its tests. -/
def atRiskInList (item : Tree) : List Anchor :=
  if item.kind == .exprStmt && (item.findCallInStatement? unsupportedMatcher?).isSome then item.anchors
  else match item.testsOfSuite? with
    | some tests => item.anchors.diff (tests.flatMap anchors)
    | none => []

/-- The anchors that a node can lose when it is dealt with: those that its items can lose, those in the
callee of a hook, and all of them if the node answers for an unsupported hook. -/
def atRisk (t : Tree) : List Anchor :=
  t.listed.flatMap atRiskInList ++
  (match t, t.calledHook? with
    | call _ callee _ _, some hook => if hook = .describe then [] else callee.anchors
    | _, _ => []) ++
  (if t.answersForCalls && (t.findCallInStatement? unsupportedHook?).isSome then t.anchors else [])

end Tree

/-- An item makes no anchors, and loses none but those at risk. -/
theorem SiftStep.anchors {env : Setting} {item : Tree} {kept : List Tree} {p q : Progress}
    (h : SiftStep env item p kept q) :
    List.Sublist (kept.flatMap Tree.anchors) item.anchors ∧
      ∀ a, item.anchors.count a ≤ (kept.flatMap Tree.anchors).count a + item.atRiskInList.count a := by
  cases h with
  | stay =>
    rw [List.flatMap_singleton]
    exact ⟨.refl _, fun a => Nat.le_add_right _ _⟩
  | empty _ _ placeholder =>
    have hnone : item.anchors = [] := by
      unfold isPlaceholder at placeholder
      split at placeholder
      · rename_i s
        rw [(Span.isDummy_iff s).mp placeholder]
        rfl
      · cases placeholder
    rw [hnone]
    exact ⟨.refl _, fun a => Nat.zero_le _⟩
  | assertion s e p matcher suggestion found =>
    refine ⟨List.nil_sublist _, fun a => ?_⟩
    have hall : (exprStmt s e).atRiskInList = (exprStmt s e).anchors := by
      unfold atRiskInList
      rw [found]
      rfl
    rw [hall]
    exact Nat.le_add_left _ _
  | suite _ tests _ found =>
    refine ⟨testsOfSuite?_anchors found, fun a => ?_⟩
    unfold atRiskInList
    split
    · exact Nat.le_add_left _ _
    · rw [found]
      dsimp only
      rw [List.count_diff]
      omega

theorem sift_anchors (env : Setting) (items : List Tree) (p : Progress) :
    List.Sublist ((sift env items p).1.flatMap Tree.anchors) (items.flatMap Tree.anchors) ∧
      ∀ a, (items.flatMap Tree.anchors).count a ≤
        ((sift env items p).1.flatMap Tree.anchors).count a + (items.flatMap atRiskInList).count a := by
  induction items generalizing p with
  | nil => exact ⟨.refl _, fun _ => Nat.zero_le _⟩
  | cons item rest ih =>
    obtain ⟨hitem, hrisk⟩ := (siftItem_step env item p).anchors
    obtain ⟨hrest, hrisk'⟩ := ih (siftItem env item p).2
    rw [sift, List.flatMap_append, List.flatMap_cons, List.flatMap_cons]
    refine ⟨hitem.append hrest, fun a => ?_⟩
    have hhead := hrisk a
    have htail := hrisk' a
    simp only [List.count_append]
    omega

namespace Tree

variable {env : Setting}

theorem atRisk_call (s : Span) (callee : Tree) (args : List Tree) (types : Tree) {hook : Hook}
    (hcalled : (call s callee args types).calledHook? = some hook) (hhook : hook ≠ .describe) :
    (call s callee args types).atRisk = callee.anchors := by
  unfold atRisk
  rw [hcalled]
  show [] ++ (if hook = .describe then [] else callee.anchors) ++ [] = callee.anchors
  rw [if_neg hhook, List.append_nil, List.nil_append]

/-- The items of a node put at risk what they can lose. -/
theorem count_listed_le_atRisk (t : Tree) (a : Anchor) :
    (t.listed.flatMap atRiskInList).count a ≤ t.atRisk.count a := by
  unfold atRisk
  rw [List.append_assoc, List.count_append]
  exact Nat.le_add_right _ _

/-- A node that sifts its items makes no anchors, and loses none but those at risk. -/
theorem sifted_anchors (env : Setting) {before after : Tree} {own : List Anchor} (p : Progress)
    (hbefore : before.anchors = own ++ before.listed.flatMap anchors)
    (hafter : after.anchors = own ++ (sift env before.listed p).1.flatMap anchors) :
    List.Sublist after.anchors before.anchors ∧
      ∀ a, before.anchors.count a ≤ after.anchors.count a + before.atRisk.count a := by
  obtain ⟨hsift, hrisk⟩ := sift_anchors env before.listed p
  rw [hbefore, hafter]
  refine ⟨hsift.append_left own, fun a => ?_⟩
  have hlist := hrisk a
  have hlisted := count_listed_le_atRisk before a
  rw [List.count_append, List.count_append]
  omega

/-- A step of a node makes no anchors, and takes none away but those at risk. -/
theorem NodeStep.anchors {u t : Tree} {p q : Progress} (h : NodeStep env u p t q) :
    List.Sublist t.anchors u.anchors ∧ ∀ a, u.anchors.count a ≤ t.anchors.count a + u.atRisk.count a := by
  cases h with
  | file s interpreter items before added after _ _ split imports =>
    have hadded : added.flatMap Tree.anchors = [] := by
      refine List.flatMap_eq_nil_iff.mpr fun u hu => ?_
      obtain ⟨names, rfl⟩ := imports u hu
      exact anchors_importOfNeeded env names
    have hitems : (before ++ added ++ after).flatMap Tree.anchors =
        (sift env items p).1.flatMap Tree.anchors := by
      rw [split, List.flatMap_append, List.flatMap_append, List.flatMap_append, hadded, List.append_nil]
    refine sifted_anchors env p (anchors_program s interpreter items) ?_
    rw [anchors_program, hitems]
    rfl
  | block s stmts => exact sifted_anchors env p (anchors_block s stmts) (anchors_block s _)
  | rename s ms ns object y args types hook _ named changed =>
    -- the callee goes, and with it whatever stood in it
    have hident : (ident ms (Vocabulary.rename hook.name) false).anchors = [] := rfl
    rw [atRisk_call s (member ms object (name ns y)) args types named changed, anchors_call, anchors_call,
      hident, List.nil_append]
    refine ⟨List.sublist_append_right _ _, fun a => ?_⟩
    rw [List.count_append]
    omega
  | redirect s fs ss optional raw args types =>
    rw [anchors_call, anchors_call]
    exact ⟨.refl _, fun a => Nat.le_add_right _ _⟩
  | discard _ _ hook hs answers found =>
    rw [anchors_remains]
    refine ⟨List.nil_sublist _, fun a => ?_⟩
    have hall : u.anchors.count a ≤ u.atRisk.count a := by
      unfold atRisk
      rw [answers, found, List.count_append]
      exact Nat.le_add_left _ _
    exact Nat.le_add_left_of_le hall
  | keep => exact ⟨.refl _, fun a => Nat.le_add_right _ _⟩

/-! ## A whole run -/

/-- What is left after a dealing and what it lost are what there was. -/
theorem count_anchorsLost {before after : Tree} (h : List.Sublist after.anchors before.anchors)
    (a : Anchor) :
    after.anchors.count a + (Dealing.mk before after).anchorsLost.count a = before.anchors.count a := by
  have hle := h.count_le a
  show _ + (before.anchors.diff after.anchors).count a = _
  rw [List.count_diff]
  omega

theorem anchorsLost_of_eq {before after : Tree} (h : after.anchors = before.anchors) :
    (Dealing.mk before after).anchorsLost = [] := by
  refine List.eq_nil_iff_forall_not_mem.mpr fun a ha => ?_
  have hsublist : List.Sublist after.anchors before.anchors := h ▸ List.Sublist.refl _
  have hcount := count_anchorsLost hsublist a
  rw [h] at hcount
  have hpos := List.count_pos_iff.mpr ha
  omega

theorem anchors_await (s : Span) (e : Tree) : (await s e).anchors = e.anchors := by
  rw [anchors_of_not_givesAnchors rfl, List.flatMap_singleton]

theorem anchors_declarator (definite : Bool) (s : Span) (cs : List Tree) :
    (node (.declarator definite) s cs).anchors = cs.flatMap anchors :=
  anchors_of_not_givesAnchors rfl s cs

/-- Over a run, the anchors that are left and those that were lost are those that there were. -/
theorem convert_count_anchors (env : Setting) {t : Tree} (ht : ∀ u ∈ t.subtrees, u.isPlaced = true)
    (p : Progress) (a : Anchor) :
    (t.convert env p).1.anchors.count a + ((t.dealings env p).flatMap Dealing.anchorsLost).count a =
      t.anchors.count a := by
  refine dealings_induction env
    (fun t _ t' _ ds => (∀ u ∈ t.subtrees, u.isPlaced = true) →
      t'.anchors.count a + (ds.flatMap Dealing.anchorsLost).count a = t.anchors.count a)
    (fun cs _ cs' _ ds => (∀ c ∈ cs, ∀ u ∈ c.subtrees, u.isPlaced = true) →
      (cs'.flatMap anchors).count a + (ds.flatMap Dealing.anchorsLost).count a =
        (cs.flatMap anchors).count a)
    ?awaited ?imported ?declared ?other ?nil ?cons t p ht
  case awaited =>
    intro s e p t' q ds _ _ ih ht
    have hinner := ih (forall_subtrees_child ht e List.mem_cons_self)
    rw [List.flatMap_append, List.flatMap_singleton, anchorsLost_of_eq (anchors_await s t').symm,
      List.append_nil, anchors_await]
    exact hinner
  case imported =>
    intro typeOnly phase s cs p t' q himport _
    have hsame := convertImport_anchors env typeOnly phase s cs p
    rw [himport] at hsame
    rw [List.flatMap_singleton, anchorsLost_of_eq hsame]
    exact congrArg (List.count a) hsame
  case declared =>
    intro definite s cs p claimed p' cs' q t' ds _ _ ih ht hplaced
    have hsame : t'.anchors = (node (.declarator definite) s cs').anchors := by
      rw [← ht]
      exact claimed_anchors claimed _
    rw [List.flatMap_append, List.flatMap_singleton, anchorsLost_of_eq hsame, List.append_nil, hsame,
      anchors_declarator, anchors_declarator]
    exact ih (forall_subtrees_child hplaced)
  case other =>
    intro k s cs p cs' q t' r ds hk _ hamong ih hnode hplaced
    have hchildren := ih (forall_subtrees_child hplaced)
    have hown : (node k s cs').nodeAnchors = (node k s cs).nodeAnchors := by
      have hconverted := nodeAnchors_convertAmong env (hplaced _ (self_mem_subtrees _)) p
      rw [hamong] at hconverted
      exact hconverted
    have hstep : List.Sublist t'.anchors (node k s cs').anchors := by
      have hnodeStep := convertNode_step env (node k s cs') q
      rw [hnode] at hnodeStep
      exact hnodeStep.anchors.1
    have hdealing := count_anchorsLost hstep a
    rw [anchors_of_not_isImport hk, List.count_append, hown] at hdealing
    rw [List.flatMap_append, List.flatMap_singleton, anchors_of_not_isImport hk, List.count_append,
      List.count_append]
    omega
  case nil => exact fun _ _ => rfl
  case cons =>
    intro c cs p c' q cs' r ds ds' _ hc hcs hplaced
    have hhead := hc (hplaced c List.mem_cons_self)
    have htail := hcs fun d hd => hplaced d (List.mem_cons_of_mem c hd)
    simp only [List.flatMap_cons, List.flatMap_append, List.count_append]
    omega

/-- No dealing loses anchors but those at risk. -/
theorem atRisk_of_mem_anchorsLost (env : Setting) (t : Tree) (p : Progress) :
    ∀ d ∈ t.dealings env p, ∀ a ∈ d.anchorsLost, a ∈ d.before.atRisk := by
  have hsame : ∀ {before after : Tree}, after.anchors = before.anchors →
      ∀ a ∈ (Dealing.mk before after).anchorsLost, a ∈ before.atRisk := by
    intro before after h a ha
    rw [anchorsLost_of_eq h] at ha
    cases ha
  refine dealings_forall env ?awaited ?imported ?declared ?other t p
  case awaited => exact fun s t => hsame (anchors_await s t).symm
  case imported => exact fun typeOnly phase s cs p => hsame (convertImport_anchors env typeOnly phase s cs p)
  case declared => exact fun t claimed => hsame (claimed_anchors claimed t)
  case other =>
    intro t p a ha
    obtain ⟨hsublist, hrisk⟩ := (convertNode_step env t p).anchors
    have hcount := count_anchorsLost hsublist a
    have hlost := List.count_pos_iff.mpr ha
    have hbound := hrisk a
    have hpos : 0 < t.atRisk.count a := by omega
    exact List.count_pos_iff.mp hpos

end Tree

end JourneyMigration
