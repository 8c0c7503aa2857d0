import JourneyMigration.Proofs.Moves
import JourneyMigration.Proofs.Shapes

/-!
# Kept properties — what is said of the calls and imports of a file holds of the converted file.

The traversal makes few nodes of its own: the call of a renamed hook, a require of the journey package, a
converted import. Everything else that it leaves was there before, with other children at most. So a property
of nodes that only calls and imports can lack holds throughout a converted tree if it holds throughout the
tree, as soon as these few nodes have it and a call does not lose it with the conversion of its parts
(`Kept.convert`).
-/

namespace JourneyMigration

open JourneyMigration.Tree

namespace Tree

/-- Only calls and imports can lack the property, and the traversal takes it from neither. -/
structure Kept (env : Setting) (P : Tree → Prop) : Prop where
  other : ∀ k s cs, k ≠ .call → Kind.isImport k = false → P (node k s cs)
  imports : ∀ typeOnly phase s cs p, P (node (.importDecl typeOnly phase) s cs) →
    P (convertImport env (node (.importDecl typeOnly phase) s cs) p).1
  needed : ∀ names, P (importOfNeeded env names)
  renamed : ∀ s ms (h : Hook) args types,
    P (call s (ident ms (Vocabulary.rename h.name) false) args types)
  redirected : ∀ s fs ss optional args types,
    P (call s (ident fs "require" optional) (arg none (str ss env.vocabulary.targetPackage none) :: args)
      types)
  parts : ∀ s cs p, P (node .call s cs) → P (node .call s (convertAmong env cs p).1)

variable {env : Setting} {P : Tree → Prop}

/-- A property that only calls can lack is kept if it is kept of calls. -/
theorem Kept.of_calls (hother : ∀ k s cs, k ≠ .call → P (node k s cs))
    (hrenamed : ∀ s ms (h : Hook) args types,
      P (call s (ident ms (Vocabulary.rename h.name) false) args types))
    (hrequire : ∀ s fs optional args types, P (call s (ident fs "require" optional) args types))
    (hparts : ∀ s cs p, P (node .call s cs) → P (node .call s (convertAmong env cs p).1)) :
    Kept env P where
  other k s cs hk _ := hother k s cs hk
  imports typeOnly phase s cs p _ := by
    have hkind := convertImport_kind env typeOnly phase s cs p
    generalize (convertImport env (node (.importDecl typeOnly phase) s cs) p).1 = t at hkind
    cases t with
    | node k s cs =>
      obtain rfl : k = .importDecl typeOnly phase := hkind
      exact hother _ s cs nofun
  needed names := hother _ _ _ nofun
  renamed := hrenamed
  redirected s fs ss optional args types := hrequire s fs optional _ types
  parts := hparts

/-! ## Statement lists -/

theorem sift_everywhere (env : Setting) {items : List Tree} (p : Progress)
    (h : ∀ u ∈ items, u.Everywhere P) : ∀ u ∈ (sift env items p).1, u.Everywhere P := by
  refine sift_forall (fun found hstmt t ht => ?_) env h p
  obtain ⟨s, stmts, hblock, ht⟩ := mem_reached_of_testsOfSuite? found ht
  have hstmts : (list stmts).Everywhere P := (hstmt.of_mem_reached hblock).child rfl (.head _)
  exact hstmts.child rfl ht

/-! ## Single nodes -/

namespace Kept

theorem node (h : Kept env P) {k : Kind} {s : Span} {cs : List Tree} (hcall : k ≠ .call)
    (himport : k.isImport = false) (hcs : ∀ c ∈ cs, c.Everywhere P) : (Tree.node k s cs).Everywhere P :=
  everywhere_node.mpr ⟨h.other k s cs hcall himport, fun _ => hcs⟩

theorem list_iff (h : Kept env P) {ts : List Tree} : (list ts).Everywhere P ↔ ∀ t ∈ ts, t.Everywhere P :=
  ⟨fun hts _ ht => hts.child rfl ht, fun hts => h.node nofun rfl hts⟩

/-- The only child of a node that is neither a call nor an import. -/
theorem single (h : Kept env P) {k : Kind} {s : Span} {c : Tree} (hcall : k ≠ .call)
    (himport : k.isImport = false) (hc : c.Everywhere P) : (Tree.node k s [c]).Everywhere P :=
  h.node hcall himport fun _ hmem => List.mem_singleton.mp hmem ▸ hc

theorem leaf (h : Kept env P) {k : Kind} {s : Span} (hcall : k ≠ .call) (himport : k.isImport = false) :
    (Tree.node k s []).Everywhere P :=
  h.node hcall himport fun _ hmem => nomatch hmem

/-- Nothing is reached below an import, so the import itself is all that counts. -/
theorem of_isImport {t : Tree} (ht : t.kind.isImport = true) (hself : P t) : t.Everywhere P := by
  cases t with
  | node k s cs =>
    refine everywhere_node.mpr ⟨hself, fun hk => ?_⟩
    cases hk.symm.trans ht

/-- A call of a bare name has the property throughout if it has it itself, and its arguments do. -/
theorem call_ident (h : Kept env P) {s fs : Span} {f : String} {optional : Bool} {args : List Tree}
    {types : Tree} (hself : P (call s (ident fs f optional) args types)) (hargs : (list args).Everywhere P)
    (htypes : types.Everywhere P) : (call s (ident fs f optional) args types).Everywhere P := by
  refine everywhere_node.mpr ⟨hself, fun _ c hc => ?_⟩
  simp only [List.mem_cons, List.not_mem_nil, or_false] at hc
  rcases hc with rfl | rfl | rfl
  · exact h.leaf nofun rfl
  · exact hargs
  · exact htypes

/-- A step keeps the property, given that the node has it and its children do throughout. -/
theorem step (h : Kept env P) {u t : Tree} {p q : Progress} (hstep : NodeStep env u p t q) (hself : P u)
    (hchildren : ∀ c ∈ u.children, c.Everywhere P) : t.Everywhere P := by
  cases hstep with
  | file s interpreter items before added after _ _ split imports =>
    have hkept := sift_everywhere env p (h.list_iff.mp (hchildren _ (.head _)))
    rw [split] at hkept
    refine h.single nofun rfl (h.list_iff.mpr fun w hw => ?_)
    rcases List.mem_append.mp hw with hw | hw
    · rcases List.mem_append.mp hw with hw | hw
      · exact hkept w (List.mem_append_left _ hw)
      · obtain ⟨names, rfl⟩ := imports w hw
        exact of_isImport rfl (h.needed names)
    · exact hkept w (List.mem_append_right _ hw)
  | block s stmts =>
    have hkept := sift_everywhere env p (h.list_iff.mp (hchildren _ (.head _)))
    exact h.single nofun rfl (h.list_iff.mpr hkept)
  | rename s ms ns object y args types hook =>
    exact h.call_ident (h.renamed s ms hook args types) (hchildren _ (.tail _ (.head _)))
      (hchildren _ (.tail _ (.tail _ (.head _))))
  | redirect s fs ss optional raw args types =>
    have hargs := h.list_iff.mp (hchildren _ (.tail _ (.head _)))
    refine h.call_ident (h.redirected s fs ss optional args types) (h.list_iff.mpr fun a ha => ?_)
      (hchildren _ (.tail _ (.tail _ (.head _))))
    rcases List.mem_cons.mp ha with rfl | ha
    · exact h.single nofun rfl (h.leaf nofun rfl)
    · exact hargs a (List.mem_cons_of_mem _ ha)
  | discard =>
    unfold remains
    split
    · exact h.single nofun rfl (h.leaf nofun rfl)
    · exact h.leaf nofun rfl
  | keep =>
    cases u with
    | node k s cs => exact everywhere_node.mpr ⟨hself, fun _ => hchildren⟩

/-! ## Whole trees -/

/-- A property that is kept holds throughout a converted tree if it holds throughout the tree. -/
theorem convert (h : Kept env P) {t : Tree} (ht : t.Everywhere P) (p : Progress) :
    (t.convert env p).1.Everywhere P := by
  refine convert_induction env (fun t _ t' _ => t.Everywhere P → t'.Everywhere P)
    (fun cs _ cs' _ => (∀ c ∈ cs, c.Everywhere P) → ∀ c ∈ cs', c.Everywhere P)
    ?awaited ?imported ?declared ?other ?nil ?cons t p ht
  case awaited =>
    intro s e p t' q _ ih ht
    exact ih (ht.child rfl (.head _))
  case imported =>
    intro typeOnly phase s cs p t' q himport ht
    have hkind := convertImport_kind env typeOnly phase s cs p
    have hself := h.imports typeOnly phase s cs p ht.self
    rw [himport] at hkind hself
    exact of_isImport (by rw [hkind]; rfl) hself
  case declared =>
    intro definite s cs p claimed p' cs' q _ _ ih ht
    have hkept : (Tree.node (.declarator definite) s cs').Everywhere P :=
      h.node nofun rfl (ih fun c hc => ht.child rfl hc)
    cases claimed with
    | none => exact hkept
    | some names =>
      refine everywhere_takeUp (fun k s cs hk => h.other k s cs ?_ ?_) names hkept
      · rintro rfl
        cases hk
      · refine Bool.eq_false_iff.mpr fun himport => ?_
        obtain ⟨typeOnly, phase, rfl⟩ := Kind.eq_importDecl himport
        cases hk
  case other =>
    intro k s cs p cs' q t' r himport _ hamong ih hstep ht
    refine h.step hstep ?_ (ih fun c hc => ht.child himport hc)
    by_cases hcall : k = .call
    · subst hcall
      have hparts := h.parts s cs p ht.self
      rwa [hamong] at hparts
    · exact h.other k s cs' hcall himport
  case nil => exact fun p h => h
  case cons =>
    intro c cs p c' q cs' r _ hc hcs h d hd
    rcases List.mem_cons.mp hd with rfl | hd
    · exact hc (h c List.mem_cons_self)
    · exact hcs (fun w hw => h w (List.mem_cons_of_mem c hw)) d hd

end Kept

end Tree

end JourneyMigration
