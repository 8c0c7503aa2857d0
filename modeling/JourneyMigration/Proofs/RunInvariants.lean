import JourneyMigration.Proofs.TraversalStep

/-!
# Run invariants — what stays true of the marks and reports of a traversal.

A traversal touches its marks and its reports in one way only: where something has to go and its place is
new, it marks the place and reports it. So whatever is said of the two alone, and stays true when a new
place is marked and reported, is true at the end of a run if it was true at its start.
-/

namespace JourneyMigration

open JourneyMigration.Tree

/-- A statement about marks and reports alone that survives the report of a new place. -/
structure RunInvariant (env : Setting) (I : Progress → Prop) : Prop where
  congr : ∀ {p q : Progress}, q.visited = p.visited → q.diagnostics = p.diagnostics → I p → I q
  report : ∀ {p : Progress} (finding : Finding) (s : Span), p.isNew s = true → I p →
    I ((p.markVisited s).report env finding s)

namespace RunInvariant

variable {env : Setting} {I : Progress → Prop}

theorem siftStep (h : RunInvariant env I) {item : Tree} {kept : List Tree} {p q : Progress}
    (hstep : SiftStep env item p kept q) (hp : I p) : I q := by
  cases hstep with
  | assertion s _ _ matcher _ _ new => exact h.report (.unsupportedMatcher matcher) s new hp
  | stay => exact hp
  | empty => exact hp
  | suite => exact hp

theorem sift (h : RunInvariant env I) (items : List Tree) {p : Progress} (hp : I p) :
    I (sift env items p).2 := by
  induction items generalizing p with
  | nil => exact hp
  | cons item rest ih => exact ih (h.siftStep (siftItem_step env item p) hp)

theorem nodeStep (h : RunInvariant env I) {u t : Tree} {p q : Progress} (hstep : NodeStep env u p t q)
    (hp : I p) : I q := by
  cases hstep with
  | file _ _ items _ _ _ _ _ _ _ visited diagnostics =>
    exact h.congr visited diagnostics (h.sift items hp)
  | block _ stmts _ _ visited diagnostics => exact h.congr visited diagnostics (h.sift stmts hp)
  | discard _ _ hook s _ _ new => exact h.report (.unsupportedHook hook) s new hp
  | rename => exact hp
  | redirect => exact hp
  | keep => exact hp

/-- A run keeps its invariants. -/
theorem convert (h : RunInvariant env I) (t : Tree) {p : Progress} (hp : I p) :
    I (t.convert env p).2 := by
  refine convert_induction env (fun _ p _ q => I p → I q) (fun _ p _ q => I p → I q)
    ?awaited ?imported ?declared ?other ?nil ?cons t p hp
  case awaited => exact fun s e p t' q _ ih => ih
  case imported =>
    intro typeOnly phase s cs p t' q himport hp
    obtain ⟨hvisited, hdiagnostics⟩ :=
      convertImport_progress env (node (.importDecl typeOnly phase) s cs) p
    rw [himport] at hvisited hdiagnostics
    exact h.congr hvisited hdiagnostics hp
  case declared =>
    intro definite s cs p claimed p' cs' q hclaim _ ih hp
    obtain ⟨hvisited, hdiagnostics⟩ :=
      claimByRequire_progress env (node (.declarator definite) s cs) p
    rw [hclaim] at hvisited hdiagnostics
    exact ih (h.congr hvisited hdiagnostics hp)
  case other => exact fun k s cs p cs' q t' r _ _ _ ih hstep hp => h.nodeStep hstep (ih hp)
  case nil => exact fun p hp => hp
  case cons => exact fun c cs p c' q cs' r _ hc hcs hp => hcs (hc hp)

end RunInvariant

end JourneyMigration
